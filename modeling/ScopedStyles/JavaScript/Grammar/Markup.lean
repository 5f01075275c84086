import ScopedStyles.JavaScript.Parser

namespace ScopedStyles.JavaScript.Parser

variable (grammar : Grammar)

def tagToken : Parser Token := do
  let current := (← present).inTag
  modify fun state => { state with token := current }
  return current

def isAtTagEnd : Parser Bool :=
  return (← token).start.startsWith ">"

def markupWord : Parser String := do
  match (← tagToken).kind with
  | .tagName name =>
    advance
    return name
  | _ => unexpected "jsx identifier"

def markupName : Parser String := do
  let first ← markupWord
  if ← eat ":" then
    return first ++ ":" ++ (← markupWord)
  refine (fun name => do
      if ← eat "." then return some (name ++ "." ++ (← markupWord))
      return none)
    first

def isMarkupQuote (c : Char) : Bool := c == '"' || c == '\''

def quotedValue (start : Cursor) : Parser Tree := do
  match start.rest with
  | quote :: rest =>
    let after := rest.dropWhile (· != quote)
    if after.isEmpty then note .unterminatedString
    let stop := start.moveTo (after.drop 1)
    moveTo stop
    return .token (start.textUpTo stop)
  | [] => throw .endOfFile

def bracedExpression : Parser Tree := do
  expect "\x7b"
  if ← isAt "\x7d" then return .node .markupContainer [.absent]
  if ← eat "..." then
    let value ← allowingIn (grammar .expression)
    unless ← isAt "\x7d" do expected "\x7d"
    return .node .markupSpread [value]
  let value ← allowingIn (grammar .expression)
  unless ← isAt "\x7d" do expected "\x7d"
  return .node .markupContainer [value]

def attributeValue : Parser Tree := do
  let start := (Gap.skip (← token).next).next
  if (start.rest.head?.map isMarkupQuote).getD false then quotedValue start
  else
    expect "="
    if ← isAt "\x7b" then
      let value ← bracedExpression grammar
      expect "\x7d"
      match value with
      | .node .markupContainer [.absent] => throw .emptyAttribute
      | .node .markupSpread [value] => return .node .markupContainer [value]
      | _ => return value
    else if ← isAt "<" then grammar .markup
    else failAt .invalidAttribute

def markupAttribute : Parser Tree := do
  if ← isAt "\x7b" then
    advance
    expect "..."
    let value ← allowingIn (grammar .assignment)
    expect "\x7d"
    return .node .markupSpread [value]
  let first ← markupWord
  let name ← if ← eat ":" then pure (first ++ ":" ++ (← markupWord)) else pure first
  let value ← if ← isAt "=" then attributeValue grammar else pure .absent
  return .node .markupAttribute [.word name, value]

def closeTagOr (fail : Parser Unit) : Parser Unit := do
  match (← tagToken).kind with
  | .tagEnd => advance
  | _ => fail

def closeOpeningTag : Parser Unit :=
  closeTagOr (unexpected "> (jsx closing tag)")

def closeClosingTag : Parser Unit :=
  closeTagOr (expected "jsx tag end")

def checkMarkupText (text : List Char) : Parser Unit := do
  if text.contains '>' then note (.markupCharacter ["`\x7b'>'\x7d`", "`&gt;`"])
  if text.contains '\x7d' then note (.markupCharacter ["`\x7b'\x7d'\x7d`", "`&rbrace;`"])

def isClosingTag (start : Cursor) : Bool :=
  (Gap.skip start.next).next.startsWith "/"

def markupChild (start : Cursor) : Parser (Option Tree) := do
  match start.rest with
  | [] =>
    moveTo start
    throw .endOfFile
  | '<' :: _ =>
    moveTo start
    if isClosingTag start then return none
    return some (← grammar .markup)
  | '\x7b' :: _ =>
    moveTo start
    let child ← bracedExpression grammar
    moveTo (← token).next
    return some child
  | _ =>
    let text := start.rest.takeWhile fun c => c != '<' && c != '\x7b'
    checkMarkupText text
    moveTo (start.skip text.length)
    return some (.token (String.ofList text))

def markupChildren : Parser Tree := do
  let children ← many do markupChild grammar (← get).resume
  return .node .markupChildren children

def openTag : Parser Unit := do
  let _ ← tagToken
  expect "<"

def closingTag : Parser (Option String) := do
  openTag
  expect "/"
  let name ← if ← isAtTagEnd then pure none else some <$> markupName
  closeClosingTag
  return name

def checkClosing (opening closing : Option String) : Parser Unit := do
  if opening != closing then
    match opening with
    | some name => throw (.closingTagMismatch name)
    | none => throw .fragmentMismatch

def markupElement : Parser Tree := do
  openTag
  if ← isAtTagEnd then
    closeOpeningTag
    let children ← markupChildren grammar
    checkClosing none (← closingTag)
    return .node .fragment [children]
  let name ← markupName
  let attributes ← many do
    let current ← present
    if current.start.startsWith ">" || current.start.startsWith "/" then return none
    return some (← markupAttribute grammar)
  let parts := .word name :: attributes
  if (← token).start.startsWith "/" then
    moveTo (← token).start.next
    closeOpeningTag
    return .node .markup [.node (.openingTag true) parts, .node .markupChildren [], .absent]
  closeOpeningTag
  let children ← markupChildren grammar
  let closing ← closingTag
  checkClosing (some name) closing
  return .node .markup
    [.node (.openingTag false) parts, children, .node .closingTag [.word name]]

end ScopedStyles.JavaScript.Parser
