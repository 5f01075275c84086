import ScopedStyles.JavaScript.Cursor
import ScopedStyles.JavaScript.Escape
import ScopedStyles.JavaScript.Numeral
import ScopedStyles.JavaScript.Problem
import ScopedStyles.Text.Identifier

namespace ScopedStyles.JavaScript

inductive TokenKind where
  | endOfFile
  | word (name : String) (isEscaped : Bool)
  | name (text : String)
  | number
  | bigInteger
  | string (value : String)
  | punctuator (text : String)
  | tagName (name : String)
  | tagEnd
  | invalid (problem : Problem)
  deriving Repr, Inhabited

inductive Strictness where
  | always
  | strictCode
  | moduleCode
  deriving DecidableEq, Repr, Inhabited

structure Token where
  kind : TokenKind
  start : Cursor
  next : Cursor
  afterLineEnd : Bool
  remarks : List (Strictness × Problem)
  deriving Repr, Inhabited

abbrev RawToken := TokenKind × List Char × List (Strictness × Problem)

namespace Token

def spelling (token : Token) : String :=
  token.start.textUpTo token.next

def isPunctuator (token : Token) (text : String) : Bool :=
  match token.kind with
  | .punctuator other => other == text
  | _ => false

def isWord (token : Token) (name : String) : Bool :=
  match token.kind with
  | .word other _ => other == name
  | _ => false

def isEnd (token : Token) : Bool :=
  match token.kind with
  | .endOfFile => true
  | _ => false

def shownWord : String → String
  | "typeof" => "typeOf"
  | "instanceof" => "instanceOf"
  | word => word

def shownPunctuator : String → String
  | "+=" => "+"
  | "-=" => "-"
  | "*=" => "*"
  | "/=" => "/"
  | text => text

def bytePlace (source : List Char) (cursor : Cursor) : Nat :=
  1 + (String.ofList (source.take cursor.offset)).utf8ByteSize

def problemPlaces (source : List Char) (token : Token) (problem : Problem) : Nat × Nat :=
  let start := bytePlace source token.start
  let next := bytePlace source token.next
  match problem with
  | .unexpectedCharacter _ => (start, start)
  | .escapedKeyword _ => (start, next)
  | _ => (next, next)

def shown (source : List Char) (token : Token) : String :=
  match token.kind with
  | .endOfFile => "<eof>"
  | .word name _ => shownWord name
  | .name text => text
  | .number =>
    "numeric literal (" ++ Numeral.value token.spelling ++ ", " ++ token.spelling ++ ")"
  | .bigInteger =>
    "bigint literal (" ++ Numeral.wholeValue token.spelling ++ ", " ++ token.spelling ++ ")"
  | .string value => "string literal (" ++ value ++ ", " ++ token.spelling ++ ")"
  | .punctuator text => shownPunctuator text
  | .tagName name => "jsx name (" ++ name ++ ")"
  | .tagEnd => "jsx tag end"
  | .invalid problem =>
    let (start, next) := problemPlaces source token problem
    "<lexing error: Error \x7b error: (" ++ toString start ++ ".." ++ toString next ++ ", " ++
      problem.inspect ++ ") \x7d>"

def punctuators : List String :=
  [">>>=", "...", "===", "!==", "**=", "<<=", ">>=", ">>>", "&&=", "||=", "??=",
    "=>", "==", "!=", "<=", ">=", "&&", "||", "??", "++", "--", "+=", "-=", "*=", "/=",
    "%=", "&=", "|=", "^=", "<<", ">>", "**",
    "\x7b", "\x7d", "(", ")", "[", "]", ";", ",", "<", ">", "+", "-", "*", "/", "%", "&", "|",
    "^", "!", "~", "?", ":", "=", ".", "#", "@", "`"]

def punctuatorAt? (text : List Char) : Option String :=
  punctuators.find? fun p => p.toList.isPrefixOf text

def startsName (c : Char) : Bool :=
  c == '$' || c == '_' || Text.startsIdentifier c

def continuesName (c : Char) : Bool :=
  c == '$' || c.toNat == 0x200c || c.toNat == 0x200d || Text.continuesIdentifier c

def keywords : List String :=
  ["break", "case", "catch", "class", "const", "continue", "debugger", "default", "delete", "do",
    "else", "export", "extends", "finally", "for", "function", "if", "import", "in", "instanceof",
    "new", "null", "return", "super", "switch", "this", "throw", "true", "false", "try", "typeof",
    "var", "void", "while", "with"]

structure Name where
  chars : List Char := []
  isEscaped : Bool := false
  hasStrayCharacter : Bool := false

def readNameFrom : Nat → Name → List Char → Except Problem (Name × List Char)
  | 0, name, text => .ok (name, text)
  | fuel + 1, name, '\\' :: text =>
    match text with
    | 'u' :: text => do
      let escape ← Escape.readUnicode text
      let stray := !(escape.value.head?.map continuesName).getD true
      readNameFrom fuel
        ⟨escape.value.reverse ++ name.chars, true, name.hasStrayCharacter || stray⟩ escape.rest
    | _ => .error .expectedUnicodeEscape
  | fuel + 1, name, c :: text =>
    if continuesName c then readNameFrom fuel { name with chars := c :: name.chars } text
    else .ok (name, c :: text)
  | _, name, [] => .ok (name, [])

def readWord (text : List Char) : RawToken :=
  match readNameFrom (text.length + 1) {} text with
  | .error problem => (.invalid problem, text.drop 1, [])
  | .ok (name, rest) =>
    let word := String.ofList name.chars.reverse
    let remarks :=
      if name.hasStrayCharacter then [(.always, .invalidIdentifierCharacter)] else []
    if text.head? == some '\\' then (.name word, rest, remarks)
    else if name.isEscaped && keywords.contains word then
      (.invalid (.escapedKeyword word), rest, [])
    else (.word word name.isEscaped, rest, remarks)

def isDigitOrBar (isDigit : Char → Bool) (c : Char) : Bool :=
  isDigit c || c == '_'

def separatesDigits (isDigit : Char → Bool) : List Char → Bool
  | [] => true
  | '_' :: rest => (rest.head?.map isDigit).getD false && separatesDigits isDigit rest
  | _ :: rest => separatesDigits isDigit rest

def separatorRemarks (isDigit : Char → Bool) (digits : List Char) :
    List (Strictness × Problem) :=
  if separatesDigits isDigit digits then [] else [(.always, .numericSeparator)]

def isBinaryDigit (c : Char) : Bool := c == '0' || c == '1'

def endNumber (rest : List Char) (remarks : List (Strictness × Problem)) : RawToken :=
  if (rest.head?.map startsName).getD false then (.invalid .identifierAfterNumber, rest, [])
  else (.number, rest, remarks)

def readRadix (base : DigitKind) (isDigit : Char → Bool) (text : List Char) : RawToken :=
  let digits := text.takeWhile (isDigitOrBar isDigit)
  let rest := text.dropWhile (isDigitOrBar isDigit)
  if !digits.any isDigit then (.invalid (.missingDigit base), rest, [])
  else
    match rest with
    | 'n' :: rest => (.bigInteger, rest, separatorRemarks isDigit digits)
    | _ => endNumber rest (separatorRemarks isDigit digits)

def decimalDigits (text : List Char) : List Char × List Char :=
  (text.takeWhile (isDigitOrBar Char.isDigit), text.dropWhile (isDigitOrBar Char.isDigit))

def readExponent (text : List Char) (remarks : List (Strictness × Problem)) : RawToken :=
  match text with
  | [] => (.number, [], remarks)
  | c :: rest =>
    if c = 'e' ∨ c = 'E' then
      if rest.isEmpty then (.invalid .exponentWithoutDigits, rest, [])
      else
        let rest := match rest with
          | '+' :: rest => rest
          | '-' :: rest => rest
          | _ => rest
        let (digits, rest) := decimalDigits rest
        if !digits.any Char.isDigit then (.invalid (.missingDigit .decimal), rest, [])
        else endNumber rest (remarks ++ separatorRemarks Char.isDigit digits)
    else endNumber text remarks

def readFraction (text : List Char) (remarks : List (Strictness × Problem)) : RawToken :=
  let (digits, rest) := decimalDigits text
  readExponent rest (remarks ++ separatorRemarks Char.isDigit digits)

def readDecimal (text : List Char) : RawToken :=
  let (digits, rest) := decimalDigits text
  let remarks := separatorRemarks Char.isDigit digits
  let isLegacy := digits.length > 1 && digits.head? == some '0'
  match rest with
  | 'n' :: after => (.bigInteger, after, remarks)
  | _ =>
    if isLegacy && digits.all (isDigitOrBar Numeral.isOctalDigit) then
      endNumber rest ((.strictCode, .legacyOctal) :: remarks)
    else
      let remarks := if isLegacy then (.strictCode, .legacyDecimal) :: remarks else remarks
      match rest with
      | '.' :: after => readFraction after remarks
      | _ => readExponent rest remarks

def readNumber : List Char → RawToken
  | '0' :: c :: text =>
    if c = 'x' ∨ c = 'X' then readRadix .hexadecimal Text.isHexDigit text
    else if c = 'o' ∨ c = 'O' then readRadix .octal Numeral.isOctalDigit text
    else if c = 'b' ∨ c = 'B' then readRadix .binary isBinaryDigit text
    else readDecimal ('0' :: c :: text)
  | '.' :: text => readFraction text []
  | text => readDecimal text

def readStringFrom (quote : Char) : Nat → List Char → List (Strictness × Problem) → List Char →
    RawToken
  | 0, value, remarks, text => (.string (String.ofList value.reverse), text, remarks)
  | _, value, remarks, [] =>
    (.string (String.ofList value.reverse), [], (.always, .unterminatedString) :: remarks)
  | fuel + 1, value, remarks, c :: text =>
    if c = quote then (.string (String.ofList value.reverse), text, remarks)
    else if c = '\\' ∧ text.isEmpty then (.invalid .unfinishedEscape, [], [])
    else if c = '\\' then
      match Escape.read text with
      | .error problem => (.invalid problem, text, [])
      | .ok escape =>
        let remarks :=
          if escape.isOctal then (.strictCode, .legacyOctal) :: remarks else remarks
        readStringFrom quote fuel (escape.value.reverse ++ value) remarks escape.rest
    else if c = '\n' ∨ c = '\r' then
      (.string (String.ofList value.reverse), c :: text, (.always, .unterminatedString) :: remarks)
    else readStringFrom quote fuel (c :: value) remarks text

def readRaw (text : List Char) : RawToken :=
  match text with
  | [] => (.endOfFile, [], [])
  | c :: rest =>
    if c = '"' ∨ c = '\'' then readStringFrom c (text.length + 1) [] [] rest
    else if c.isDigit ∨ (c = '.' ∧ (rest.head?.map Char.isDigit).getD false) then readNumber text
    else if c = '\\' ∨ startsName c then readWord text
    else
      match punctuatorAt? text with
      | some p => (.punctuator p, text.drop p.length, [])
      | none => (.invalid (.unexpectedCharacter c), rest, [])

def read (cursor : Cursor) : Token :=
  let gap := Gap.skip cursor
  let start := gap.next
  let legacy : List (Strictness × Problem) :=
    if gap.hasLegacyComment then [(.moduleCode, .legacyComment)] else []
  let conflict : List (Strictness × Problem) :=
    if gap.hasConflictMarker then [(.always, .conflictMarker)] else []
  let unterminated : List (Strictness × Problem) :=
    if gap.isUnterminated then [(.always, .unterminatedComment)] else []
  let (kind, rest, remarks) := readRaw start.rest
  let isOver := match kind with
    | .endOfFile => true
    | _ => false
  ⟨kind, start, start.moveTo rest, gap.hasLineEnd || isOver,
    legacy ++ conflict ++ unterminated ++ remarks.reverse⟩

def regExpEnd? : Bool → List Char → Option (List Char)
  | _, [] => none
  | inClass, '\\' :: c :: rest => if isLineEnd c then none else regExpEnd? inClass rest
  | _, '[' :: rest => regExpEnd? true rest
  | _, ']' :: rest => regExpEnd? false rest
  | inClass, c :: rest =>
    if isLineEnd c then none
    else if c = '/' ∧ !inClass then some rest
    else regExpEnd? inClass rest

def readRegExp? (cursor : Cursor) : Option (List Char × Cursor) := do
  let rest ← regExpEnd? false (cursor.rest.drop 1)
  return (rest.takeWhile continuesName, cursor.moveTo (rest.dropWhile continuesName))

inductive ChunkEnd where
  | backquote
  | hole
  | endOfFile
  deriving DecidableEq, Repr

def readChunkFrom : Nat → Option Problem → List Char → List Char × ChunkEnd × Option Problem
  | 0, problem, text => (text, .endOfFile, problem)
  | _, problem, [] => ([], .endOfFile, problem)
  | _, problem, '`' :: rest => ('`' :: rest, .backquote, problem)
  | _, problem, '$' :: '\x7b' :: rest => ('$' :: '\x7b' :: rest, .hole, problem)
  | fuel + 1, problem, '\\' :: rest =>
    match Escape.read rest with
    | .error found => readChunkFrom fuel (problem.or (some found)) (rest.drop 1)
    | .ok escape =>
      let problem := if escape.isOctal then problem.or (some .legacyOctal) else problem
      readChunkFrom fuel problem escape.rest
  | fuel + 1, problem, _ :: rest => readChunkFrom fuel problem rest

def inTag (token : Token) : Token :=
  let start := token.start
  match start.rest with
  | '<' :: _ => { token with kind := .punctuator "<", next := start.next, remarks := [] }
  | '>' :: _ => { token with kind := .tagEnd, next := start.next, remarks := [] }
  | c :: _ =>
    if startsName c then
      let fits := fun c => continuesName c || c == '-'
      { token with
        kind := .tagName (String.ofList (start.rest.takeWhile fits))
        next := start.moveTo (start.rest.dropWhile fits)
        remarks := [] }
    else token
  | [] => token

end Token

end ScopedStyles.JavaScript
