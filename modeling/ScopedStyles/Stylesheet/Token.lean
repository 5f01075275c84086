import ScopedStyles.Stylesheet.Number
import ScopedStyles.Text.Decimal
import ScopedStyles.Text.Hex

namespace ScopedStyles.Stylesheet

structure Numeral where
  value : Float32
  whole : Option Int
  isSigned : Bool
  deriving BEq, Inhabited

inductive Token where
  | ident (name : String)
  | function (name : String)
  | atKeyword (name : String) (following : List Char)
  | hash (name : String) (isIdent : Bool)
  | string (value : String)
  | url (value : String)
  | number (numeral : Numeral)
  | percentage (numeral : Numeral)
  | dimension (numeral : Numeral) (unit : String)
  | space (text : String)
  | comment
  | comma
  | colon
  | semicolon
  | signs (text : String)
  | delim (c : Char)
  | opening (c : Char)
  | closing (c : Char)
  | broken
  deriving BEq, Inhabited

namespace Token

def isNewline (c : Char) : Bool :=
  c == '\n' || c == '\r' || c == '\x0c'

def isBlank (c : Char) : Bool :=
  c == ' ' || c == '\t' || isNewline c

def startsName (c : Char) : Bool :=
  c.isAlpha || c == '_' || c == '\x00' || c.toNat ≥ 0x80

def continuesName (c : Char) : Bool :=
  startsName c || c.isDigit || c == '-'

def startsEscape : List Char → Bool
  | '\\' :: c :: _ => !isNewline c
  | ['\\'] => true
  | _ => false

def startsIdent : List Char → Bool
  | '-' :: '-' :: _ => true
  | '-' :: c :: rest => startsName c || startsEscape (c :: rest)
  | c :: rest => startsName c || startsEscape (c :: rest)
  | [] => false

def startsNumber (text : List Char) : Bool :=
  let unsigned := match text with
    | '+' :: rest => rest
    | '-' :: rest => rest
    | _ => text
  match unsigned with
  | '.' :: c :: _ => c.isDigit
  | c :: _ => c.isDigit
  | [] => false

def dropBlank : List Char → List Char
  | '\r' :: '\n' :: rest => rest
  | c :: rest => if isBlank c then rest else c :: rest
  | [] => []

def readEscape (text : List Char) : Char × List Char :=
  let digits := (text.take 6).takeWhile Text.isHexDigit
  if digits.isEmpty then
    match text with
    | c :: rest => (if c = '\x00' then '\ufffd' else c, rest)
    | [] => ('\ufffd', [])
  else
    let code := Text.hexNumber digits
    let c := if code = 0 ∨ code > 0x10ffff then '\ufffd' else
      if 0xd800 ≤ code ∧ code ≤ 0xdfff then '\ufffd' else Char.ofNat code
    (c, dropBlank (text.drop digits.length))

def readNameFrom : Nat → List Char → List Char → List Char × List Char
  | 0, name, text => (name, text)
  | fuel + 1, name, '\\' :: text =>
    if startsEscape ('\\' :: text) then
      let (c, rest) := readEscape text
      readNameFrom fuel (c :: name) rest
    else (name, '\\' :: text)
  | fuel + 1, name, c :: text =>
    if c = '\x00' then readNameFrom fuel ('\ufffd' :: name) text
    else if continuesName c then readNameFrom fuel (c :: name) text
    else (name, c :: text)
  | _, name, [] => (name, [])

def readName (text : List Char) : String × List Char :=
  let (name, rest) := readNameFrom (text.length + 1) [] text
  (String.ofList name.reverse, rest)

def readString (quote : Char) : Nat → List Char → List Char → Token × List Char
  | 0, value, text => (.string (String.ofList value.reverse), text)
  | _, value, [] => (.string (String.ofList value.reverse), [])
  | fuel + 1, value, '\\' :: text =>
    match text with
    | [] => (.string (String.ofList value.reverse), [])
    | c :: _ =>
      if isNewline c then readString quote fuel value (dropBlank text)
      else
        let (c, rest) := readEscape text
        readString quote fuel (c :: value) rest
  | fuel + 1, value, c :: text =>
    if c = quote then (.string (String.ofList value.reverse), text)
    else if isNewline c then (.broken, c :: text)
    else readString quote fuel ((if c = '\x00' then '\ufffd' else c) :: value) text

def skipUrl : List Char → List Char
  | [] => []
  | '\\' :: _ :: rest => skipUrl rest
  | c :: rest => if c = ')' then rest else skipUrl rest

def breaksUrl (c : Char) : Bool :=
  c == '"' || c == '\'' || c == '(' || (0x1 ≤ c.toNat && c.toNat ≤ 0x8) || c == '\x0b' ||
    (0xe ≤ c.toNat && c.toNat ≤ 0x1f) || c == '\x7f'

def readUrl : Nat → List Char → List Char → Token × List Char
  | 0, value, text => (.url (String.ofList value.reverse), text)
  | _, value, [] => (.url (String.ofList value.reverse), [])
  | fuel + 1, value, '\\' :: text =>
    if startsEscape ('\\' :: text) then
      let (c, rest) := readEscape text
      readUrl fuel (c :: value) rest
    else (.broken, skipUrl text)
  | fuel + 1, value, c :: text =>
    if c = ')' then (.url (String.ofList value.reverse), text)
    else if isBlank c then
      match text.dropWhile isBlank with
      | ')' :: rest => (.url (String.ofList value.reverse), rest)
      | [] => (.url (String.ofList value.reverse), [])
      | rest => (.broken, skipUrl rest)
    else if breaksUrl c then (.broken, skipUrl text)
    else readUrl fuel ((if c = '\x00' then '\ufffd' else c) :: value) text

def readExponent (text : List Char) : Option Float × List Char :=
  match text with
  | c :: rest =>
    if c = 'e' ∨ c = 'E' then
      let (isNegative, rest) := match rest with
        | '-' :: r => (true, r)
        | '+' :: r => (false, r)
        | r => (false, r)
      let digits := rest.takeWhile Char.isDigit
      if digits.isEmpty then (none, text)
      else
        let size := Number.wholePart digits
        (some (if isNegative then -size else size), rest.drop digits.length)
    else (none, text)
  | [] => (none, [])

def wholeNumber (isNegative : Bool) (digits : List Char) : Int :=
  let size : Int := Text.digitsOf digits
  if isNegative then max (-size) (-2147483648) else min size 2147483647

def readNumeric (text : List Char) : Token × List Char :=
  let (isSigned, isNegative, unsigned) := match text with
    | '-' :: rest => (true, true, rest)
    | '+' :: rest => (true, false, rest)
    | _ => (false, false, text)
  let whole := unsigned.takeWhile Char.isDigit
  let rest := unsigned.drop whole.length
  let (fraction, rest) := match rest with
    | '.' :: c :: more =>
      if c.isDigit then
        let digits := (c :: more).takeWhile Char.isDigit
        (digits, (c :: more).drop digits.length)
      else ([], rest)
    | _ => ([], rest)
  let (exponent, rest) := readExponent rest
  let value := Number.ofDigits isNegative whole fraction exponent
  let isWhole := fraction.isEmpty && exponent.isNone
  let number := if isWhole then some (wholeNumber isNegative whole) else none
  match rest with
  | '%' :: rest => (.percentage ⟨Number.ofWide (value / 100), number, isSigned⟩, rest)
  | _ =>
    let numeral : Numeral := ⟨Number.ofWide value, number, isSigned⟩
    if startsIdent rest then
      let (unit, rest) := readName rest
      (.dimension numeral unit, rest)
    else (.number numeral, rest)

def readIdent (text : List Char) : Token × List Char :=
  let (name, rest) := readName text
  match rest with
  | '(' :: rest =>
    if name.toLower = "url" then
      match rest.dropWhile isBlank with
      | '"' :: _ | '\'' :: _ => (.function name, rest)
      | inner => readUrl (inner.length + 1) [] inner
    else (.function name, rest)
  | _ => (.ident name, rest)

def skipComment : List Char → List Char
  | '*' :: '/' :: rest => rest
  | _ :: rest => skipComment rest
  | [] => []

def readSigns : List Char → Option (Token × List Char)
  | '~' :: '=' :: rest => some (.signs "~=", rest)
  | '|' :: '=' :: rest => some (.signs "|=", rest)
  | '^' :: '=' :: rest => some (.signs "^=", rest)
  | '$' :: '=' :: rest => some (.signs "$=", rest)
  | '*' :: '=' :: rest => some (.signs "*=", rest)
  | '<' :: '!' :: '-' :: '-' :: rest => some (.signs "<!--", rest)
  | '-' :: '-' :: '>' :: rest => some (.signs "-->", rest)
  | _ => none

def ofSign (c : Char) : Token :=
  match c with
  | ',' => .comma
  | ':' => .colon
  | ';' => .semicolon
  | '(' | '[' | '\x7b' => .opening c
  | ')' | ']' | '\x7d' => .closing c
  | _ => .delim c

def readOne (c : Char) (rest : List Char) : Token × List Char :=
  let text := c :: rest
  if isBlank c then
    (.space (String.ofList (text.takeWhile isBlank)), rest.dropWhile isBlank)
  else if c = '"' ∨ c = '\'' then readString c text.length [] rest
  else if c = '#' then
    if startsIdent rest || (rest.head?.map continuesName).getD false then
      let (name, more) := readName rest
      (.hash name (startsIdent rest), more)
    else (.delim c, rest)
  else if startsNumber text then readNumeric text
  else if c = '/' ∧ rest.head? = some '*' then (.comment, skipComment (rest.drop 1))
  else
    match readSigns text with
    | some result => result
    | none =>
      if startsIdent text then readIdent text
      else if c = '@' ∧ startsIdent rest then
        let (name, rest) := readName rest
        (.atKeyword name rest, rest)
      else (ofSign c, rest)

def readFrom : Nat → List Char → List Token
  | 0, _ => []
  | _, [] => []
  | fuel + 1, c :: rest =>
    let (token, rest) := readOne c rest
    token :: readFrom fuel rest

def ofText (text : String) : List Token :=
  let chars := text.toList
  readFrom (chars.length + 1) chars

def hexEscape (c : Char) : List Char :=
  '\\' :: Text.hexDigits c.toNat ++ [' ']

def nameChar (c : Char) : List Char :=
  if c = '\x00' then ['\ufffd']
  else if continuesName c then [c]
  else if c.toNat < 0x20 ∨ c.toNat = 0x7f then hexEscape c
  else ['\\', c]

def writeName (chars : List Char) : List Char :=
  chars.flatMap nameChar

def writeIdent (name : String) : String :=
  let afterDash : List Char → List Char
    | c :: rest => if c.isDigit then hexEscape c ++ writeName rest else writeName (c :: rest)
    | [] => []
  String.ofList <|
    match name.toList with
    | '-' :: '-' :: rest => '-' :: '-' :: writeName rest
    | ['-'] => ['\\', '-']
    | '-' :: rest => '-' :: afterDash rest
    | chars => afterDash chars

def stringChar (c : Char) : List Char :=
  if c = '"' then ['\\', '"']
  else if c = '\\' then ['\\', '\\']
  else if c = '\x00' then ['\ufffd']
  else if c.toNat < 0x20 ∨ c.toNat = 0x7f then hexEscape c
  else [c]

def writeString (text : String) : String :=
  String.ofList ('"' :: text.toList.flatMap stringChar ++ ['"'])

def urlChar (c : Char) : List Char :=
  if c.toNat ≤ 0x20 ∨ c.toNat = 0x7f then hexEscape c
  else if "()\"'\\".toList.contains c then ['\\', c]
  else [c]

def writeUrl (address : String) : String :=
  let bare := "url(" ++ String.ofList (address.toList.flatMap urlChar) ++ ")"
  let quoted := writeString address
  if bare.utf8ByteSize > address.utf8ByteSize + 7 && quoted.utf8ByteSize + 5 < bare.utf8ByteSize
  then "url(" ++ quoted ++ ")"
  else bare

def writeUnit (unit : String) : String :=
  match unit.toList with
  | ['e'] | ['E'] => "\\65 "
  | 'e' :: '-' :: rest | 'E' :: '-' :: rest => "\\65 " ++ String.ofList (writeName ('-' :: rest))
  | _ => writeIdent unit

def write : Token → String
  | ident name => writeIdent name
  | .function name => writeIdent name ++ "("
  | atKeyword name _ => "@" ++ writeIdent name
  | hash name true => "#" ++ writeIdent name
  | hash name false => "#" ++ String.ofList (writeName name.toList)
  | string value => writeString value
  | url value => "url(" ++ String.ofList (value.toList.flatMap urlChar) ++ ")"
  | number n => Number.writeVerbatim n.value n.isSigned n.whole.isSome
  | percentage n => Number.writeVerbatim (n.value * 100) n.isSigned n.whole.isSome ++ "%"
  | dimension n unit => Number.writeVerbatim n.value n.isSigned n.whole.isSome ++ writeUnit unit
  | space text => text
  | comment => ""
  | comma => ","
  | colon => ":"
  | semicolon => ";"
  | signs text => text
  | delim c | opening c | closing c => String.singleton c
  | broken => ""

end Token

end ScopedStyles.Stylesheet
