import ScopedStyles.Text.Decimal
import ScopedStyles.Text.Hex

namespace ScopedStyles

inductive Json where
  | null
  | bool (value : Bool)
  | number (literal : String := "0")
  | string (value : String)
  | array (items : List Json)
  | object (fields : List (String × Json))
  deriving Inhabited

namespace Json

def string? : Json → Option String
  | .string value => some value
  | _ => none

def bool? : Json → Option Bool
  | .bool value => some value
  | _ => none

def field? (fields : List (String × Json)) (name : String) : Option Json :=
  (fields.reverse.find? (·.1 == name)).map Prod.snd

def escape (c : Char) : List Char :=
  if c = '"' then ['\\', '"']
  else if c = '\\' then ['\\', '\\']
  else if c = '\x08' then ['\\', 'b']
  else if c = '\t' then ['\\', 't']
  else if c = '\n' then ['\\', 'n']
  else if c = '\x0c' then ['\\', 'f']
  else if c = '\r' then ['\\', 'r']
  else if c.toNat < 0x20 then
    ['\\', 'u', '0', '0', Text.hexDigit (c.toNat / 16), Text.hexDigit (c.toNat % 16)]
  else [c]

def quote (text : String) : String :=
  String.ofList ('"' :: text.toList.flatMap escape ++ ['"'])

def skipBlanks (text : List Char) : List Char :=
  text.dropWhile fun c => c = ' ' || c = '\t' || c = '\n' || c = '\r'

def readUnit? : List Char → Option (Nat × List Char)
  | a :: b :: c :: d :: rest =>
    if [a, b, c, d].all Text.isHexDigit then some (Text.hexNumber [a, b, c, d], rest) else none
  | _ => none

def readUnicode? (text : List Char) : Option (Char × List Char) := do
  let (first, rest) ← readUnit? text
  if 0xdc00 ≤ first ∧ first ≤ 0xdfff then none
  else if 0xd800 ≤ first ∧ first ≤ 0xdbff then
    match rest with
    | '\\' :: 'u' :: rest =>
      let (second, rest) ← readUnit? rest
      if 0xdc00 ≤ second ∧ second ≤ 0xdfff then
        some (Char.ofNat ((first - 0xd800) * 0x400 + (second - 0xdc00) + 0x10000), rest)
      else none
    | _ => none
  else some (Char.ofNat first, rest)

def plainEscape? : Char → Option Char
  | '"' => some '"'
  | '\\' => some '\\'
  | '/' => some '/'
  | 'b' => some '\x08'
  | 'f' => some '\x0c'
  | 'n' => some '\n'
  | 'r' => some '\r'
  | 't' => some '\t'
  | _ => none

def readString? : Nat → List Char → List Char → Option (String × List Char)
  | 0, _, _ => none
  | _ + 1, _, [] => none
  | fuel + 1, done, c :: rest =>
    if c = '"' then some (String.ofList done.reverse, rest)
    else if c.toNat < 0x20 then none
    else if c = '\\' then
      match rest with
      | [] => none
      | 'u' :: rest => do
        let (value, rest) ← readUnicode? rest
        readString? fuel (value :: done) rest
      | e :: rest => do
        let value ← plainEscape? e
        readString? fuel (value :: done) rest
    else readString? fuel (c :: done) rest

structure Scaled where
  significand : Nat := 0
  exponent : Int := 0
  isFull : Bool := false

namespace Scaled

def fits (scaled : Scaled) (digit : Char) : Bool :=
  !scaled.isFull && scaled.significand * 10 + (digit.toNat - '0'.toNat) < Nat.pow 2 64

def addWhole (scaled : Scaled) (digit : Char) : Scaled :=
  if scaled.fits digit then
    { scaled with significand := scaled.significand * 10 + (digit.toNat - '0'.toNat) }
  else { scaled with exponent := scaled.exponent + 1, isFull := true }

def addFraction (scaled : Scaled) (digit : Char) : Scaled :=
  if scaled.fits digit then
    { scaled with
      significand := scaled.significand * 10 + (digit.toNat - '0'.toNat)
      exponent := scaled.exponent - 1 }
  else { scaled with isFull := true }

def ofDigits (whole fraction : List Char) : Scaled :=
  fraction.foldl addFraction { whole.foldl addWhole {} with isFull := false }

def toSignificant (number : Nat) : Nat :=
  let shift := Nat.log2 number - 52
  let unit := Nat.pow 2 shift
  let low := number / unit
  let left := number % unit
  if 2 * left > unit || (2 * left == unit && low % 2 == 1) then (low + 1) * unit else low * unit

def isTooLarge (scaled : Scaled) : Bool :=
  scaled.significand != 0 && scaled.exponent > 0 &&
    (scaled.exponent > 308 ||
      toSignificant scaled.significand * toSignificant (Nat.pow 10 scaled.exponent.toNat) ≥
        Nat.pow 2 1024 - Nat.pow 2 970)

end Scaled

def readNumber? (text : List Char) : Option (List Char) := do
  let text := match text with
    | '-' :: rest => rest
    | _ => text
  let whole := text.takeWhile Char.isDigit
  let rest := text.dropWhile Char.isDigit
  if whole.isEmpty || (whole.head? = some '0' && whole.length > 1) then none
  let (fraction, rest) ← match rest with
    | '.' :: rest =>
      let fraction := rest.takeWhile Char.isDigit
      if fraction.isEmpty then none else some (fraction, rest.dropWhile Char.isDigit)
    | _ => some ([], rest)
  let (exponent, rest) ← readExponent? rest
  let scaled := Scaled.ofDigits whole fraction
  if { scaled with exponent := scaled.exponent + exponent }.isTooLarge then none else some rest
where
  readExponent? (text : List Char) : Option (Int × List Char) :=
    match text with
    | [] => some (0, [])
    | c :: rest =>
      if c = 'e' ∨ c = 'E' then
        let (negative, rest) := match rest with
          | '-' :: rest => (true, rest)
          | '+' :: rest => (false, rest)
          | _ => (false, rest)
        let digits := rest.takeWhile Char.isDigit
        let value : Int := Text.digitsOf digits
        if digits.isEmpty then none
        else some (if negative then -value else value, rest.dropWhile Char.isDigit)
      else some (0, text)

def depthLimit : Nat := 127

mutual

-- The first number bounds the steps, the second the nesting.
def readValue? : Nat → Nat → List Char → Option (Json × List Char)
  | 0, _, _ => none
  | fuel + 1, depth, text =>
    match skipBlanks text with
    | 'n' :: 'u' :: 'l' :: 'l' :: rest => some (.null, rest)
    | 't' :: 'r' :: 'u' :: 'e' :: rest => some (.bool true, rest)
    | 'f' :: 'a' :: 'l' :: 's' :: 'e' :: rest => some (.bool false, rest)
    | '"' :: rest => (readString? (rest.length + 1) [] rest).map fun (s, rest) => (.string s, rest)
    | '[' :: rest =>
      match depth with
      | 0 => none
      | depth + 1 =>
        match skipBlanks rest with
        | ']' :: rest => some (.array [], rest)
        | _ => readItems? fuel depth [] rest
    | '\x7b' :: rest =>
      match depth with
      | 0 => none
      | depth + 1 =>
        match skipBlanks rest with
        | '\x7d' :: rest => some (.object [], rest)
        | _ => readFields? fuel depth [] rest
    | text => (readNumber? text).map fun rest =>
      (.number (String.ofList (text.take (text.length - rest.length))), rest)

def readItems? : Nat → Nat → List Json → List Char → Option (Json × List Char)
  | 0, _, _, _ => none
  | fuel + 1, depth, done, text => do
    let (item, rest) ← readValue? fuel depth text
    match skipBlanks rest with
    | ',' :: rest => readItems? fuel depth (item :: done) rest
    | ']' :: rest => some (.array (item :: done).reverse, rest)
    | _ => none

def readFields? : Nat → Nat → List (String × Json) → List Char → Option (Json × List Char)
  | 0, _, _, _ => none
  | fuel + 1, depth, done, text => do
    let '"' :: rest := skipBlanks text | none
    let (name, rest) ← readString? (rest.length + 1) [] rest
    let ':' :: rest := skipBlanks rest | none
    let (value, rest) ← readValue? fuel depth rest
    match skipBlanks rest with
    | ',' :: rest => readFields? fuel depth ((name, value) :: done) rest
    | '\x7d' :: rest => some (.object ((name, value) :: done).reverse, rest)
    | _ => none

end

def read? (text : String) : Option Json := do
  let chars := text.toList
  let (value, rest) ← readValue? (2 * chars.length + 2) depthLimit chars
  if (skipBlanks rest).isEmpty then some value else none

end Json

end ScopedStyles
