import ScopedStyles.Text.Shortest

namespace ScopedStyles.Stylesheet.Number

def significantDigits : Nat := 6

def dropTrailingZeros (digits : List Char) : List Char :=
  (digits.reverse.dropWhile (· = '0')).reverse

structure Decimal where
  digits : List Char
  point : Int

def Decimal.ofSize (value : Float32) : Decimal :=
  let (units, place) := Text.shortestDigits value
  let digits := (toString units).toList
  let point := Int.ofNat digits.length + place
  if digits.length ≤ significantDigits then ⟨dropTrailingZeros digits, point⟩
  else
    let excess := digits.length - significantDigits
    let rounded := (units + 5 * Nat.pow 10 (excess - 1)) / Nat.pow 10 excess
    let kept := (toString rounded).toList
    ⟨dropTrailingZeros kept, point + (Int.ofNat kept.length - Int.ofNat significantDigits)⟩

def Decimal.write (decimal : Decimal) : String :=
  let digits := decimal.digits
  let count := Int.ofNat digits.length
  if digits.isEmpty then "0"
  else if count ≤ decimal.point ∧ decimal.point ≤ 21 then
    String.ofList (digits ++ List.replicate (decimal.point - count).toNat '0')
  else if 0 < decimal.point ∧ decimal.point ≤ 21 then
    String.ofList (digits.take decimal.point.toNat ++ '.' :: digits.drop decimal.point.toNat)
  else if -6 < decimal.point ∧ decimal.point ≤ 0 then
    String.ofList ('0' :: '.' :: List.replicate (-decimal.point).toNat '0' ++ digits)
  else
    let exponent := "e" ++ toString (decimal.point - 1)
    match digits with
    | [digit] => String.singleton digit ++ exponent
    | first :: rest => String.ofList (first :: '.' :: rest) ++ exponent
    | [] => "0"

def isNegative (value : Float32) : Bool :=
  value.toBits.toNat ≥ Nat.pow 2 31

def writeFull (value : Float32) : String :=
  let text := (Decimal.ofSize value).write
  if isNegative value && value != 0 then "-" ++ text else text

def withoutLeadingZero (text : String) : String :=
  match text.toList with
  | '-' :: rest => String.ofList ('-' :: rest.dropWhile (· = '0'))
  | chars => String.ofList (chars.dropWhile (· = '0'))

def write (value : Float32) : String :=
  if value != 0 && value.abs < 1 then withoutLeadingZero (writeFull value) else writeFull value

def writeVerbatim (value : Float32) (isSigned isWhole : Bool) : String :=
  let sign := if isSigned && !isNegative value then "+" else ""
  let text := if value == 0 && isNegative value then "-0" else writeFull value
  let shown := text.toList.any fun c => c = '.' || c = 'e'
  let tail := if !isWhole && value.floor == value && !shown then ".0" else ""
  sign ++ text ++ tail

def clamp (low high value : Float32) : Float32 :=
  if value < low then low else if value > high then high else value

def greatest : Float := 340282346638528859811704183484516925440.0

def ofWide (value : Float) : Float32 :=
  (if value > greatest then greatest else if value < -greatest then -greatest else value).toFloat32

def digitValue (c : Char) : Float :=
  Float.ofNat (c.toNat - '0'.toNat)

def wholePart (digits : List Char) : Float :=
  digits.foldl (fun value c => value * 10 + digitValue c) 0

def fractionPart (digits : List Char) : Float :=
  (digits.foldl (fun (value, factor) c => (value + digitValue c * factor, factor * 0.1))
    ((0 : Float), (0.1 : Float))).1

def ofDigits (isNegative : Bool) (whole fraction : List Char) (exponent : Option Float) : Float :=
  let size := wholePart whole + fractionPart fraction
  let value := if isNegative then -size else size
  match exponent with
  | some exponent => value * Float.pow 10 exponent
  | none => value

def round (value : Float32) : Float32 := value.round

def truncate (value : Float32) : Float32 :=
  if value < 0 then value.ceil else value.floor

def remainder (a b : Float32) : Float32 :=
  let wide (x : Float32) : Float := x.toFloat
  let quotient := wide a / wide b
  let whole := if quotient < 0 then quotient.ceil else quotient.floor
  (wide a - whole * wide b).toFloat32

def toInt (value : Float32) : Int :=
  value.toInt64.toInt

end ScopedStyles.Stylesheet.Number
