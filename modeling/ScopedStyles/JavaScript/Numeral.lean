import ScopedStyles.Text.Decimal
import ScopedStyles.Text.Hex
import ScopedStyles.Text.Shortest

namespace ScopedStyles.JavaScript.Numeral

def isOctalDigit (c : Char) : Bool :=
  '0' ≤ c && c ≤ '7'

def numberIn (base : Nat) (digits : List Char) : Nat :=
  digits.foldl (fun value c => value * base + Text.hexNumber [c]) 0

def radix? : List Char → Option (Nat × List Char)
  | '0' :: c :: digits =>
    if c = 'x' ∨ c = 'X' then some (16, digits)
    else if c = 'o' ∨ c = 'O' then some (8, digits)
    else if c = 'b' ∨ c = 'B' then some (2, digits)
    else if (c :: digits).all isOctalDigit then some (8, c :: digits)
    else none
  | _ => none

def scientific (numeral : List Char) : Nat × Int :=
  let whole := numeral.takeWhile Char.isDigit
  let rest := numeral.dropWhile Char.isDigit
  let (fraction, rest) := match rest with
    | '.' :: rest => (rest.takeWhile Char.isDigit, rest.dropWhile Char.isDigit)
    | rest => ([], rest)
  let exponent : Int := match rest with
    | _ :: '-' :: digits => -(Text.digitsOf digits : Int)
    | _ :: '+' :: digits => Text.digitsOf digits
    | _ :: digits => Text.digitsOf digits
    | [] => 0
  (Text.digitsOf (whole ++ fraction), exponent - fraction.length)

def nearest (digits : Nat) (exponent : Int) : String :=
  let size := ((toString digits).length : Int) + exponent
  if digits = 0 ∨ size < -400 then "0"
  else if size > 400 then "inf"
  else
    let value := Float.ofScientific digits (exponent < 0) exponent.natAbs
    if value.isInf then "inf" else Text.shortestDecimal value

def value (spelling : String) : String :=
  let numeral := spelling.toList.filter (· != '_')
  match radix? numeral with
  | some (base, digits) => nearest (numberIn base digits) 0
  | none =>
    let (digits, exponent) := scientific numeral
    nearest digits exponent

def wholeValue (spelling : String) : String :=
  let numeral := spelling.toList.filter fun c => c != '_' && c != 'n'
  match numeral with
  | '0' :: c :: digits =>
    if c.isDigit then toString (Text.digitsOf numeral)
    else match radix? ('0' :: c :: digits) with
      | some (base, digits) => toString (numberIn base digits)
      | none => "0"
  | _ => toString (Text.digitsOf numeral)

end ScopedStyles.JavaScript.Numeral
