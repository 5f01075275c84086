namespace ScopedStyles.Text

structure Binary where
  significand : Nat
  exponent : Int
  isPower : Bool

namespace Binary

def ofBits (fractionBits : Nat) (smallest : Int) (bits : Nat) : Binary :=
  let biased : Nat := bits / Nat.pow 2 fractionBits
  let fraction := bits % Nat.pow 2 fractionBits
  if biased = 0 then ⟨fraction, smallest, false⟩
  else
    ⟨fraction + Nat.pow 2 fractionBits, smallest + (Int.ofNat biased - 1),
      fraction = 0 ∧ biased > 1⟩

-- In quarters of the last binary place the ends of the interval that rounds to a number are whole.
def quarters (number : Binary) : Nat := 4 * number.significand

def lowest (number : Binary) : Nat :=
  if number.isPower then number.quarters - 1 else number.quarters - 2

def highest (number : Binary) : Nat := number.quarters + 2

def compareDecimal (number : Binary) (units : Nat) (place : Int) (quarters : Nat) : Ordering :=
  let scale := number.exponent - 2
  let left := units * Nat.pow 10 place.toNat * Nat.pow 2 (-scale).toNat
  let right := quarters * Nat.pow 2 scale.toNat * Nat.pow 10 (-place).toNat
  compare left right

def admits (number : Binary) (units : Nat) (place : Int) : Bool :=
  let low := number.compareDecimal units place number.lowest
  let high := number.compareDecimal units place number.highest
  let even := number.significand % 2 = 0
  (low == .gt || (even && low == .eq)) && (high == .lt || (even && high == .eq))

def floorAt (number : Binary) (place : Int) : Nat :=
  let scale := number.exponent
  (number.significand * Nat.pow 2 scale.toNat * Nat.pow 10 (-place).toNat) /
    (Nat.pow 10 place.toNat * Nat.pow 2 (-scale).toNat)

def prefersLower (number : Binary) (units : Nat) (place : Int) : Bool :=
  number.compareDecimal (2 * units + 1) place (2 * number.quarters) != .lt

def decimalAt? (number : Binary) (place : Int) : Option Nat :=
  let lower := number.floorAt place
  match number.admits lower place, number.admits (lower + 1) place with
  | true, true => some (if number.prefersLower lower place then lower else lower + 1)
  | true, false => some lower
  | false, true => some (lower + 1)
  | false, false => none

def shortestFrom (number : Binary) : Nat → Int → Nat × Int
  | 0, place => (number.floorAt place, place)
  | steps + 1, place =>
    match number.decimalAt? place with
    | some units => (units, place)
    | none => shortestFrom number steps (place - 1)

end Binary

def positional (units : Nat) (place : Int) : String :=
  let digits := toString units
  if place ≥ 0 then digits ++ String.ofList (List.replicate place.toNat '0')
  else
    let width := (-place).toNat
    let padded := List.replicate (width + 1 - digits.length) '0' ++ digits.toList
    let cut := padded.length - width
    String.ofList (padded.take cut ++ '.' :: padded.drop cut)

def shortestDecimal (value : Float) : String :=
  let bits := value.toBits.toNat
  let negative := bits ≥ Nat.pow 2 63
  let number := Binary.ofBits 52 (-1074) (bits % Nat.pow 2 63)
  let text :=
    if number.significand = 0 then "0"
    else
      let (units, place) := number.shortestFrom 700 309
      positional units place
  if negative then "-" ++ text else text

def shortestDigits (value : Float32) : Nat × Int :=
  let number := Binary.ofBits 23 (-149) (value.toBits.toNat % Nat.pow 2 31)
  if number.significand = 0 then (0, 0) else number.shortestFrom 100 39

end ScopedStyles.Text
