import ScopedStyles.Text.Replace
import ScopedStyles.Text.Decimal

namespace ScopedStyles.Marker

def opening : List Char := "__BEMED_VAR_".toList

def closing : List Char := "__".toList

def token (index : Nat) : String :=
  String.ofList (opening ++ (toString index).toList ++ closing)

def index? (text : String) : Option Nat := do
  let rest ← Text.dropFront? opening text.toList
  let digits ← Text.dropEnd? closing rest
  Text.readIndex? digits

def atFront? (text : List Char) : Option (List Char) := do
  let rest ← Text.dropFront? opening text
  let digits := rest.takeWhile Char.isDigit
  if digits.isEmpty then none
  let _ ← Text.dropFront? closing (rest.dropWhile Char.isDigit)
  return opening ++ digits ++ closing

def prepend (c : Char) : List (List Char) → List (List Char)
  | [] => [[c]]
  | piece :: pieces => (c :: piece) :: pieces

-- The number counts the characters of a marker still to be passed over.
def pieces : Nat → List Char → List (List Char)
  | _, [] => [[]]
  | skip + 1, _ :: rest => pieces skip rest
  | 0, c :: rest =>
    match atFront? (c :: rest) with
    | some marker => [] :: marker :: pieces (marker.length - 1) rest
    | none => prepend c (pieces 0 rest)

def split (text : String) : List String :=
  (pieces 0 text.toList).map String.ofList

def occursInChars : List Char → Bool
  | [] => false
  | c :: rest => (atFront? (c :: rest)).isSome || occursInChars rest

def occursIn (text : String) : Bool :=
  occursInChars text.toList

theorem pieces_eq_drop (skip : Nat) (text : List Char) :
    pieces skip text = pieces 0 (text.drop skip) := by
  induction text generalizing skip with
  | nil => cases skip <;> simp [pieces]
  | cons c rest ih =>
    cases skip with
    | zero => rfl
    | succ n => simpa [pieces] using ih n

end ScopedStyles.Marker
