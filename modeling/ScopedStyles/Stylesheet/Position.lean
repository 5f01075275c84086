import ScopedStyles.Stylesheet.Calculation

namespace ScopedStyles.Stylesheet

inductive Coordinate where
  | center
  | measured (measure : Calculation)
  | side (name : String) (offset : Option Calculation)
  deriving BEq, Inhabited

abbrev Phrase := List (String ⊕ Calculation)

namespace Coordinate

def zero : Coordinate := .measured (.value (.px 0))

def start : Coordinate := .measured (.value (.percent 0))

def isZero : Coordinate → Bool
  | measured measure => measure.isZero
  | _ => false

def isCenter : Coordinate → Bool
  | center => true
  | measured measure => measure == .value (.percent 0.5)
  | _ => false

def isFirstSide (name : String) : Bool :=
  name == "left" || name == "top"

def isFromFarSide : Coordinate → Bool
  | side name (some _) => !isFirstSide name
  | _ => false

def phrase : Coordinate → Phrase
  | center => [.inl "50%"]
  | measured measure => [.inr measure]
  | side name none => [.inl name]
  | side name (some offset) => [.inl name, .inl " ", .inr offset]

def share (name : String) : Calculation :=
  .value (.percent (if isFirstSide name then 0 else 1))

def sideMeasure (name : String) : Calculation :=
  if isFirstSide name then .value (.px 0) else share name

def measure? : Coordinate → Option Calculation
  | center => some (.value (.percent 0.5))
  | measured measure => some (if measure.isZero then .value (.px 0) else measure)
  | side name offset => if isFirstSide name then some (offset.getD (.value (.px 0))) else none

end Coordinate

structure Position where
  x : Coordinate
  y : Coordinate
  deriving BEq, Inhabited

namespace Position

def center : Position := ⟨.center, .center⟩

def start : Position := ⟨.start, .start⟩

def isZero (position : Position) : Bool :=
  position.x.isZero && position.y.isZero

def isCenter (position : Position) : Bool :=
  position.x.isCenter && position.y.isCenter

def phrase (position : Position) : Phrase :=
  let x := position.x
  let y := position.y
  let both (a b : Phrase) : Phrase := a ++ .inl " " :: b
  match x, y with
  | .measured a, .side name (some _) =>
    if Coordinate.isFirstSide name then general
    else both [.inl "left"] (both [.inr a] y.phrase)
  | .side name (some _), .measured b =>
    if !Coordinate.isFirstSide name then both x.phrase (both [.inl "top"] [.inr b])
    else general
  | _, _ =>
    if x.isFromFarSide && y.isCenter then both x.phrase [.inl "center"]
    else if x.isCenter && y.isFromFarSide then both [.inl "center"] y.phrase
    else if x.isCenter && y.isCenter then [.inl "50%"]
    else
      match x, y with
      | .measured a, _ => if y.isCenter then [.inr a] else general
      | .side name none, .side other none =>
        both [.inr (Coordinate.sideMeasure name)] [.inr (Coordinate.sideMeasure other)]
      | .side name none, _ => if y.isCenter then [.inr (Coordinate.sideMeasure name)] else general
      | _, .side name none => if x.isCenter then [.inl name] else general
      | _, _ => general
where
  general : Phrase :=
    match position.x.measure?, position.y.measure? with
    | some a, some b => [.inr a, .inl " ", .inr b]
    | _, _ => position.x.phrase ++ .inl " " :: position.y.phrase

end Position

namespace Reader

def horizontalSide : Reader String := oneOf ["left", "right"]

def verticalSide : Reader String := oneOf ["top", "bottom"]

def coordinate (side : Reader String) : Reader Coordinate := do
  if ← succeeds (word "center") then return .center
  match ← attempt lengthPercentage with
  | some measure => return .measured measure
  | none =>
    let name ← side
    return .side name (← attempt lengthPercentage)

def xCoordinate : Reader Coordinate := coordinate horizontalSide

def yCoordinate : Reader Coordinate := coordinate verticalSide

def positionFromSide : Reader Position := do
  let name ← verticalSide
  let more : Reader Position := do
    let offset ← attempt lengthPercentage
    match ← attempt horizontalSide with
    | some other => return ⟨.side other (← attempt lengthPercentage), .side name offset⟩
    | none =>
      word "center"
      return ⟨.center, .side name offset⟩
  more <|> pure ⟨.center, .side name none⟩

def position : Reader Position := do
  match ← attempt xCoordinate with
  | some .center =>
    match ← attempt yCoordinate with
    | some y => return ⟨.center, y⟩
    | none => return ⟨(← attempt xCoordinate).getD .center, .center⟩
  | some (.measured x) =>
    let side : Reader Coordinate := do return .side (← verticalSide) none
    let measured : Reader Coordinate := .measured <$> lengthPercentage
    match ← attempt (side <|> measured) with
    | some y => return ⟨.measured x, y⟩
    | none =>
      let _ ← succeeds (word "center")
      return ⟨.measured x, .center⟩
  | some (.side name offset) =>
    if ← succeeds (word "center") then return ⟨.side name offset, .center⟩
    match ← attempt verticalSide with
    | some other => return ⟨.side name offset, .side other (← attempt lengthPercentage)⟩
    | none => return ⟨.side name none, (offset.map Coordinate.measured).getD .center⟩
  | none => positionFromSide

end Reader

end ScopedStyles.Stylesheet
