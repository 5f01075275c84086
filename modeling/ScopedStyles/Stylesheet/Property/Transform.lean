import ScopedStyles.Stylesheet.Shortening
import ScopedStyles.Stylesheet.Value.Reader

namespace ScopedStyles.Stylesheet.Transform

def writeMeasure (measure : Calculation) : String := measure.write .recent

def writeAngle (angle : Quantity) : String :=
  if angle.isZero then "0" else angle.write

def writeCall (name : String) (arguments : List String) : String :=
  name ++ "(" ++ String.intercalate "," arguments ++ ")"

def writeTranslate (x y : Calculation) : String :=
  if y.isZero then writeCall "translate" [writeMeasure x]
  else if x.isZero then writeCall "translateY" [writeMeasure y]
  else writeCall "translate" [writeMeasure x, writeMeasure y]

def writeTranslate3d (x y z : Calculation) : String :=
  let measures := [x, y, z].map writeMeasure
  match x.isZero, y.isZero, z.isZero with
  | true, true, false => writeCall "translateZ" (measures.drop 2)
  | true, true, true => writeCall "translate" (measures.take 2)
  | _, _, true => writeTranslate x y
  | _, _, false => writeCall "translate3d" measures

def writeScale (x y : Float32) : String :=
  let numbers := [x, y].map Number.write
  if x == 1 && y != 1 then writeCall "scaleY" (numbers.drop 1)
  else if x != 1 && y == 1 then writeCall "scaleX" (numbers.take 1)
  else if x == y then writeCall "scale" (numbers.take 1)
  else writeCall "scale" numbers

def writeScale3d (x y z : Float32) : String :=
  if z == 1 then writeScale x y
  else if x == 1 && y == 1 then writeCall "scaleZ" [Number.write z]
  else writeCall "scale3d" ([x, y, z].map Number.write)

def writeRotate3d (x y z : Float32) (angle : Quantity) : String :=
  if x == 1 && y == 0 && z == 0 then writeCall "rotateX" [writeAngle angle]
  else if x == 0 && y == 1 && z == 0 then writeCall "rotateY" [writeAngle angle]
  else if x == 0 && y == 0 && z == 1 then writeCall "rotate" [writeAngle angle]
  else writeCall "rotate3d" ([x, y, z].map Number.write ++ [writeAngle angle])

def writeSkew (x y : Quantity) : String :=
  if x.isZero && !y.isZero then writeCall "skewY" [writeAngle y]
  else writeCall "skew" (x.write :: if y.isZero then [] else [writeAngle y])

def factor : Reader Float32 := do
  match ← Reader.numberOrPercentage with
  | .inl value => return value
  | .inr share => return share

section

variable {α : Type}

def second (reader : Reader α) (usual : α) : Reader α := do
  if ← Reader.succeeds Reader.comma then reader else return usual

def secondOf (reader : Reader α) : Reader α := Reader.comma *> reader

end

def numbers : Nat → Reader (List Float32)
  | 0 => return []
  | count + 1 => do
    let first ← Reader.number
    let rest ← (List.range count).mapM fun _ => secondOf Reader.number
    return first :: rest

def arguments (name : String) : Reader String :=
  let zero : Calculation := .value (.px 0)
  let measure := Reader.lengthPercentage
  let angle := Reader.angleOrZero
  let one (name : String) : Reader String := do return writeCall name [writeAngle (← angle)]
  match name with
  | "matrix" => do return writeCall name ((← numbers 6).map Number.write)
  | "matrix3d" => do return writeCall name ((← numbers 16).map Number.write)
  | "translate" => do return writeTranslate (← measure) (← second measure zero)
  | "translatex" => do return writeCall "translate" [writeMeasure (← measure)]
  | "translatey" => do return writeCall "translateY" [writeMeasure (← measure)]
  | "translatez" => do return writeCall "translateZ" [writeMeasure (← Reader.length)]
  | "translate3d" => do
    return writeTranslate3d (← measure) (← secondOf measure) (← secondOf Reader.length)
  | "scale" => do
    let x ← factor
    return writeScale x (← second factor x)
  | "scalex" => do return writeCall "scaleX" [Number.write (← factor)]
  | "scaley" => do return writeCall "scaleY" [Number.write (← factor)]
  | "scalez" => do return writeCall "scaleZ" [Number.write (← factor)]
  | "scale3d" => do return writeScale3d (← factor) (← secondOf factor) (← secondOf factor)
  | "rotate" | "rotatez" => one "rotate"
  | "rotatex" => one "rotateX"
  | "rotatey" => one "rotateY"
  | "rotate3d" => do
    return writeRotate3d (← Reader.number) (← secondOf Reader.number) (← secondOf Reader.number)
      (← secondOf angle)
  | "skew" => do return writeSkew (← angle) (← second angle (.degrees 0))
  | "skewx" => one "skew"
  | "skewy" => one "skewY"
  | "perspective" => do return writeCall name [writeMeasure (← Reader.length)]
  | _ => failure

def function : Reader Value := do
  let (name, content) ← Reader.function
  return .ofText (← Reader.within content (arguments name))

def write (functions : List Value) : Value :=
  if functions.isEmpty then .none else functions.flatten

def readFunctions : Reader (List Value) :=
  (Reader.word "none" *> pure []) <|> Reader.many1 function

def readTranslate : Reader Setting := do
  let zero : Calculation := .value (.px 0)
  let declared (shown : Value) (x y z : Calculation) : Setting :=
    .known shown [[.ofText (writeTranslate3d x y z)]]
  if ← Reader.succeeds (Reader.word "none") then return declared .none zero zero zero
  let x ← Reader.lengthPercentage
  let y? ← Reader.attempt Reader.lengthPercentage
  let z? ← if y?.isSome then Reader.attempt Reader.length else pure none
  let y := y?.getD zero
  let z := z?.getD zero
  let shown := if !z.isZero then [x, y, z] else if !y.isZero then [x, y] else [x]
  return declared (Value.spaced (shown.map Value.ofMeasure)) x y z

def axes : List (String × Float32 × Float32 × Float32) :=
  [("x", 1, 0, 0), ("y", 0, 1, 0), ("z", 0, 0, 1)]

def readRotate : Reader Setting := do
  let named : Reader (Float32 × Float32 × Float32) :=
    Reader.bindOption Reader.keyword fun name => axes.lookup name
  let given : Reader (Float32 × Float32 × Float32) := do
    return (← Reader.number, ← Reader.number, ← Reader.number)
  let turned : Reader ((Float32 × Float32 × Float32) × Quantity) := do
    let before ← Reader.attempt Reader.angle
    let axis ← Reader.orElse (named <|> given) (0, 0, 1)
    match before with
    | some angle => return (axis, angle)
    | none => return (axis, ← Reader.angle)
  let ((x, y, z), angle) ←
    (Reader.word "none" *> pure ((0, 0, 1), .degrees 0)) <|> turned
  let isAround (a b c : Float32) : Bool := x == a && y == b && z == c
  let shown :=
    if isAround 0 0 1 && angle.isZero then "none"
    else if isAround 1 0 0 then "x " ++ angle.write
    else if isAround 0 1 0 then "y " ++ angle.write
    else if isAround 0 0 1 then angle.write
    else String.intercalate " " ([x, y, z].map Number.write ++ [angle.write])
  return .known (.ofText shown) [[.ofText (writeRotate3d x y z angle)]]

def readScale : Reader Setting := do
  let value (part : Float32 ⊕ Float32) : Float32 :=
    match part with
    | .inl number => number
    | .inr share => share
  let shown (part : Float32 ⊕ Float32) : String :=
    match part with
    | .inl number => Number.write number
    | .inr share => Quantity.writePercentage share
  if ← Reader.succeeds (Reader.word "none") then
    return .known .none [[.ofText (writeScale3d 1 1 1)]]
  let x ← Reader.numberOrPercentage
  let y? ← Reader.attempt Reader.numberOrPercentage
  let z? ← if y?.isSome then Reader.attempt Reader.numberOrPercentage else pure none
  let y := y?.getD x
  let z := z?.getD (.inl 1)
  let parts := if value z != 1 then [x, y, z] else if shown y != shown x then [x, y] else [x]
  return .known (.ofText (String.intercalate " " (parts.map shown)))
    [[.ofText (writeScale3d (value x) (value y) (value z))]]

def properties : List String := ["transform", "translate", "rotate", "scale"]

def read (name : String) : Reader Setting :=
  match name with
  | "translate" => readTranslate
  | "rotate" => readRotate
  | "scale" => readScale
  | _ => Setting.ofRecord write <$> readFunctions

structure Gathered where
  functions : Option (Spelled (List Value)) := none
  singles : List (String × Setting) := []
  deriving Inhabited

abbrev Step := StateT Gathered Shortening

def flush : Step Unit := do
  let browsers ← (Shortening.browsers : Shortening Browsers)
  let g ← get
  set ({} : Gathered)
  if let some spelled := g.functions then
    (Shortening.push ⟨"transform", browsers.spellings "transform" spelled.spellings,
      .ofRecord write spelled.value⟩ : Shortening Unit)
  for name in properties do
    if let some setting := g.singles.lookup name then
      (Shortening.push (.plain name setting) : Shortening Unit)

def take (declaration : Declaration) : Step Bool := do
  let name := declaration.name
  if !properties.contains name then return false
  match declaration.setting with
  | .raw _ =>
    flush
    let declaration ← (if name == "transform" then Shortening.respelled name declaration
      else pure declaration : Shortening Declaration)
    (Shortening.push declaration : Shortening Unit)
  | .known _ layers =>
    let values := layers.flatten
    if name == "transform" then
      if Spelled.conflicts (← get).functions values declaration.spellings then flush
      modify fun g =>
        ⟨some (Spelled.update g.functions values declaration.spellings), []⟩
    else
      modify fun g =>
        match g.functions with
        | some spelled => { g with
            functions := some { spelled with value := spelled.value ++ values } }
        | none => { g with
            singles := (name, declaration.setting) :: g.singles.filter (·.1 != name) }
  return true

def finish : Step Unit := flush

end ScopedStyles.Stylesheet.Transform
