import ScopedStyles.Stylesheet.Value

namespace ScopedStyles.Stylesheet

namespace Gradient

def spellings (name : String) : List Spelling :=
  if name.endsWith "conic-gradient" then [.plain] else [.webkit, .moz, .opera, .plain]

def names : List String :=
  ["linear-gradient", "repeating-linear-gradient", "radial-gradient", "repeating-radial-gradient",
    "conic-gradient", "repeating-conic-gradient"]

def readLine (spelling : Spelling) : Reader GradientLine := do
  match ← Reader.attempt Reader.angleOrZero with
  | some angle => return .angle angle
  | none =>
    if spelling == .plain then Reader.word "to"
    match ← Reader.attempt Reader.horizontalSide with
    | some x =>
      match ← Reader.attempt Reader.verticalSide with
      | some y => return .corner x y
      | none => return .horizontal x
    | none =>
      let y ← Reader.verticalSide
      match ← Reader.attempt Reader.horizontalSide with
      | some x => return .corner x y
      | none => return .vertical y

def stop (measure : Reader Calculation) : Reader (List GradientStop) := do
  let color ← Reader.color
  match ← Reader.attempt measure with
  | none => return [⟨some color, none⟩]
  | some first =>
    match ← Reader.attempt measure with
    | some second => return [⟨some color, some first⟩, ⟨some color, some second⟩]
    | none => return [⟨some color, some first⟩]

def stopsOf? (measure : Reader Calculation) : Bool → List (List Piece) → Option (List GradientStop)
  | _, [] => some []
  | isAfterColor, part :: rest =>
    let middle := if isAfterColor then Reader.readAll? measure part else none
    match middle with
    | some place => (stopsOf? measure false rest).map (⟨none, some place⟩ :: ·)
    | none => do
      let stops ← Reader.readAll? (stop measure) part
      return stops ++ (← stopsOf? measure true rest)

def readStops (measure : Reader Calculation) : Reader (List GradientStop) := do
  let parts := Piece.splitByCommas (← get)
  set ([] : List Piece)
  Reader.bindOption (pure parts) (stopsOf? measure false)

def extents : List String :=
  ["closest-side", "farthest-side", "closest-corner", "farthest-corner"]

def extent : Reader String := Reader.oneOf extents

def ellipse : Reader Phrase := do
  let named (name : String) : Phrase := if name == "farthest-corner" then [] else [.inl name]
  let isTold : Reader Bool := Reader.succeeds (Reader.word "ellipse")
  let radii : Reader Phrase := do
    let x ← Reader.lengthPercentage
    return [.inr x, .inl " ", .inr (← Reader.lengthPercentage)]
  match ← Reader.attempt extent with
  | some name =>
    if ← Reader.succeeds (Reader.word "circle") then failure
    let _ ← isTold
    return named name
  | none =>
    if ← isTold then
      match ← Reader.attempt extent with
      | some name => return named name
      | none => radii <|> pure []
    else radii <* isTold

def circle : Reader Phrase := do
  let named (name : String) : Phrase :=
    [.inl (if name == "farthest-corner" then "circle" else "circle " ++ name)]
  let radius : Reader Phrase := do return [.inr (← Reader.length)]
  match ← Reader.attempt extent with
  | some name =>
    Reader.word "circle"
    return named name
  | none =>
    if ← Reader.succeeds (Reader.word "circle") then
      named <$> extent <|> radius <|> pure (named "farthest-corner")
    else radius <* Reader.succeeds (Reader.word "circle")

def shapePhrase (shape : Phrase) (position : Position) : Phrase :=
  let place : Phrase := if position.isCenter then [] else .inl "at " :: position.phrase
  match shape, place with
  | [], [] => []
  | [], place => place ++ [.inl ","]
  | shape, [] => shape ++ [.inl ","]
  | shape, place => shape ++ .inl " " :: place ++ [.inl ","]

def atPosition : Reader Position := Reader.word "at" *> Reader.position

def around (shape : Reader Phrase) : Reader Phrase := do
  let shape ← Reader.attempt shape
  let position ← Reader.attempt atPosition
  if shape.isSome || position.isSome then Reader.comma
  return shapePhrase (shape.getD []) (position.getD .center)

def fromAngle : Reader Phrase := do
  Reader.word "from"
  let angle ← Reader.angleOrZero
  return if angle.isZero then [] else [.inl ("from " ++ angle.write)]

def arguments (name : String) (spelling : Spelling) : Reader Gradient := do
  let gradient : Gradient := ⟨name, spelling, .vertical "bottom", [], []⟩
  if gradient.isLinear then
    let line := (← Reader.attempt (readLine spelling <* Reader.comma)).getD gradient.line
    return { gradient with line, stops := ← readStops Reader.lengthPercentage }
  else if name.endsWith "radial-gradient" then
    let shape ← around (ellipse <|> circle)
    return { gradient with shape, stops := ← readStops Reader.lengthPercentage }
  else
    let shape ← around fromAngle
    return { gradient with shape, stops := ← readStops Reader.anglePercentage }

end Gradient

namespace Reader

def gradient : Reader Gradient := do
  let (found, content) ← function
  let (spelling, name) := Spelling.split found
  if Gradient.names.contains name && (Gradient.spellings name).contains spelling then
    within content (Gradient.arguments name spelling)
  else failure

def pointCoordinate (side : Reader String) : Reader Value := do
  let centered : Reader Value := word "center" *> pure (Value.ofText "50%")
  let number : Reader Value := Value.ofNumber <$> number
  let share : Reader Value := do
    let share ← percentage
    return if share == 0 then Value.ofText "0" else Value.ofPercentage share
  let sided : Reader Value := do
    return Value.ofText (if Coordinate.isFirstSide (← side) then "0" else "100%")
  centered <|> number <|> share <|> sided

def point : Reader Value := do
  let x ← pointCoordinate horizontalSide
  return Value.spaced [x, ← pointCoordinate verticalSide]

def earlyStop : Reader Value := do
  let (name, content) ← function
  within content <|
    match name with
    | "from" => do return Value.call "from" [Value.ofColor (← color)]
    | "to" => do return Value.call "to" [Value.ofColor (← color)]
    | "color-stop" => do
      let share := match ← numberOrPercentage with
        | .inl value => value
        | .inr value => value
      comma
      let color := Value.ofColor (← color)
      return if share == 0 then Value.call "from" [color]
        else if share == 1 then Value.call "to" [color]
        else Value.call "color-stop" [Value.ofNumber share, color]
    | _ => failure

def earlyGradient : Reader Value :=
  call "-webkit-gradient" do
    let kind ← oneOf ["linear", "radial"]
    comma
    let circle : Reader (List Value) := do
      let center ← point
      comma
      if kind == "linear" then return [center]
      let radius ← number
      comma
      return [center, Value.ofNumber radius]
    let first ← circle
    let second ← if kind == "linear" then do
        let center ← point
        comma
        pure [center]
      else circle
    let stops ← commaSeparated earlyStop
    let arguments := Value.ofText kind :: first ++ second ++ stops
    return .image .webkit "gradient" :: Value.commas arguments ++ [.text ")"]

def resolution : Reader String := do
  let quantity ← quantityOf .resolution
  let unit := if quantity.unit == "dppx" then "x" else quantity.unit
  return Quantity.writePlain quantity.value unit

def imageType : Reader String := call "type" string

def resolutionAndType : Reader String := do
  let typeText (type : Option String) : String :=
    (type.map fun type => " type(" ++ Token.writeString type ++ ")").getD ""
  match ← attempt resolution with
  | some resolution => return resolution ++ typeText (← attempt imageType)
  | none =>
    let type ← attempt imageType
    return (← orElse resolution "1x") ++ typeText type

def imageSet (image : Reader Value) : Reader Value := do
  let (found, content) ← function
  let (spelling, name) := Spelling.split found
  if name != "image-set" || !(spelling == .plain || spelling == .webkit) then failure
  let address : Reader Value := do
    return [.imageOfSet spelling (← Raw.url <|> string)]
  let choice : Reader Value := do
    let image ← address <|> (·.map ofSet) <$> image
    return image ++ [.text (" " ++ (← resolutionAndType))]
  let choices ← within content (commaSeparated choice)
  return .image spelling "image-set" :: Value.commas choices ++ [.text ")"]
where
  ofSet : Value.Part → Value.Part
    | .gradient g => .gradientOfSet g
    | part => part

def imageNested : Nat → Reader Value
  | 0 => failure
  | fuel + 1 =>
    let address : Reader Value := do return Value.ofText (Token.writeUrl (← Raw.url))
    let gradient : Reader Value := do return [.gradient (← gradient)]
    word "none" *> pure Value.none <|> address <|> gradient <|> earlyGradient <|>
      imageSet (imageNested fuel)

def image : Reader Value := do
  imageNested (Piece.depthOfAll (← get) + 1)

end Reader

namespace Value

structure Forms where
  earlier : List (List (List Value))
  last : List (List Value)

def colorForms (browsers : Browsers) (layers : List (List Value)) : Forms :=
  let kinds := neededFallbacks browsers layers.flatten.flatten
  let withKind (kind : Color.Fallback) := layers.map (List.map (fallback kind))
  ⟨(kinds.filter (· != .lab)).map withKind, if kinds.contains .lab then withKind .lab else layers⟩

def imageForms (browsers : Browsers) (layers : List (List Value)) : Forms :=
  let kinds := neededFallbacks browsers layers.flatten.flatten
  let spellings := layers.foldl
    (fun all layer => Spelling.union all (neededSpellings layer.flatten)) []
  let rgb := if kinds.contains .rgb then layers.map (List.map (fallback .rgb)) else layers
  let vendors := ([Spelling.webkit, .moz, .opera].filter spellings.contains).map fun spelling =>
    rgb.map (List.map (spelled spelling))
  if spellings.contains .plain then
    let forms := colorForms browsers layers
    ⟨vendors ++ forms.earlier, forms.last⟩
  else ⟨vendors.dropLast, vendors.getLast?.getD layers⟩

end Value

end ScopedStyles.Stylesheet
