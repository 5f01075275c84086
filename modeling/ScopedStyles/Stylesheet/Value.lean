import ScopedStyles.Stylesheet.Gradient
import ScopedStyles.Stylesheet.Raw

namespace ScopedStyles.Stylesheet

namespace Value

inductive Part where
  | text (text : String)
  | modern (text : String)
  | rare (text : String)
  | renamed (name text : String)
  | measure (measure : Calculation)
  | color (color : Color)
  | gradient (gradient : Gradient)
  | gradientOfSet (gradient : Gradient)
  | image (spelling : Spelling) (name : String)
  | imageOfSet (spelling : Spelling) (address : String)
  | position (position : Position)
  | coordinate (coordinate : Coordinate)
  deriving BEq, Inhabited

end Value

abbrev Value := List Value.Part

namespace Value

def ofText (text : String) : Value := [.text text]

def none : Value := ofText "none"

def ofMeasure (measure : Calculation) : Value := [.measure measure]

def ofColor (color : Color) : Value := [.color color]

def currentColor : Value := ofColor .current

def transparent : Value := ofColor Color.transparent

def ofNumber (value : Float32) : Value := ofText (Number.write value)

def zero : Value := ofMeasure (.value (.px 0))

def ofPercentage (share : Float32) : Value := ofMeasure (.value (.percent share))

def isZero : Value → Bool
  | [.measure measure] => measure.isZero
  | _ => false

def isText (name : String) (value : Value) : Bool :=
  value == ofText name

def joinWith (separator : String) : List Value → Value
  | [] => []
  | [value] => value
  | value :: rest => value ++ .text separator :: joinWith separator rest

def spaced (values : List Value) : Value := joinWith " " values

def commas (values : List Value) : Value := joinWith "," values

def unusual (usual value : Value) : List Value :=
  if value == usual then [] else [value]

def call (name : String) (arguments : List Value) : Value :=
  .text (name ++ "(") :: commas arguments ++ [.text ")"]

def pair (first second : Value) : Value :=
  if first == second then first else spaced [first, second]

def sides (top right bottom left : Value) : Value :=
  if left != right then spaced [top, right, bottom, left]
  else if bottom != top then spaced [top, right, bottom]
  else if right != top then spaced [top, right]
  else top

def Part.write (browsers : Browsers) : Part → String
  | text t => t
  | modern t => t
  | rare t => t
  | renamed _ t => t
  | measure m => m.write browsers
  | color c => c.write browsers
  | gradient g | gradientOfSet g => g.write browsers
  | image spelling name => spelling.mark ++ name ++ "("
  | imageOfSet .plain address => Token.writeString address
  | imageOfSet _ address => Token.writeUrl address
  | position p => p.phrase.write browsers
  | coordinate c => c.phrase.write browsers

def write (browsers : Browsers) (value : Value) : String :=
  String.join (value.map (Part.write browsers))

def Part.isKnown (browsers : Browsers) : Part → Bool
  | modern _ => browsers.areRecent
  | rare _ => false
  | measure m => m.isKnown browsers
  | color c => c.isKnown
  | gradient g | gradientOfSet g => g.isKnown browsers
  | image _ _ => false
  | _ => true

def isKnown (browsers : Browsers) (value : Value) : Bool :=
  value.all (Part.isKnown browsers)

def Part.colors : Part → List Color
  | color c => [c]
  | gradient g => g.colors
  | _ => []

def neededFallbacks (browsers : Browsers) (value : Value) : List Color.Fallback :=
  (value.flatMap Part.colors).foldl
    (fun kinds c => Color.Fallback.union kinds (c.neededFallbacks browsers)) []

def Part.mapColors (f : Color → Color) : Part → Part
  | color c => color (f c)
  | gradient g => gradient (g.mapColors f)
  | part => part

def fallback (kind : Color.Fallback) (value : Value) : Value :=
  value.map (Part.mapColors (Color.fallback kind))

def Part.spelling? : Part → Option Spelling
  | gradient g => some g.spelling
  | image spelling _ => some spelling
  | _ => Option.none

def hasVendorImage (value : Value) : Bool :=
  value.any fun part => part.spelling?.any (· != .plain)

def Part.neededSpellings : Part → List Spelling
  | gradient g => [g.spelling]
  | image .plain _ => [.webkit, .plain]
  | image spelling _ => [spelling]
  | _ => []

def neededSpellings (value : Value) : List Spelling :=
  let spellings := value.foldl (fun all part => Spelling.union all part.neededSpellings) []
  if spellings.isEmpty then [.plain] else spellings

def Part.spelled (spelling : Spelling) : Part → Part
  | gradient g => gradient (g.spelled spelling)
  | image _ name => image spelling name
  | imageOfSet _ address => imageOfSet spelling address
  | part => part

def spelled (spelling : Spelling) (value : Value) : Value :=
  value.map (Part.spelled spelling)

end Value

end ScopedStyles.Stylesheet
