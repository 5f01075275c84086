import ScopedStyles.Stylesheet.Quantity

namespace ScopedStyles.Stylesheet

inductive Calculation where
  | value (quantity : Quantity)
  | number (value : Float32)
  | sum (first second : Calculation)
  | product (factor : Float32) (term : Calculation)
  | function (name : String) (terms : List Calculation)
  deriving Inhabited

namespace Calculation

mutual

def beq : Calculation → Calculation → Bool
  | value a, value b => a == b
  | number a, number b => a == b
  | sum a b, sum c d => beq a c && beq b d
  | product x a, product y b => x == y && beq a b
  | function f xs, function g ys => f == g && beqAll xs ys
  | _, _ => false

def beqAll : List Calculation → List Calculation → Bool
  | [], [] => true
  | x :: xs, y :: ys => beq x y && beqAll xs ys
  | _, _ => false

end

instance : BEq Calculation := ⟨beq⟩

def isZero : Calculation → Bool
  | value quantity => quantity.isZero
  | _ => false

inductive Sign where
  | positive
  | negative
  deriving DecidableEq

namespace Sign

def ofNumber (value : Float32) : Option Sign :=
  if value.isNaN then none else if Number.isNegative value then some negative else some positive

def times : Sign → Sign → Sign
  | positive, sign => sign
  | negative, positive => negative
  | negative, negative => positive

def common? : List (Option Sign) → Option Sign
  | some sign :: rest => if rest.all (· == some sign) then some sign else none
  | _ => none

end Sign

mutual

def sign? : Calculation → Option Sign
  | value quantity => Sign.ofNumber quantity.value
  | number n => Sign.ofNumber n
  | sum _ _ => none
  | product factor term => do return (← Sign.ofNumber factor).times (← sign? term)
  | function name terms =>
    if name == "abs" then some .positive
    else if ["calc", "sign", "min", "max", "clamp"].contains name || name.startsWith "round" then
      Sign.common? (signs terms)
    else none

def signs : List Calculation → List (Option Sign)
  | [] => []
  | term :: rest => sign? term :: signs rest

end

def isNegative (calculation : Calculation) : Bool :=
  calculation.sign? == some .negative

mutual

def scale (factor : Float32) (calculation : Calculation) : Calculation :=
  if factor == 1 then calculation
  else
    match calculation with
    | value quantity => value (quantity.scale factor)
    | number n => number (n * factor)
    | sum a b => sum (scale factor a) (scale factor b)
    | product f term => if f * factor == 1 then term else product (f * factor) term
    | function "calc" terms => function "calc" (scaleAll factor terms)
    | function name terms => product factor (function name terms)

def scaleAll (factor : Float32) : List Calculation → List Calculation
  | [] => []
  | term :: rest => scale factor term :: scaleAll factor rest

end

def addTerms (a b : Calculation) : Calculation :=
  if a.isZero then b
  else if b.isZero then a
  else if a.isNegative && b.sign? == some .positive then sum b a
  else sum a b

mutual

def merge? : Nat → Calculation → Calculation → Option Calculation
  | _, value a, value b => (a.combine? (· + ·) b).map value
  | bound + 1, sum a b, other =>
    match merge? bound a other with
    | some merged => some (addMerging bound merged b)
    | none => (merge? bound b other).map (addMerging bound a)
  | bound + 1, value a, sum b c =>
    match merge? bound (value a) b with
    | some merged => some (addMerging bound merged c)
    | none => (merge? bound (value a) c).map (addMerging bound b)
  | _, _, _ => none

def addMerging : Nat → Calculation → Calculation → Calculation
  | 0, a, b => addTerms a b
  | bound + 1, a, b => (merge? bound a b).getD (addTerms a b)

end

def termCount : Calculation → Nat
  | sum a b => a.termCount + b.termCount
  | _ => 1

def addQuantities (a b : Calculation) : Calculation :=
  addMerging (2 * (a.termCount + b.termCount)) a b

def add (a b : Calculation) : Calculation :=
  match a, b with
  | number x, number y => number (x + y)
  | sum (number x) b, number y => sum (number (x + y)) b
  | sum a (number x), number y => sum a (number (x + y))
  | number x, sum (number y) b => sum (number (x + y)) b
  | number x, sum a (number y) => sum (number (x + y)) a
  | number _, _ | _, number _ | product _ _, _ | _, product _ _ => sum a b
  | function _ _, _ | _, function _ _ => sum a b
  | _, _ => addQuantities a b

def combine? (operation : Float32 → Float32 → Float32) :
    Calculation → Calculation → Option Calculation
  | value a, value b => (a.combine? operation b).map value
  | number a, number b => some (number (operation a b))
  | _, _ => none

def map? (f : Float32 → Float32) : Calculation → Option Calculation
  | number n => some (number (f n))
  | value quantity =>
    if quantity.dimension == .percentage then none
    else some (value { quantity with value := f quantity.value })
  | _ => none

def compare? : Calculation → Calculation → Option Ordering
  | value a, value b => a.compare? b
  | _, _ => none

def reduceWith (wanted : Ordering) (term : Calculation) : List Calculation → List Calculation
  | [] => [term]
  | other :: rest =>
    match compare? term other with
    | some order => (if order == wanted then term else other) :: rest
    | none => other :: reduceWith wanted term rest

def extreme (name : String) (wanted : Ordering) (terms : List Calculation) : Calculation :=
  match terms.foldl (fun kept term => reduceWith wanted term kept) [] with
  | [term] => term
  | kept => function name kept

-- The lower bound has the last word, so it can be left out only where the upper one is.
def clamped (low middle high : Calculation) : Calculation :=
  let (middle, high?) := match compare? middle high with
    | some .gt => (high, none)
    | some _ => (middle, none)
    | none => (middle, some high)
  let (middle, low?) := match compare? middle low, high? with
    | some .lt, none => (low, none)
    | some _, none => (middle, none)
    | _, _ => (middle, some low)
  match low?, high? with
  | none, none => middle
  | some low, none => function "max" [low, middle]
  | none, some high => function "min" [middle, high]
  | some low, some high => function "clamp" [low, middle, high]

def rounded (strategy : String) (value step : Float32) : Float32 :=
  let quotient := value / step
  let whole := match strategy with
    | "up" => quotient.ceil
    | "down" => quotient.floor
    | "to-zero" => Number.truncate quotient
    | _ => Number.round quotient
  whole * step

def modulo (a b : Float32) : Float32 :=
  Number.remainder (Number.remainder a b + b) b

def hypot (a b : Float32) : Float32 :=
  (Float.sqrt (a.toFloat * a.toFloat + b.toFloat * b.toFloat)).toFloat32

def norm? : List Calculation → Option Calculation
  | [] => none
  | [term] => some term
  | [a, b] => combine? hypot a b
  | first :: rest => do
    let start ← map? (fun x => x * x) first
    let total ← rest.foldlM (combine? fun sum x => sum + x * x) start
    map? Float32.sqrt total

def signOf (value : Float32) : Float32 :=
  if value > 0 then 1 else if value < 0 then -1 else value

def orFunction (name : String) (terms : List Calculation) (result : Option Calculation) :
    Calculation :=
  result.getD (function name terms)

structure Context where
  dimensions : List Dimension
  numberOf : String → Option Float32 := fun _ => none

namespace Context

def plain : Context := { dimensions := [] }

def length : Context := { dimensions := [.length] }

def lengthPercentage : Context := { dimensions := [.length, .percentage] }

def percentage : Context := { dimensions := [.percentage] }

def angle : Context := { dimensions := [.angle] }

def anglePercentage : Context := { dimensions := [.angle, .percentage] }

def time : Context := { dimensions := [.time] }

def measuring (context : Context) (dimensions : List Dimension) : Context :=
  { context with dimensions }

end Context

def constant? (name : String) : Option Float32 :=
  match name with
  | "e" => some 2.71828174591064453125
  | "pi" => some Quantity.pi
  | "infinity" => some (1 / 0)
  | "-infinity" => some (-1 / 0)
  | "nan" => some (0 / 0)
  | _ => none

def quantity (context : Context) : Reader Calculation := do
  match ← Reader.token with
  | .percentage n =>
    if context.dimensions.contains .percentage then return value (.percent n.value) else failure
  | .dimension n unit =>
    let quantity : Quantity := ⟨n.value, unit.toLower⟩
    if context.dimensions.contains quantity.dimension && quantity.dimension != .other then
      return value quantity
    else failure
  | _ => failure

def strategies : List String := ["nearest", "up", "down", "to-zero"]

def dropComments (pieces : List Piece) : List Piece :=
  pieces.dropWhile fun
    | .token .comment => true
    | _ => false

def sumFrom (term : Reader Calculation) : Nat → Calculation → Reader Calculation
  | 0, total => return total
  | bound + 1, total => do
    match dropComments (← get) with
    | .token (.space _) :: rest =>
      set rest
      if ← Reader.isFinished then return total
      match ← Reader.token with
      | .delim '+' => sumFrom term bound (add total (← term))
      | .delim '-' => sumFrom term bound (add total (scale (-1) (← term)))
      | _ => failure
    | _ => return total

def productFrom (factor : Reader Calculation) : Nat → Calculation → Reader Calculation
  | 0, total => return total
  | bound + 1, total => do
    match Piece.dropSpace (← get) with
    | .token (.delim '*') :: rest =>
      set rest
      match total, ← factor with
      | _, number n => productFrom factor bound (scale n total)
      | number n, other => productFrom factor bound (scale n other)
      | _, _ => failure
    | .token (.delim '/') :: rest =>
      set rest
      match ← factor with
      | number n => if n != 0 then productFrom factor bound (scale (1 / n) total) else failure
      | _ => failure
    | _ => return total

def angleResult (context : Context) (radians : Float32) : Reader Calculation :=
  if context.dimensions.contains .angle then return value ⟨radians, "rad"⟩ else failure

mutual

def call (context : Context) : Nat → Reader Calculation
  | 0 => failure
  | fuel + 1 => do
    let (name, content) ← Reader.function
    let two (finish : Calculation → Calculation → Calculation) : Reader Calculation := do
      let a ← sumOf context fuel
      Reader.comma
      return finish a (← sumOf context fuel)
    let trigonometric (f : Float32 → Float32) : Reader Calculation := do
      match ← sumOf (context.measuring [.angle]) fuel with
      | value angle => return number (f angle.toRadians)
      | number n => return number (f n)
      | _ => failure
    let inverse (f : Float32 → Float32) : Reader Calculation := do
      match ← sumOf (context.measuring [.angle]) fuel with
      | number n => if (f n).isNaN then return number (f n) else angleResult context (f n)
      | _ => failure
    let numeric : Reader Float32 := do
      match ← sumOf (context.measuring []) fuel with
      | number n => return n
      | _ => failure
    Reader.within content <|
      match name with
      | "calc" => do
        match ← sumOf context fuel with
        | value quantity => return value quantity
        | number n => return number n
        | total => return function "calc" [total]
      | "min" => extreme "min" .lt <$> Reader.commaSeparated (sumOf context fuel)
      | "max" => extreme "max" .gt <$> Reader.commaSeparated (sumOf context fuel)
      | "clamp" => do
        let low ← sumOf context fuel
        Reader.comma
        let middle ← sumOf context fuel
        Reader.comma
        return clamped low middle (← sumOf context fuel)
      | "round" => do
        let strategy ← Reader.attempt (Reader.oneOf strategies <* Reader.comma)
        let strategy := strategy.getD "nearest"
        let name := if strategy == "nearest" then "round" else "round " ++ strategy
        two fun a b => orFunction name [a, b] (combine? (rounded strategy) a b)
      | "rem" => two fun a b => orFunction "rem" [a, b] (combine? Number.remainder a b)
      | "mod" => two fun a b => orFunction "mod" [a, b] (combine? modulo a b)
      | "sin" => trigonometric Float32.sin
      | "cos" => trigonometric Float32.cos
      | "tan" => trigonometric Float32.tan
      | "asin" => inverse Float32.asin
      | "acos" => inverse Float32.acos
      | "atan" => inverse Float32.atan
      | "atan2" => do
        let dimensions : List (List Dimension) :=
          [[.length], [.percentage], [.angle], [.time], []]
        let arguments (dimensions : List Dimension) : Reader Float32 := do
          let a ← sumOf (context.measuring dimensions) fuel
          Reader.comma
          match a, ← sumOf (context.measuring dimensions) fuel with
          | value a, value b =>
            match Quantity.common? a b with
            | some (x, y, _) => return Float32.atan2 x y
            | none => failure
          | number x, number y => return Float32.atan2 x y
          | _, _ => failure
        angleResult context (← Reader.firstOf (dimensions.map arguments))
      | "pow" => do
        let a ← numeric
        Reader.comma
        return number (Float32.pow a (← numeric))
      | "log" => do
        let a ← numeric
        if ← Reader.succeeds Reader.comma then
          return number (Float32.log a / Float32.log (← numeric))
        else return number (Float32.log a)
      | "sqrt" => do return number (Float32.sqrt (← numeric))
      | "exp" => do return number (Float32.exp (← numeric))
      | "hypot" => do
        let terms ← Reader.commaSeparated (sumOf context fuel)
        return orFunction "hypot" terms (norm? terms)
      | "abs" => do
        let term ← sumOf context fuel
        return orFunction "abs" [term] (map? Float32.abs term)
      | "sign" => do
        match ← sumOf context fuel with
        | number n => return number (signOf n)
        | term => return match map? signOf term with
          | some (value quantity) => number quantity.value
          | _ => function "sign" [term]
      | _ => failure

def sumOf (context : Context) : Nat → Reader Calculation
  | 0 => failure
  | fuel + 1 => do
    let first ← productOf context fuel
    sumFrom (productOf context fuel) ((← get).length + 1) first

def productOf (context : Context) : Nat → Reader Calculation
  | 0 => failure
  | fuel + 1 => do
    let first ← operand context fuel
    productFrom (operand context fuel) ((← get).length + 1) first

def operand (context : Context) : Nat → Reader Calculation
  | 0 => failure
  | fuel + 1 =>
    let nested : Reader Calculation := do
      match ← call context fuel with
      | function "calc" [total] => return total
      | result => return result
    let named : Reader Calculation := do
      let name ← Reader.ident
      match constant? name.toLower, context.numberOf name with
      | some n, _ | none, some n => return number n
      | none, none => failure
    nested <|> Reader.bracketed '(' (sumOf context fuel) <|> number <$> Reader.plainNumber <|>
      named <|> quantity context

end

def read (context : Context) : Reader Calculation := do
  call context (4 * (Piece.depthOfAll (← get) + 2))

def functionsOfRecent : List String := ["calc", "min", "max", "clamp"]

mutual

def isKnown (browsers : Browsers) : Calculation → Bool
  | value quantity => quantity.isKnown browsers
  | number _ => true
  | sum a b => isKnown browsers a && isKnown browsers b
  | product _ term => isKnown browsers term
  | function name terms =>
    (if browsers.areRecent then functionsOfRecent.contains name else name == "calc") &&
      areKnown browsers terms

def areKnown (browsers : Browsers) : List Calculation → Bool
  | [] => true
  | term :: rest => isKnown browsers term && areKnown browsers rest

end

def commas (texts : List String) : String :=
  String.intercalate "," texts

mutual

def writeTerm (browsers : Browsers) : Calculation → String
  | value quantity => quantity.write
  | number n => Number.write n
  | sum a b =>
    if b.isNegative then writeTerm browsers a ++ " - " ++ writeOpposite browsers b
    else writeTerm browsers a ++ " + " ++ writeTerm browsers b
  | product factor term =>
    if factor.abs < 1 then writeTerm browsers term ++ "/" ++ Number.write (1 / factor)
    else Number.write factor ++ "*" ++ writeTerm browsers term
  | function name terms =>
    let texts := writeTerms browsers terms
    match name.splitOn " " with
    | [name, strategy] => name ++ "(" ++ commas (strategy :: texts) ++ ")"
    | _ =>
      match name, texts with
      | "clamp", [low, middle, high] =>
        if browsers.areOld then "max(" ++ low ++ ",min(" ++ middle ++ "," ++ high ++ "))"
        else "clamp(" ++ commas texts ++ ")"
      | _, _ => name ++ "(" ++ commas texts ++ ")"

def writeTerms (browsers : Browsers) : List Calculation → List String
  | [] => []
  | term :: rest => writeTerm browsers term :: writeTerms browsers rest

def writeOpposite (browsers : Browsers) : Calculation → String
  | value quantity => (quantity.scale (-1)).write
  | number n => Number.write (-n)
  | product factor term =>
    if factor == -1 then writeTerm browsers term
    else if factor.abs < 1 then writeTerm browsers term ++ "/" ++ Number.write (1 / -factor)
    else Number.write (-factor) ++ "*" ++ writeTerm browsers term
  | function "calc" terms => "calc(" ++ commas (writeOpposites browsers terms) ++ ")"
  | function name terms =>
    "-1*" ++ name ++ "(" ++ commas (writeTerms browsers terms) ++ ")"
  | sum a b => writeTerm browsers (sum a b)

def writeOpposites (browsers : Browsers) : List Calculation → List String
  | [] => []
  | term :: rest => writeOpposite browsers term :: writeOpposites browsers rest

end

def write (browsers : Browsers) : Calculation → String
  | value quantity => quantity.writeShort
  | calculation => writeTerm browsers calculation

end Calculation

namespace Reader

def calculated (context : Calculation.Context) (plain : Reader Calculation) : Reader Calculation :=
  Calculation.read context <|> plain

def plainLength : Reader Quantity :=
  quantityOf .length <|> Quantity.px <$> plainNumber

def length : Reader Calculation :=
  calculated .length (.value <$> plainLength)

def lengthPercentage : Reader Calculation :=
  calculated .lengthPercentage
    (.value <$> (plainLength <|> Quantity.percent <$> plainPercentage))

def number : Reader Float32 := do
  match ← calculated .plain (.number <$> plainNumber) with
  | .number value => return value
  | _ => failure

def percentage : Reader Float32 := do
  match ← calculated .percentage (do return .value (.percent (← plainPercentage))) with
  | .value quantity => return quantity.value
  | _ => failure

def angle : Reader Quantity := do
  match ← calculated .angle (.value <$> quantityOf .angle) with
  | .value quantity => return quantity
  | _ => failure

def angleOrZero : Reader Quantity :=
  angle <|> Quantity.degrees <$> Reader.when (· == 0) plainNumber

def anglePercentage : Reader Calculation :=
  calculated .anglePercentage
    (.value <$> (quantityOf .angle <|> Quantity.percent <$> plainPercentage))

def time : Reader Quantity := do
  match ← calculated .time (.value <$> quantityOf .time) with
  | .value quantity => return quantity
  | _ => failure

def numberOrPercentage : Reader (Float32 ⊕ Float32) :=
  .inl <$> number <|> .inr <$> percentage

end Reader

end ScopedStyles.Stylesheet
