import ScopedStyles.Stylesheet.Piece

namespace ScopedStyles.Stylesheet

abbrev Reader := StateT (List Piece) Option

namespace Reader

variable {α β : Type}

def readAll? (reader : Reader α) (pieces : List Piece) : Option α := do
  let (value, rest) ← reader.run pieces
  if (Piece.dropSpace rest).isEmpty then some value else none

def finished : Reader Unit := do
  if !(Piece.dropSpace (← get)).isEmpty then failure

def isFinished : Reader Bool := do
  return (Piece.dropSpace (← get)).isEmpty

def attempt (reader : Reader α) : Reader (Option α) :=
  (some <$> reader) <|> pure none

def succeeds (reader : Reader α) : Reader Bool := do
  return (← attempt reader).isSome

def orElse (reader : Reader α) (value : α) : Reader α :=
  reader <|> pure value

def firstOf : List (Reader α) → Reader α
  | [] => failure
  | reader :: rest => reader <|> firstOf rest

def when (test : α → Bool) (reader : Reader α) : Reader α := do
  let value ← reader
  if test value then return value else failure

def bindOption (reader : Reader α) (f : α → Option β) : Reader β := do
  match f (← reader) with
  | some value => return value
  | none => failure

def piece : Reader Piece := do
  match Piece.dropSpace (← get) with
  | next :: rest => set rest; return next
  | [] => failure

def pieceOrSpace : Reader Piece := do
  match ← get with
  | next :: rest => set rest; return next
  | [] => failure

def token : Reader Token := do
  match ← piece with
  | .token token => return token
  | _ => failure

def ident : Reader String := do
  match ← token with
  | .ident name => return name
  | _ => failure

def keyword : Reader String :=
  String.toLower <$> ident

def oneOf (words : List String) : Reader String :=
  when words.contains keyword

def word (name : String) : Reader Unit := do
  if (← keyword) != name then failure

def delim (c : Char) : Reader Unit := do
  if (← token) != .delim c then failure

def comma : Reader Unit := do
  if (← token) != .comma then failure

def colon : Reader Unit := do
  if (← token) != .colon then failure

def string : Reader String := do
  match ← token with
  | .string value => return value
  | _ => failure

def identOrString : Reader String :=
  ident <|> string

def plainNumber : Reader Float32 := do
  match ← token with
  | .number n => return n.value
  | _ => failure

def integer : Reader Int := do
  match ← token with
  | .number n => match n.whole with
    | some value => return value
    | none => failure
  | _ => failure

def plainPercentage : Reader Float32 := do
  match ← token with
  | .percentage n => return n.value
  | _ => failure

def function : Reader (String × List Piece) := do
  match ← piece with
  | .function name content => return (name.toLower, content)
  | _ => failure

def within (content : List Piece) (reader : Reader α) : Reader α := do
  match readAll? reader content with
  | some value => return value
  | none => failure

def call (name : String) (reader : Reader α) : Reader α := do
  let (found, content) ← function
  if found != name then failure
  within content reader

def bracketed (bracket : Char) (reader : Reader α) : Reader α := do
  match ← piece with
  | .block found content => if found == bracket then within content reader else failure
  | _ => failure

def commaSeparated (reader : Reader α) : Reader (List α) := do
  let parts := Piece.splitByCommas (← get)
  set ([] : List Piece)
  match parts.mapM (readAll? reader) with
  | some values => return values
  | none => failure

def manyUpTo (reader : Reader α) : Nat → Reader (List α)
  | 0 => return []
  | bound + 1 => do
    match ← attempt reader with
    | some value => return value :: (← manyUpTo reader bound)
    | none => return []

def many (reader : Reader α) : Reader (List α) := do
  manyUpTo reader ((← get).length + 1)

def many1 (reader : Reader α) : Reader (List α) :=
  when (!·.isEmpty) (many reader)

def repeatSteps (step : α → Reader α) : Nat → α → Reader α
  | 0, value => return value
  | bound + 1, value => do
    match ← attempt (step value) with
    | some value => repeatSteps step bound value
    | none => return value

def steps (step : α → Reader α) (value : α) : Reader α := do
  repeatSteps step ((← get).length + 1) value

end Reader

end ScopedStyles.Stylesheet
