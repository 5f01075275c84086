import ScopedStyles.Stylesheet.Condition.Demand
import ScopedStyles.Stylesheet.Property.Names
import ScopedStyles.Stylesheet.Shortening

namespace ScopedStyles.Stylesheet

namespace Piece

mutual

def textAfter : Piece → List Char → List Char
  | token _, text => afterToken text
  | block _ content, text => (textAfterAll content (text.drop 1)).drop 1
  | function _ content, text => (textAfterAll content (afterToken text)).drop 1
where
  afterToken : List Char → List Char
    | [] => []
    | c :: rest => (Token.readOne c rest).2

def textAfterAll : List Piece → List Char → List Char
  | [], text => text
  | piece :: rest, text => textAfterAll rest (textAfter piece text)

end

def textOf (pieces : List Piece) (text : List Char) : String :=
  String.ofList (text.take (text.length - (textAfterAll pieces text).length))

mutual

def isSound : Piece → Bool
  | token (.closing _) => false
  | token .broken => false
  | token _ => true
  | block _ content => areSound content
  | function _ content => areSound content

def areSound : List Piece → Bool
  | [] => true
  | piece :: rest => isSound piece && areSound rest

end

end Piece

inductive SupportsTest where
  | declared (name : String) (spellings : List Spelling) (value : String)
  | selector (text : String)
  | unknown (text : String)
  deriving BEq, Inhabited

structure TextedPieces where
  pieces : List Piece
  text : List Char

abbrev SupportsReader := StateT TextedPieces Option

namespace SupportsReader

def skipSpace : SupportsReader Unit := do
  let { pieces, text } ← get
  let spaces := pieces.takeWhile Piece.isSpace
  set (TextedPieces.mk (pieces.drop spaces.length) (Piece.textAfterAll spaces text))

def piece : SupportsReader (Piece × List Char) := do
  skipSpace
  let { pieces, text } ← get
  match pieces with
  | next :: rest =>
    set (TextedPieces.mk rest (next.textAfter text))
    return (next, text)
  | [] => failure

def ident : SupportsReader String := do
  match ← piece with
  | (.token (.ident name), _) => return name
  | _ => failure

def attempt {α : Type} (reader : SupportsReader α) : SupportsReader (Option α) :=
  (some <$> reader) <|> pure none

def readAll? {α : Type} (reader : SupportsReader α) (pieces : List Piece) (text : List Char) :
    Option α := do
  let (value, rest) ← reader.run ⟨pieces, text⟩
  if (Piece.dropSpace rest.pieces).isEmpty then some value else none

def declared : SupportsReader SupportsTest := do
  let written ← ident
  match ← piece with
  | (.token .colon, _) => pure ()
  | _ => failure
  skipSpace
  let { pieces, text } ← get
  if !Piece.areSound pieces then failure
  set (TextedPieces.mk [] [])
  let value := Piece.textOf pieces text
  match PropertyName.ofText? written with
  | some (name, spelling) => return .declared name [spelling] value
  | none => return .declared written [.plain] value

def add (demands : List (Demand SupportsTest)) (demand : Demand SupportsTest) :
    List (Demand SupportsTest) :=
  match demand with
  | .one (.declared name spellings value) =>
    let isSame : Demand SupportsTest → Bool
      | .one (.declared other _ otherValue) => other == name && otherValue == value
      | _ => false
    if demands.any isSame then
      demands.map fun
        | .one (.declared other own otherValue) =>
          if other == name && otherValue == value then
            .one (.declared other (Spelling.union own spellings) otherValue)
          else .one (.declared other own otherValue)
        | other => other
    else demands ++ [demand]
  | _ => demands ++ [demand]

def more (part : SupportsReader (Demand SupportsTest)) :
    Nat → Option Junction → List (Demand SupportsTest) →
      SupportsReader (Option Junction × List (Demand SupportsTest))
  | 0, junction, demands => return (junction, demands)
  | bound + 1, junction, demands => do
    let next : SupportsReader (Junction × Demand SupportsTest) := do
      match Junction.ofWord? (← ident) with
      | some found =>
        if junction.isSome && junction != some found then failure
        return (found, ← part)
      | none => failure
    match ← attempt next with
    | some (found, demand) => more part bound (some found) (add demands demand)
    | none => return (junction, demands)

mutual

def part : Nat → SupportsReader (Demand SupportsTest)
  | 0 => failure
  | depth + 1 => do
    let (next, text) ← piece
    let unknown : SupportsReader (Demand SupportsTest) :=
      if next.isSound then return .one (.unknown (Piece.textOf [next] text)) else failure
    match next with
    | .block '(' content =>
      let inner := text.drop 1
      match readAll? (attempt (demand depth)) content inner with
      | some (some demand) => return demand
      | _ =>
        match readAll? declared content inner with
        | some test => return .one test
        | none => unknown
    | .function name content =>
      if name.toLower == "selector" && Piece.areSound content then
        return .one (.selector (Piece.textOf content (Piece.textAfter.afterToken text)))
      else unknown
    | _ => failure

def demand : Nat → SupportsReader (Demand SupportsTest)
  | 0 => failure
  | depth + 1 => do
    let negated : SupportsReader Unit := do
      if (← ident).toLower != "not" then failure
    match ← attempt negated with
    | some () => return .negated (← part depth)
    | none =>
      let first ← part depth
      let bound := (← get).pieces.length + 1
      match ← more (part depth) bound none [first] with
      | (some _, [only]) => return only
      | (some junction, demands) => return .joined junction demands
      | (none, _) => return first

end

end SupportsReader

namespace SupportsTest

def demandOfPieces? (pieces : List Piece) (text : List Char) : Option (Demand SupportsTest) :=
  SupportsReader.readAll? (SupportsReader.demand (2 * (Piece.depthOfAll pieces + 2))) pieces text

def colorStyles (demand : Demand SupportsTest) : List ColorStyle :=
  (ofDemand? demand).getD []
where
  ofDemand? : Demand SupportsTest → Option (List ColorStyle)
    | .one (.declared _ _ value) =>
      some ((Raw.ofPieces? (Piece.ofText value)).elim [] Raw.colorStyles)
    | .one _ => some []
    | .joined .both demands => ofAll? demands
    | .joined .either _ | .negated _ => none
  ofAll? : List (Demand SupportsTest) → Option (List ColorStyle)
    | [] => some []
    | demand :: rest => return (← ofDemand? demand) ++ (← ofAll? rest)

def prepared (browsers : Browsers) : SupportsTest → SupportsTest
  | declared name spellings value =>
    if spellings.contains .plain && !PropertyName.plainOnly.contains name then
      .declared name (browsers.spellings name spellings) value
    else .declared name spellings value
  | test => test

def write : SupportsTest → String
  | declared name spellings value =>
    let texts := (Spelling.all.filter spellings.contains).map fun spelling =>
      spelling.mark ++ String.ofList (Token.writeName name.toList) ++ ":" ++ value
    let all := "(" ++ String.intercalate ") or (" texts ++ ")"
    if spellings == [.plain] then all else "(" ++ all ++ ")"
  | selector text => "selector(" ++ text ++ ")"
  | unknown text => text

end SupportsTest

end ScopedStyles.Stylesheet
