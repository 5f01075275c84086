import ScopedStyles.Stylesheet.Condition.Feature
import ScopedStyles.Stylesheet.Declaration.Reader

namespace ScopedStyles.Stylesheet

inductive StyleTest where
  | declared (declaration : Declaration)
  | property (name : String)
  deriving BEq, Inhabited

inductive ContainerTest where
  | feature (test : FeatureTest)
  | style (demand : Demand StyleTest)
  deriving BEq, Inhabited

open DemandReader (lifted attempt)

namespace StyleTest

def read : DemandReader StyleTest := do
  let name ← lifted Reader.ident
  match ← attempt (lifted Reader.colon) with
  | some () =>
    let isMark (piece : Piece) : Bool := piece.isDelim '!'
    let value := (← get).takeWhile (!isMark ·)
    match Declaration.ofValue? name value with
    | some declaration =>
      set ((← get).dropWhile (!isMark ·))
      let _ ← attempt (lifted (Reader.delim '!' *> Reader.word "important"))
      return .declared declaration
    | none => throw .wrong
  | none =>
    match PropertyName.ofText? name with
    | some (known, spelling) => return .property (spelling.mark ++ known)
    | none => return .property name

def write (browsers : Browsers) : StyleTest → String
  | declared declaration => String.intercalate ";" (declaration.write browsers false)
  | property name => Token.writeIdent name

def wording (browsers : Browsers) : Demand.Wording StyleTest :=
  { Demand.Wording.plain (write browsers) with needsParentheses := fun _ _ => true }

end StyleTest

namespace ContainerTest

def argument {α : Type} (test : DemandReader α) (content : List Piece) :
    DemandReader (Demand α) :=
  DemandReader.within content do
    match ← attempt (DemandReader.demand ⟨test, fun _ _ => throw .wrong⟩ true) with
    | some demand => return demand
    | none => return .one (← test)

def tests : DemandReader.TestReader ContainerTest where
  inParentheses := .feature <$> FeatureTest.read Feature.ofContainers
  call := fun name content =>
    match name with
    | "style" => .style <$> argument StyleTest.read content
    | _ => throw .wrong

def write (browsers : Browsers) : ContainerTest → String
  | feature test => test.write browsers true
  | style demand => "style(" ++ demand.write (StyleTest.wording browsers) ++ ")"

end ContainerTest

structure ContainerQuery where
  name : Option String
  demand : Demand ContainerTest
  deriving BEq, Inhabited

namespace ContainerQuery

def reserved : List String := Raw.reservedNames ++ ["none", "and", "not", "or"]

def read : DemandReader ContainerQuery := do
  let name ← attempt (lifted (Reader.when (!reserved.contains ·.toLower) Reader.ident))
  return ⟨name, ← DemandReader.demand ContainerTest.tests true⟩

def ofPieces? (pieces : List Piece) : Option ContainerQuery :=
  match (DemandReader.within pieces read).run [] with
  | .ok (query, _) => some query
  | .error _ => none

def write (browsers : Browsers) (query : ContainerQuery) : String :=
  ((query.name.map fun name => Token.writeIdent name ++ " ").getD "") ++
    query.demand.write (Demand.Wording.plain (ContainerTest.write browsers))

end ContainerQuery

end ScopedStyles.Stylesheet
