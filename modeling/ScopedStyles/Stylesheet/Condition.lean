import ScopedStyles.Stylesheet.Condition.Container
import ScopedStyles.Stylesheet.Condition.Media
import ScopedStyles.Stylesheet.Condition.Supports

namespace ScopedStyles.Stylesheet

inductive Condition where
  | media (queries : List MediaQuery)
  | supports (demand : Demand SupportsTest)
  | container (query : ContainerQuery)
  deriving BEq, Inhabited

namespace Condition

def ofPieces? (keyword : String) (pieces : List Piece) (text : List Char) : Option Condition :=
  match keyword with
  | "media" => media <$> MediaQuery.listOfPieces? pieces
  | "supports" => supports <$> SupportsTest.demandOfPieces? pieces text
  | "container" => container <$> ContainerQuery.ofPieces? pieces
  | _ => none

def holdsAlways : Condition → Bool
  | media queries => queries.all MediaQuery.holdsAlways
  | _ => false

def holdsNever : Condition → Bool
  | media queries => !queries.isEmpty && queries.all MediaQuery.holdsNever
  | _ => false

def prepared (browsers : Browsers) : Condition → Condition
  | media queries => media (MediaQuery.addVendorQueries [] queries)
  | supports demand => supports (demand.map (SupportsTest.prepared browsers))
  | container query => container query

def colorStyles : Condition → List ColorStyle
  | supports demand => SupportsTest.colorStyles demand
  | _ => []

def write (browsers : Browsers) : Condition → String
  | media queries =>
    "@media " ++ String.intercalate "," (queries.map (MediaQuery.write browsers))
  | supports demand => "@supports " ++ demand.write (Demand.Wording.plain SupportsTest.write)
  | container query => "@container " ++ query.write browsers

def prefersDark : Condition :=
  media [⟨none, "all",
    some (.one (.plain ⟨"prefers-color-scheme", .word⟩ (.value (Value.ofText "dark"))))⟩]

def knowsColors (kind : Color.Fallback) : Condition :=
  let value :=
    match kind with
    | .displayP3 => "color(display-p3 0 0 0)"
    | _ => "lab(0% 0 0)"
  supports (.one (.declared "color" [.plain] value))

end Condition

end ScopedStyles.Stylesheet
