import ScopedStyles.Stylesheet.Reader
import ScopedStyles.Stylesheet.Selector

namespace ScopedStyles.Stylesheet

namespace Formula

def unsignedOffset : Reader Int := do
  match ← Reader.token with
  | .number n => match n.whole with
    | some value => if n.isSigned then failure else return value
    | none => failure
  | _ => failure

def signedOffset : Reader Int := do
  match ← Reader.token with
  | .number n => match n.whole with
    | some value => if n.isSigned then return value else failure
    | none => failure
  | _ => failure

def readOffset : Reader Int := do
  if ← Reader.succeeds (Reader.delim '+') then unsignedOffset
  else if ← Reader.succeeds (Reader.delim '-') then return -(← unsignedOffset)
  else Reader.orElse signedOffset 0

def afterSign (step : Int) (text : List Char) : Reader Formula := do
  match text with
  | [] => return ⟨step, ← readOffset⟩
  | ['-'] => return ⟨step, -(← unsignedOffset)⟩
  | '-' :: digits =>
    if !digits.all Char.isDigit then failure
    return ⟨step, -(Text.digitsOf digits : Int)⟩
  | _ => failure

def afterStep (step : Int) (name : String) : Reader Formula :=
  match name.toLower.toList with
  | 'n' :: rest => afterSign step rest
  | _ => failure

def read : Reader Formula := do
  match ← Reader.token with
  | .number n => match n.whole with
    | some value => return ⟨0, value⟩
    | none => failure
  | .dimension n unit => match n.whole with
    | some step => afterStep step unit
    | none => failure
  | .ident name =>
    match name.toLower.toList with
    | ['e', 'v', 'e', 'n'] => return ⟨2, 0⟩
    | ['o', 'd', 'd'] => return ⟨2, 1⟩
    | '-' :: rest => afterStep (-1) (String.ofList rest)
    | _ => afterStep 1 name
  | .delim '+' =>
    match ← Reader.pieceOrSpace with
    | .token (.ident name) => afterStep 1 name
    | _ => failure
  | _ => failure

def signed (value : Int) : String :=
  if value < 0 then toString value else "+" ++ toString value

def write (formula : Formula) : String :=
  let ⟨step, offset⟩ := formula
  if step = 2 ∧ offset = 1 then "odd"
  else if step = 0 then toString offset
  else
    let start :=
      if step = 1 then "n" else if step = -1 then "-n" else toString step ++ "n"
    if offset = 0 then start else start ++ signed offset

def isWritten (formula : Formula) : Bool :=
  formula != ⟨0, 1⟩

end Formula

namespace Rank

def name : Rank → String
  | child => "nth-child"
  | lastChild => "nth-last-child"
  | ofType => "nth-of-type"
  | lastOfType => "nth-last-of-type"
  | onlyChild => "only-child"
  | onlyOfType => "only-of-type"
  | column => "nth-col"
  | lastColumn => "nth-last-col"

def firstName : Rank → String
  | child => "first-child"
  | lastChild => "last-child"
  | ofType => "first-of-type"
  | lastOfType => "last-of-type"
  | column => "nth-col("
  | lastColumn => "nth-last-col("
  | rank => rank.name

def all : List Rank :=
  [child, lastChild, ofType, lastOfType, onlyChild, onlyOfType, column, lastColumn]

end Rank

end ScopedStyles.Stylesheet
