import ScopedStyles.Stylesheet.Declaration.Reader
import ScopedStyles.Stylesheet.Rule
import ScopedStyles.Stylesheet.Selector.Reader

namespace ScopedStyles.Stylesheet

structure Body where
  declarations : Declarations := {}
  rules : List Rule := []
  deriving Inhabited

namespace Body

def addDeclaration (body : Body) (ranked : RankedDeclaration) : Body :=
  let { declaration, isImportant } := ranked
  match body.rules.getLast? with
  | none => { body with declarations := body.declarations.add declaration isImportant }
  | some (.loose declarations) =>
    let joined := declarations.add declaration isImportant
    { body with rules := body.rules.dropLast ++ [.loose joined] }
  | some _ =>
    let first := ({} : Declarations).add declaration isImportant
    { body with rules := body.rules ++ [.loose first] }

def addRule (body : Body) (rule : Rule) : Body :=
  { body with rules := body.rules ++ [rule] }

def spoiled (body : Body) : Body := { body with declarations := {} }

def add? (body : Body) : Option Rule → Body
  | some rule => body.addRule rule
  | none => body.spoiled

def toRules (body : Body) : List Rule :=
  if body.declarations.isEmpty then body.rules else .loose body.declarations :: body.rules

def toStyle (body : Body) (selectors : List Selector) : Rule :=
  .style selectors [] body.declarations body.rules

end Body

inductive Prelude where
  | condition (condition : Condition)
  | layer (names : List LayerName)
  | starting
  | document
  | scope (start finish : Option (List Selector))
  | nest (selectors : List Selector)
  | unknown (name : String) (front : Raw)

namespace Prelude

def outerKeywords : List String :=
  ["font-face", "font-palette-values", "font-feature-values", "counter-style", "viewport",
    "-ms-viewport", "keyframes", "-webkit-keyframes", "-moz-keyframes", "-ms-keyframes",
    "-o-keyframes", "page", "view-transition"]

def frontKeywords : List String := ["charset", "import", "namespace"]

def layerNameFrom : Nat → Reader LayerName
  | 0 => return []
  | bound + 1 => do
    match ← get with
    | .token (.delim '.') :: .token (.ident name) :: rest =>
      set rest
      return name :: (← layerNameFrom bound)
    | _ => return []

def layerName : Reader LayerName := do
  let first ← Reader.ident
  return first :: (← layerNameFrom (← get).length)

def layerNames? (pieces : List Piece) : Option (List LayerName) :=
  let parts := Piece.splitByCommas pieces
  let isBlank (part : List Piece) : Bool := (Piece.dropSpace part).isEmpty
  let names := (parts.takeWhile (!isBlank ·)).mapM (Reader.readAll? layerName)
  match parts.dropWhile (!isBlank ·) with
  | [] => names
  | [_] => names.map fun _ => []
  | _ => none

def scope? (pieces : List Piece) : Option Prelude :=
  let finish : List Piece → Option (Option (List Selector))
    | [] => some none
    | .token (.ident name) :: rest =>
      match Piece.dropSpace rest with
      | .block '(' content :: rest =>
        if name.toLower == "to" && (Piece.dropSpace rest).isEmpty then
          some (some (Selector.forgivingOfPieces content))
        else none
      | _ => none
    | _ => none
  match Piece.dropSpace pieces with
  | .block '(' content :: rest =>
    (finish (Piece.dropSpace rest)).map (scope (some (Selector.forgivingOfPieces content)))
  | pieces => (finish pieces).map (scope none)

def isAnyAddress (pieces : List Piece) : Bool :=
  match pieces.filter (!Piece.isSpace ·) with
  | [.function name content] =>
    name.toLower == "url-prefix" &&
      match content.filter (!Piece.isSpace ·) with
      | [] => true
      | [.token (.string text)] => text.isEmpty
      | _ => false
  | _ => false

def ofPieces? (isInStyle : Bool) (name : String) (pieces : List Piece) (text : List Char) :
    Option Prelude :=
  let keyword := name.toLower
  match keyword with
  | "media" | "supports" | "container" => condition <$> Condition.ofPieces? keyword pieces text
  | "layer" => layer <$> layerNames? pieces
  | "starting-style" => if (Piece.dropSpace pieces).isEmpty then some starting else none
  | "-moz-document" => if isAnyAddress pieces then some document else none
  | "scope" => scope? pieces
  | _ =>
    if keyword == "nest" && isInStyle then nest <$> Selector.containingOfPieces? pieces
    else if outerKeywords.contains keyword then none
    else if frontKeywords.contains keyword && !isInStyle then none
    else unknown name <$> Raw.ofPieces? (Piece.dropSpace pieces)

def toStatement? (isInStyle : Bool) : Prelude → Option Rule
  | layer names => if isInStyle || names.isEmpty then none else some (.layerOrder names)
  | unknown name front => some (.unknown name front none)
  | _ => none

end Prelude

namespace Rule

def beforeBlock (stopsAtSemicolon : Bool) (pieces : List Piece) : List Piece × List Piece :=
  let goesOn (piece : Piece) : Bool := !(piece.isBrace || (stopsAtSemicolon && piece.isSemicolon))
  (pieces.takeWhile goesOn, pieces.dropWhile goesOn)

def selectors? (isInStyle : Bool) (pieces : List Piece) : Option (List Selector) :=
  if isInStyle then Selector.nestedOfPieces? pieces else Selector.ofPieces? pieces

def ofBlock? (readStyle readGroup : List Piece → Body) (content : List Piece) :
    Prelude → Option Rule
  | .condition condition => some (.group condition (readGroup content).toRules)
  | .layer [] => some (.layer none (readGroup content).toRules)
  | .layer [name] => some (.layer (some name) (readGroup content).toRules)
  | .layer _ => none
  | .starting => some (.starting (readGroup content).toRules)
  | .document => some (.document (readGroup content).toRules)
  | .scope start finish => some (.scope start finish (readGroup content).toRules)
  | .nest selectors => some ((readStyle content).toStyle selectors)
  | .unknown name front => (Raw.ofPieces? content).map fun block => .unknown name front (some block)

def readKeyword (readStyle readGroup : List Piece → Body) (isInStyle : Bool) (name : String)
    (text : List Char) (pieces : List Piece) : Option Rule × List Piece :=
  let (front, rest) := beforeBlock true pieces
  let start? := Prelude.ofPieces? isInStyle name front text
  match rest with
  | .block _ content :: after => (start?.bind (ofBlock? readStyle readGroup content), after)
  | _ => (start?.bind (Prelude.toStatement? isInStyle), rest.drop 1)

def readSelectors (readStyle : List Piece → Body) (isInStyle : Bool) (pieces : List Piece) :
    Option Rule × List Piece :=
  let (front, rest) := beforeBlock isInStyle pieces
  match rest with
  | .block _ content :: after =>
    ((selectors? isInStyle front).map (readStyle content).toStyle, after)
  | _ => (none, rest.drop 1)

def readItems (read : Bool → List Piece → Body) (isInStyle : Bool) :
    Nat → Body → List Piece → Body
  | 0, body, _ => body
  | _, body, [] => body
  | bound + 1, body, piece :: rest =>
    let readMore := readItems read isInStyle bound
    let readRule (body : Body) : Body :=
      let (rule?, after) := readSelectors (read true) isInStyle (piece :: rest)
      readMore (body.add? rule?) after
    if piece.isSpace || piece.isSemicolon then readMore body rest
    else
      match piece with
      | .token (.atKeyword name text) =>
        let (rule?, after) := readKeyword (read true) (read isInStyle) isInStyle name text rest
        readMore (body.add? rule?) after
      | .token (.ident name) =>
        if !isInStyle then readRule body
        else
          match Declaration.ofPieces? name (rest.takeWhile (!Piece.isSemicolon ·)) with
          | some ranked =>
            readMore (body.addDeclaration ranked) ((rest.dropWhile (!Piece.isSemicolon ·)).drop 1)
          | none => readRule body
      | _ => readRule body

def readBlock : Nat → Bool → List Piece → Body
  | 0, _, _ => {}
  | depth + 1, isInStyle, pieces =>
    readItems (readBlock depth) isInStyle (pieces.length + 1) {} pieces

def readTop (read : Bool → List Piece → Body) : Nat → List Piece → List Rule
  | 0, _ => []
  | _, [] => []
  | bound + 1, piece :: rest =>
    if piece.isSpace then readTop read bound rest
    else
      match piece with
      | .token (.signs "<!--") => readTop read bound rest
      | .token (.signs "-->") => readTop read bound rest
      | .token (.atKeyword name text) =>
        let (rule?, after) := readKeyword (read true) (read false) false name text rest
        rule?.toList ++ readTop read bound after
      | _ =>
        let (rule?, after) := readSelectors (read true) false (piece :: rest)
        rule?.toList ++ readTop read bound after

def ofText (text : String) : List Rule :=
  let pieces := Piece.ofText text
  readTop (readBlock (Piece.depthOfAll pieces + 1)) (pieces.length + 1) pieces

end Rule

end ScopedStyles.Stylesheet
