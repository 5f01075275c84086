import ScopedStyles.Stylesheet.Shortening
import ScopedStyles.Stylesheet.Value.Reader

namespace ScopedStyles.Stylesheet.Grid

def namesPart (text : String) : Value.Part := .renamed "names" text

def autoTrack : Value := .ofText "auto"

def share : Reader Value := do
  match ← Reader.token with
  | .dimension n unit =>
    if unit.toLower == "fr" && !Number.isNegative n.value then
      return .ofText (Quantity.writePlain n.value "fr")
    else failure
  | _ => failure

def breadth (allowsShare : Bool) : Reader Value :=
  Reader.lengthPercentageValue <|> (if allowsShare then share else failure) <|>
    Reader.keywordOf ["auto", "min-content", "max-content"]

def trackSize : Reader Value :=
  let between : Reader Value := Reader.call "minmax" do
    let low ← breadth false
    Reader.comma
    return Value.call "minmax" [low, ← breadth true]
  let fitting : Reader Value := Reader.call "fit-content" do
    return Value.call "fit-content" [← Reader.lengthPercentageValue]
  breadth true <|> between <|> fitting

def lineNames : Reader (List String) :=
  Reader.bracketed '[' (Reader.many Reader.customIdent)

def writeNames (names : List String) : String :=
  if names.isEmpty then ""
  else "[" ++ String.intercalate " " (names.map Token.writeIdent) ++ "]"

def writeTracks (tracks : List (List String × Value)) (last : List String) : Value :=
  let parts := tracks.zipIdx.flatMap fun ((names, track), i) =>
    namesPart (if names.isEmpty && i > 0 then " " else writeNames names) :: track
  parts ++ [namesPart (writeNames last)]

def tracksOf (track : Reader Value) : Reader Value := do
  let named : Reader (List String × Value) := do
    let names ← Reader.orElse lineNames []
    return (names, ← track)
  let tracks ← Reader.many1 named
  return writeTracks tracks (← Reader.orElse lineNames [])

def repeatCount : Reader Value :=
  Reader.integerValue <|> Reader.keywordOf ["auto-fill", "auto-fit"]

def repeated : Reader Value := Reader.call "repeat" do
  let count ← repeatCount
  Reader.comma
  let tracks ← tracksOf trackSize
  return .text "repeat(" :: count ++ .text "," :: tracks ++ [.text ")"]

def isRepeat : Value.Part → Bool
  | .text "repeat(" => true
  | _ => false

def trackList : Reader Value := tracksOf (trackSize <|> repeated)

def template : Reader Value := Reader.wordValue "none" <|> trackList

def isExplicit (tracks : Value) : Bool := !tracks.any isRepeat

def autoSizes : Reader Value := do
  let sizes ← Reader.many trackSize
  return if sizes.isEmpty then autoTrack else Value.spaced sizes

def isNameChar (c : Char) : Bool := c.isAlphanum || c = '_' || c = '-' || c.toNat ≥ 0x80

def cellsOf? : Nat → List Char → Option (List (Option String))
  | 0, _ => none
  | fuel + 1, text =>
    match text.dropWhile Token.isBlank with
    | [] => some []
    | c :: rest =>
      if c = '.' then (cellsOf? fuel (rest.dropWhile (· = '.'))).map (none :: ·)
      else if isNameChar c then
        let name := (c :: rest).takeWhile isNameChar
        (cellsOf? fuel ((c :: rest).dropWhile isNameChar)).map (some (String.ofList name) :: ·)
      else none

def writeCells : Bool → List (Option String) → String
  | _, [] => ""
  | isAfterName, some name :: rest =>
    (if isAfterName then " " else "") ++ name ++ writeCells true rest
  | isAfterName, none :: rest =>
    -- After a cell without a name a blank keeps two points apart.
    (if isAfterName then "" else " ") ++ "." ++ writeCells false rest

def writeRow (cells : List (Option String)) : String :=
  let text := match cells with
    | none :: rest => "." ++ writeCells false rest
    | some name :: rest => name ++ writeCells true rest
    | [] => ""
  "\"" ++ text ++ "\""

def row : Reader (String × Nat) := do
  let text ← Reader.string
  match cellsOf? (text.length + 1) text.toList with
  | some (cell :: cells) => return (writeRow (cell :: cells), cells.length + 1)
  | _ => failure

def areaPart (text : String) : Value.Part := .renamed "row" text

def areEven (rows : List (String × Nat)) : Bool :=
  match rows with
  | (_, count) :: rest => rest.all (·.2 = count)
  | [] => true

def areas : Reader Value := do
  if ← Reader.succeeds (Reader.word "none") then return .none
  let rows ← Reader.many row
  if areEven rows then return rows.map fun (text, _) => areaPart text else failure

def splitTracks : Value → List (String × Value)
  | [] => []
  | part :: rest =>
    match part, splitTracks rest with
    | .renamed "names" text, ("", track) :: more => (text, track) :: more
    | .renamed "names" text, more => (text, []) :: more
    | part, ("", track) :: more => ("", part :: track) :: more
    | part, more => ("", [part]) :: more

def writeRows (areas rows : Value) : Value :=
  let tracks := splitTracks rows
  let names (i : Nat) : Value :=
    let text := (tracks[i]?.map Prod.fst).getD ""
    if text == " " || text.isEmpty then [] else .ofText text
  let parts := areas.zipIdx.flatMap fun (area, i) =>
    let size := (tracks[i]?.map Prod.snd).getD []
    names i ++ area :: (if size == autoTrack then [] else size)
  parts ++ names areas.length

def writeTemplate : List Value → Value
  | [rows, columns, areas] =>
    if areas == .none then
      if rows == .none && columns == .none then .none else rows ++ .text "/" :: columns
    else writeRows areas rows ++ (if columns == .none then [] else .text "/" :: columns)
  | values => Value.spaced values

def namedRow : Reader (Option (List String) × (String × Nat) × Value × List String) := do
  let before ← Reader.attempt lineNames
  let row ← row
  let size ← Reader.orElse trackSize autoTrack
  return (before, row, size, ← Reader.orElse lineNames [])

def gatherNames (names : List (List String)) (before : Option (List String))
    (after : List String) : List (List String) :=
  let names := match before, names.getLast? with
    | none, _ => names
    | some before, some last => names.dropLast ++ [last ++ before]
    | some before, none => [before]
  names ++ [after]

def templateWithAreas : Reader (List Value) := do
  let rows ← Reader.many1 namedRow
  let trailing ← Reader.attempt lineNames
  let names := rows.foldl (fun names (before, _, _, after) => gatherNames names before after) []
  let names := match trailing with
    | some trailing => names.dropLast ++ [(names.getLast?.getD []) ++ trailing]
    | none => names
  if !areEven (rows.map fun (_, row, _) => row) then failure
  let sizes := rows.map fun (_, _, size, _) => size
  let tracks := writeTracks (names.zip sizes) (names.getD sizes.length [])
  let columns ← if ← Reader.succeeds (Reader.delim '/') then
      Reader.when isExplicit trackList
    else pure Value.none
  return [tracks, columns, rows.map fun (_, (text, _), _) => areaPart text]

def readTemplate : Reader (List Value) := do
  let nothing : Reader (List Value) := do
    Reader.word "none"
    Reader.finished
    return [.none, .none, .none]
  let plain : Reader (List Value) := do
    let rows ← template
    Reader.delim '/'
    return [rows, ← template, .none]
  nothing <|> templateWithAreas <|> plain

def autoFlow : Reader Value := do
  let dense := Reader.succeeds (Reader.word "dense")
  match ← Reader.oneOf ["row", "column", "dense"] with
  | "row" => return .ofText (if ← dense then "dense" else "row")
  | "column" => return .ofText (if ← dense then "column dense" else "column")
  | _ =>
    match ← Reader.attempt (Reader.oneOf ["row", "column"]) with
    | some "column" => return .ofText "column dense"
    | _ => return .ofText "dense"

def isColumnFlow (flow : Value) : Bool := flow.isText "column" || flow.isText "column dense"

def isDense (flow : Value) : Bool := flow.isText "dense" || flow.isText "column dense"

def autoWords : Reader Bool := do
  if ← Reader.succeeds (Reader.word "auto-flow") then Reader.succeeds (Reader.word "dense")
  else
    Reader.word "dense"
    Reader.word "auto-flow"
    return true

def readGrid : Reader (List Value) := do
  let whole : Reader (List Value) := do
    return (← readTemplate) ++ [autoTrack, autoTrack, .ofText "row"]
  let flowing : Reader (List Value) := do
    let rows ← template
    Reader.delim '/'
    let isDense ← autoWords
    let sizes ← autoSizes
    return [rows, .none, .none, autoTrack, sizes, .ofText (if isDense then "column dense" else
      "column")]
  let stacked : Reader (List Value) := do
    let isDense ← autoWords
    let sizes ← autoSizes
    Reader.delim '/'
    let columns ← template
    return [.none, columns, .none, sizes, autoTrack, .ofText (if isDense then "dense" else "row")]
  whole <|> flowing <|> stacked

def writeGrid : List Value → Value
  | [rows, columns, areas, autoRows, autoColumns, flow] =>
    let isPlain := autoRows == autoTrack && autoColumns == autoTrack && flow.isText "row"
    let words (sizes : Value) : Value :=
      .text (if isDense flow then "auto-flow dense" else "auto-flow") ::
        (if sizes == autoTrack then [] else .text " " :: sizes)
    if areas != .none || (rows != .none && columns != .none) || isPlain then
      writeTemplate [rows, columns, areas]
    else if isColumnFlow flow then rows ++ .text "/" :: words autoColumns
    else words autoRows ++ .text "/" :: columns
  | values => Value.spaced values

def isTemplate (rows columns areas : Value) : Bool :=
  areas == .none || (rows != .none && isExplicit rows && isExplicit columns)

def isGrid : List Value → Bool
  | [rows, columns, areas, autoRows, autoColumns, flow] =>
    let isPlain := autoRows == autoTrack && autoColumns == autoTrack && flow.isText "row"
    let isStacked := !isColumnFlow flow && rows == .none && autoColumns == autoTrack
    let isFlowing := isColumnFlow flow && columns == .none && autoRows == autoTrack
    (isTemplate rows columns areas && isPlain) || (areas == .none && (isStacked || isFlowing))
  | _ => false

def namedLine (name : String) : Value := [.renamed "line" (Token.writeIdent name)]

def isNamedLine : Value → Bool
  | [.renamed "line" _] => true
  | _ => false

def autoLine : Value := .ofText "auto"

def lineNumber : Reader Int := Reader.when (· != 0) Reader.integer

def writeSpan (count : Int) (name : Option String) : Value :=
  let number := if count != 1 || name.isNone then [toString count] else []
  .ofText ("span " ++ String.intercalate " " (number ++ (name.map Token.writeIdent).toList))

def span : Reader Value := do
  Reader.word "span"
  match ← Reader.attempt Reader.customIdent with
  | some name => return writeSpan (← Reader.orElse lineNumber 1) (some name)
  | none =>
    let count ← lineNumber
    return writeSpan count (← Reader.attempt Reader.customIdent)

def writeLine (index : Int) (name : Option String) : Value :=
  .ofText (String.intercalate " " (toString index :: (name.map Token.writeIdent).toList))

def line : Reader Value := do
  let numbered : Reader Value := do
    let index ← lineNumber
    return writeLine index (← Reader.attempt Reader.customIdent)
  let named : Reader Value := do
    let name ← Reader.customIdent
    match ← Reader.attempt lineNumber with
    | some index => return writeLine index (some name)
    | none => return namedLine name
  Reader.wordValue "auto" <|> span <|> numbered <|> named

def endOf (start : Value) : Value := if isNamedLine start then start else autoLine

def canOmitEnd (start finish : Value) : Bool := finish == endOf start

def slashed (values : List Value) : Value := Value.joinWith "/" values

def writeLines : List Value → Value
  | [start, finish] => if canOmitEnd start finish then start else slashed [start, finish]
  | [rowStart, columnStart, rowEnd, columnEnd] =>
    if !canOmitEnd columnStart columnEnd then slashed [rowStart, columnStart, rowEnd, columnEnd]
    else if !canOmitEnd rowStart rowEnd then slashed [rowStart, columnStart, rowEnd]
    else if !canOmitEnd rowStart columnStart then slashed [rowStart, columnStart]
    else rowStart
  | values => slashed values

def lineOr (usual : Value) : Reader Value :=
  Reader.orElse (Reader.delim '/' *> line) usual

def readLines : Reader (List Value) := do
  let start ← line
  return [start, ← lineOr (endOf start)]

def readArea : Reader (List Value) := do
  let rowStart ← line
  let columnStart ← lineOr (endOf rowStart)
  let rowEnd ← lineOr (endOf rowStart)
  return [rowStart, columnStart, rowEnd, ← lineOr (endOf columnStart)]

def trackProperties : List String :=
  ["grid-template-rows", "grid-template-columns", "grid-template-areas", "grid-auto-rows",
    "grid-auto-columns", "grid-auto-flow"]

def lineProperties : List String :=
  ["grid-row-start", "grid-row-end", "grid-column-start", "grid-column-end"]

def shorthands : List (String × List String) :=
  [("grid", trackProperties), ("grid-template", trackProperties.take 3),
    ("grid-row", ["grid-row-start", "grid-row-end"]),
    ("grid-column", ["grid-column-start", "grid-column-end"]),
    ("grid-area", ["grid-row-start", "grid-column-start", "grid-row-end", "grid-column-end"])]

def properties : List String :=
  shorthands.map Prod.fst ++ trackProperties ++ lineProperties

def read (name : String) : Reader Setting :=
  match name with
  | "grid" => Setting.ofRecord writeGrid <$> readGrid
  | "grid-template" => Setting.ofRecord writeTemplate <$> readTemplate
  | "grid-row" | "grid-column" => Setting.ofRecord writeLines <$> readLines
  | "grid-area" => Setting.ofRecord writeLines <$> readArea
  | "grid-template-rows" | "grid-template-columns" => Setting.ofValue <$> template
  | "grid-template-areas" => Setting.ofValue <$> areas
  | "grid-auto-rows" | "grid-auto-columns" => Setting.ofValue <$> autoSizes
  | "grid-auto-flow" => Setting.ofValue <$> autoFlow
  | _ => Setting.ofValue <$> line

abbrev Gathered := List (String × Value)

abbrev Step := StateT Gathered Shortening

def writeTogether (name : String) (test : List Value → Bool) (write : List Value → Value) :
    Step Unit := do
  let longhands := (shorthands.lookup name).getD []
  let g ← get
  if let some values := longhands.mapM fun longhand => g.lookup longhand then
    if test values then
      (Shortening.push (.plain name (.ofRecord write values)) : Shortening Unit)
      set (g.filter fun (other, _) => !longhands.contains other)

def flush : Step Unit := do
  writeTogether "grid" isGrid writeGrid
  let isTold : List Value → Bool
    | [rows, columns, areas] => isTemplate rows columns areas
    | _ => false
  writeTogether "grid-template" isTold writeTemplate
  writeTogether "grid-area" (fun _ => true) writeLines
  writeTogether "grid-row" (fun _ => true) writeLines
  writeTogether "grid-column" (fun _ => true) writeLines
  let g ← get
  for name in trackProperties ++ lineProperties do
    if let some value := g.lookup name then
      (Shortening.push (.plain name (.ofValue value)) : Shortening Unit)
  set ([] : Gathered)

def take (declaration : Declaration) : Step Bool := do
  let name := declaration.name
  if !properties.contains name then return false
  match declaration.setting with
  | .raw _ =>
    flush
    (Shortening.push declaration : Shortening Unit)
  | .known _ layers =>
    let values := layers.flatten
    let entries := match shorthands.lookup name with
      | some longhands => longhands.zip values
      | none => [(name, values.flatten)]
    for (name, value) in entries do
      modify fun g => (name, value) :: g.filter fun (other, _) => other != name
  return true

end ScopedStyles.Stylesheet.Grid
