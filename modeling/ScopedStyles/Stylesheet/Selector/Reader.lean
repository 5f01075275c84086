import ScopedStyles.Stylesheet.Selector.Counting

namespace ScopedStyles.Stylesheet

def Simple.vendorClasses : List (String × Spelling × String) := [
  ("-webkit-full-screen", .webkit, "fullscreen"), ("-moz-full-screen", .moz, "fullscreen"),
  ("-ms-fullscreen", .ms, "fullscreen"), ("fullscreen", .plain, "fullscreen"),
  ("-webkit-any-link", .webkit, "any-link"), ("-moz-any-link", .moz, "any-link"),
  ("any-link", .plain, "any-link"), ("-moz-read-only", .moz, "read-only"),
  ("read-only", .plain, "read-only"), ("-moz-read-write", .moz, "read-write"),
  ("read-write", .plain, "read-write"),
  ("-moz-placeholder-shown", .moz, "placeholder-shown"),
  ("-ms-placeholder-shown", .ms, "placeholder-shown"),
  ("placeholder-shown", .plain, "placeholder-shown"), ("-webkit-autofill", .webkit, "autofill"),
  ("-o-autofill", .opera, "autofill"), ("autofill", .plain, "autofill")]

def Simple.vendorElements : List (String × Spelling × String) := [
  ("-moz-selection", .moz, "selection"), ("selection", .plain, "selection"),
  ("-webkit-input-placeholder", .webkit, "placeholder"), ("-moz-placeholder", .moz, "placeholder"),
  ("-ms-input-placeholder", .ms, "placeholder"), ("placeholder", .plain, "placeholder"),
  ("-webkit-backdrop", .webkit, "backdrop"), ("backdrop", .plain, "backdrop"),
  ("-webkit-file-upload-button", .webkit, "file-selector-button"),
  ("-ms-browse", .ms, "file-selector-button"),
  ("file-selector-button", .plain, "file-selector-button")]

namespace SelectorReader

def knownClasses : List String :=
  ["hover", "active", "focus", "focus-visible", "focus-within", "current", "past", "future",
    "playing", "paused", "seeking", "buffering", "stalled", "muted", "volume-locked",
    "popover-open", "open", "closed", "modal", "picture-in-picture", "defined", "link",
    "local-link", "target", "target-within", "visited", "enabled", "disabled", "default", "checked",
    "indeterminate", "blank", "valid", "invalid", "in-range", "out-of-range", "required",
    "optional", "user-valid", "user-invalid", "active-view-transition", "root", "empty", "scope",
    "host"]

def actionClasses : List String := ["active", "hover", "focus", "focus-within", "focus-visible"]

def scrollbarClasses : List String :=
  ["horizontal", "vertical", "decrement", "increment", "start", "end", "double-button",
    "single-button", "no-button", "corner-present", "window-inactive"]

def firstRanks : List (String × Rank) :=
  [("first-child", .child), ("last-child", .lastChild), ("only-child", .onlyChild),
    ("first-of-type", .ofType), ("last-of-type", .lastOfType), ("only-of-type", .onlyOfType)]

def scrollbarElements : List String :=
  ["-webkit-scrollbar", "-webkit-scrollbar-button", "-webkit-scrollbar-track",
    "-webkit-scrollbar-track-piece", "-webkit-scrollbar-thumb", "-webkit-scrollbar-corner",
    "-webkit-resizer"]

def knownElements : List String :=
  Simple.earlyElements ++ scrollbarElements ++
    ["cue", "cue-region", "marker", "grammar-error", "spelling-error", "view-transition",
      "picker-icon", "checkmark"]

def transitionElements : List String :=
  ["view-transition-group", "view-transition-image-pair", "view-transition-old",
    "view-transition-new"]

structure State where
  hasNesting : Bool := false
  isAfterElement : Bool := false
  isAfterUnknownElement : Bool := false
  isAfterScrollbar : Bool := false
  isAfterTransition : Bool := false
  isAfterPart : Bool := false
  isAfterSlot : Bool := false
  forbidsElements : Bool := false
  forbidsCombinators : Bool := false
  deriving Inhabited

namespace State

def isAfterAny (state : State) : Bool :=
  state.isAfterElement || state.isAfterPart || state.isAfterSlot

def allowsElements (state : State) : Bool :=
  !state.isAfterAny && !state.forbidsElements

end State

end SelectorReader

abbrev SelectorReader := StateT SelectorReader.State Reader

namespace SelectorReader

def rest : SelectorReader (List Piece) := (get : Reader (List Piece))

def skip (count : Nat) : SelectorReader Unit :=
  (modify (·.drop count) : Reader Unit)

def skipSpace : SelectorReader Unit :=
  (modify Piece.dropSpace : Reader Unit)

def failIf (condition : Bool) : SelectorReader Unit :=
  if condition then failure else pure ()

def isComment : Piece → Bool
  | .token .comment => true
  | _ => false

def all? {α : Type} (state : State) (content : List Piece) (reader : SelectorReader α) :
    Option (α × State) := do
  let (result, rest) ← (reader.run state).run (content.filter (!isComment ·))
  if (Piece.dropSpace rest).isEmpty then some result else none

def inside {α : Type} (change : State → State) (content : List Piece) (reader : SelectorReader α) :
    SelectorReader α := do
  match all? (change (← get)) content reader with
  | some (value, inner) =>
    modify fun state => { state with hasNesting := state.hasNesting || inner.hasNesting }
    return value
  | none => failure

def plain {α : Type} (content : List Piece) (reader : Reader α) : SelectorReader α :=
  inside id content (reader : Reader α)

def typePieces : List Piece → Option (List Simple × Nat)
  | .token (.ident a) :: .token (.delim '|') :: rest =>
    (local? rest).map fun (simple, count) => (.space (.named a) :: simple, count + 2)
  | .token (.delim '*') :: .token (.delim '|') :: rest =>
    (local? rest).map fun (simple, count) => (.space .any :: simple, count + 2)
  | .token (.delim '|') :: rest =>
    (local? rest).map fun (simple, count) => (.space .none :: simple, count + 1)
  | pieces => some ((local? pieces).getD ([], 0))
where
  local? : List Piece → Option (List Simple × Nat)
    | .token (.ident name) :: _ => some ([.element name], 1)
    | .token (.delim '*') :: _ => some ([.universal], 1)
    | _ => none

def typeSelector : SelectorReader (List Simple) := do
  match typePieces (← rest) with
  | some (simples, count) =>
    failIf (count != 0 && (← get).isAfterAny)
    skip count
    return simples
  | none => failure

def caselessAttributes : List String :=
  ["accept", "accept-charset", "align", "alink", "axis", "bgcolor", "charset", "checked", "clear",
    "codetype", "color", "compact", "declare", "defer", "dir", "direction", "disabled", "enctype",
    "face", "frame", "hreflang", "http-equiv", "lang", "language", "link", "media", "method",
    "multiple", "nohref", "noresize", "noshade", "nowrap", "readonly", "rel", "rev", "rules",
    "scope", "scrolling", "selected", "shape", "target", "text", "type", "valign", "valuetype",
    "vlink"]

def attributeName : Reader (String × String × Bool) := do
  let next : Reader String := do
    match ← Reader.pieceOrSpace with
    | .token (.ident name) => return name
    | _ => failure
  match Piece.dropSpace (← get) with
  | .token (.ident space) :: .token (.delim '|') :: rest =>
    set rest
    return (Token.writeIdent space ++ "|", ← next, true)
  | .token (.delim '*') :: .token (.delim '|') :: rest =>
    set rest
    return ("*|", ← next, true)
  | .token (.delim '|') :: rest =>
    set rest
    return ("", ← next, false)
  | pieces =>
    set pieces
    return ("", ← next, false)

def attributeOperator : Reader String := do
  match ← Reader.token with
  | .delim '=' => return "="
  | .signs text => if text.endsWith "=" then return text else failure
  | _ => failure

def shortValue (value : String) : String :=
  let name := Token.writeIdent value
  let quoted := Token.writeString value
  if !name.isEmpty && name.utf8ByteSize < quoted.utf8ByteSize then name else quoted

def attributeFlag : Reader String := do
  if ← Reader.isFinished then return "" else return " " ++ (← Reader.oneOf ["i", "s"])

def attributeTest : Reader Simple := do
  let (space, name, hasSpace) ← attributeName
  let written := space ++ Token.writeIdent name
  if ← Reader.isFinished then return Simple.attribute ⟨"[" ++ written ++ "]", false⟩
  let operator ← attributeOperator
  let value ← Reader.identOrString
  let flag ← attributeFlag
  let isPlain := !hasSpace && name == name.toLower
  let shown := if isPlain then shortValue value else Token.writeString value
  let mayIgnoreCase := !hasSpace && caselessAttributes.contains name.toLower
  return Simple.attribute
    ⟨"[" ++ written ++ operator ++ shown ++ flag ++ "]", !flag.isEmpty || mayIgnoreCase⟩

def writeText (content : List Piece) : String :=
  String.join ((flatten (Piece.depthOfAll content + 1) content).map Token.write)
where
  flatten : Nat → List Piece → List Token
    | 0, _ => []
    | depth + 1, pieces => pieces.flatMap fun
      | .token t => [t]
      | .block c inner => .opening c :: flatten depth inner ++ [.closing (Piece.closerOf c)]
      | .function name inner => .function name :: flatten depth inner ++ [.closing ')']

def namedClass (name : String) : SelectorReader Simple := do
  let state ← get
  let lower := name.toLower
  failIf state.isAfterSlot
  if !state.isAfterAny then
    if let some rank := firstRanks.lookup lower then return .ranked rank ⟨0, 1⟩ none
  if state.isAfterTransition && lower == "only-child" then return .ranked .onlyChild ⟨0, 1⟩ none
  let isScrollbar := scrollbarClasses.contains lower
  if state.isAfterScrollbar then
    failIf (!isScrollbar && !(["enabled", "disabled", "hover", "active"].contains lower))
  else if state.isAfterElement then failIf (!actionClasses.contains lower)
  else failIf isScrollbar
  match Simple.vendorClasses.lookup lower with
  | some (spelling, name) => return .pseudoClass name [spelling] none
  | none =>
    let isKnown := isScrollbar || knownClasses.contains lower
    return .pseudoClass (if isKnown then lower else name) [] none

def groupNames : List (String × String) :=
  [("is", "is"), ("where", "where"), ("-webkit-any", "-webkit-any"), ("-moz-any", "-moz-any")]

abbrev ListReader := Bool → Bool → SelectorReader (List Selector)

def forbidElements (state : State) : State := { state with forbidsElements := true }

def forbidCombinators (state : State) : State :=
  { state with forbidsElements := true, forbidsCombinators := true }

def single (change : State → State) (list : ListReader) (content : List Piece) :
    SelectorReader (List Selector) := do
  let selectors ← inside change content (list false false)
  failIf (selectors.length != 1)
  return selectors

def functionClass (list : ListReader) (name : String) (content : List Piece) :
    SelectorReader Simple := do
  let state ← get
  let lower := name.toLower
  let inner := (list · · )
  match Rank.all.find? fun rank => rank.name == lower && !lower.startsWith "only" with
  | some rank =>
    failIf state.isAfterAny
    let allowsList := rank == .child || rank == .lastChild
    inside forbidElements content do
      let formula ← (Formula.read : Reader Formula)
      if allowsList && (← (Reader.succeeds (Reader.word "of") : Reader Bool)) then
        return .ranked rank formula (some (← inner true false))
      else return .ranked rank formula none
  | none =>
    if let some written := groupNames.lookup lower then
      return .among written (← inside forbidElements content (inner true false))
    match lower with
    | "has" => return .among lower (← inside id content (inner true true))
    | "not" => return .among lower (← inside forbidElements content (inner false false))
    | "host" =>
      failIf state.isAfterAny
      return .among lower (← single forbidCombinators list content)
    | _ =>
      failIf state.isAfterAny
      match lower with
      | "lang" =>
        return .languages (← plain content (Reader.commaSeparated Reader.identOrString))
      | "dir" => return .direction (← plain content (Reader.oneOf ["ltr", "rtl"]))
      | "active-view-transition-type" =>
        let names ← plain content (Reader.commaSeparated Reader.ident)
        return .pseudoClass lower [] (some (String.intercalate "," (names.map Token.writeIdent)))
      | _ => return .pseudoClass name [] (some (writeText content))

def element (list : ListReader) (name : String) (content : Option (List Piece)) :
    SelectorReader (List Simple) := do
  failIf (!(← get).allowsElements)
  let lower := name.toLower
  match content with
  | none =>
    let known (simple : Simple) : SelectorReader (List Simple) := do
      modify fun state => { state with
        isAfterElement := true
        isAfterScrollbar := scrollbarElements.contains lower }
      return [.combinator .pseudoElement, simple]
    match Simple.vendorElements.lookup lower with
    | some (spelling, name) => known (.pseudoElement name [spelling] none)
    | none =>
      if knownElements.contains lower then known (.pseudoElement lower [] none)
      else
        modify fun state => { state with isAfterUnknownElement := true }
        return [.pseudoElement name [] none]
  | some content =>
    match lower with
    | "part" =>
      let names ← plain content (Reader.many1 Reader.ident)
      modify fun state => { state with isAfterPart := true }
      let written := String.intercalate " " (names.map Token.writeIdent)
      return [.combinator .part, .pseudoElement lower [] (some written)]
    | "slotted" =>
      let selectors ← single forbidCombinators list content
      modify fun state => { state with isAfterSlot := true }
      return [.combinator .slot, .among "slotted" selectors]
    | "cue" | "cue-region" =>
      let selectors ← single id list content
      modify fun state => { state with isAfterElement := true }
      return [.combinator .pseudoElement, .among lower selectors]
    | _ =>
      if transitionElements.contains lower then
        modify fun state => { state with isAfterElement := true, isAfterTransition := true }
        return [.combinator .pseudoElement, .pseudoElement lower [] (some (writeText content))]
      else
        modify fun state => { state with isAfterUnknownElement := true }
        return [.pseudoElement name [] (some (writeText content))]

def simple? (list : ListReader) : SelectorReader (Option (List Simple)) := do
  let state ← get
  match ← rest with
  | .token (.hash name true) :: _ =>
    failIf state.isAfterAny
    skip 1
    return some [.id name]
  | .token (.delim '.') :: .token (.ident name) :: _ =>
    failIf state.isAfterAny
    skip 2
    return some [.className name]
  | .token (.delim '.') :: _ => failure
  | .block '[' content :: _ =>
    failIf state.isAfterAny
    skip 1
    return some [← plain content attributeTest]
  | .token (.delim '&') :: _ =>
    skip 1
    modify fun state => { state with hasNesting := true }
    return some [.nesting]
  | .token .colon :: .token .colon :: .token (.ident name) :: _ =>
    skip 3
    return some (← element list name none)
  | .token .colon :: .token .colon :: .function name content :: _ =>
    skip 3
    return some (← element list name (some content))
  | .token .colon :: .token (.ident name) :: _ =>
    skip 2
    if Simple.earlyElements.contains name.toLower then return some (← element list name none)
    return some [← namedClass name]
  | .token .colon :: .function name content :: _ =>
    skip 2
    if Simple.earlyElements.contains name.toLower then
      return some (← element list name (some content))
    return some [← functionClass list name content]
  | .token .colon :: _ => failure
  | _ => return none

def simples (list : ListReader) : Nat → SelectorReader (List Simple)
  | 0 => return []
  | bound + 1 => do
    match ← simple? list with
    | some parts => return parts ++ (← simples list bound)
    | none => return []

def compound (list : ListReader) : SelectorReader Selector := do
  skipSpace
  let nesting ← match ← rest with
    | .token (.delim '&') :: _ => do
      skip 1
      modify fun state => { state with hasNesting := true }
      pure [Simple.nesting]
    | _ => pure []
  let type ← typeSelector
  let parts := nesting ++ type ++ (← simples list ((← rest).length + 1))
  failIf parts.isEmpty
  return parts

def combinator? : SelectorReader (Option Combinator) := do
  let pieces ← rest
  let after := Piece.dropSpace pieces
  match after with
  | [] => return none
  | .token (.delim c) :: _ =>
    match Combinator.ofDelim? c with
    | some combinator =>
      (set (after.drop 1) : Reader Unit)
      return some combinator
    | none => pure ()
  | _ => pure ()
  if after.length < pieces.length then
    skipSpace
    return some .descendant
  else return none

def compounds (list : ListReader) : Nat → SelectorReader Selector
  | 0 => failure
  | bound + 1 => do
    let first ← compound list
    if (← get).isAfterAny then return first
    match ← combinator? with
    | some combinator =>
      failIf (← get).forbidsCombinators
      return first ++ .combinator combinator :: (← compounds list bound)
    | none => return first

def selector (list : ListReader) : SelectorReader Selector := do
  compounds list ((← rest).length + 1)

def leading? : SelectorReader (Option Combinator) := do
  match Piece.dropSpace (← rest) with
  | .token (.delim c) :: more =>
    match Combinator.ofDelim? c with
    | some combinator =>
      (set more : Reader Unit)
      return some combinator
    | none => return none
  | _ => return none

def relative (list : ListReader) : SelectorReader Selector := do
  match ← leading? with
  | some combinator =>
    return .pseudoClass "scope" [] none :: .combinator combinator :: (← selector list)
  | none => selector list

def list : Nat → ListReader
  | 0, _, _ => failure
  | depth + 1, isForgiving, mayBeRelative => do
    let state ← get
    let reader := if mayBeRelative then relative (list depth) else selector (list depth)
    let read (part : List Piece) : Option (Selector × State) := all? state part reader
    let results := (Piece.splitByCommas (← rest)).map read
    failIf (!isForgiving && results.any Option.isNone)
    let found := results.reduceOption
    (set ([] : List Piece) : Reader Unit)
    modify fun state => { state with
      hasNesting := state.hasNesting || found.any (·.2.hasNesting) }
    return found.map Prod.fst

def nested (list : ListReader) : SelectorReader Selector := do
  match ← leading? with
  | some combinator => return .nesting :: .combinator combinator :: (← selector list)
  | none =>
    let found ← selector list
    if (← get).hasNesting then return found
    else return .nesting :: .combinator .descendant :: found

end SelectorReader

namespace Selector

def read? (reader : SelectorReader.ListReader → SelectorReader Selector) (pieces : List Piece) :
    Option (List Selector) :=
  let list := SelectorReader.list (Piece.depthOfAll pieces + 1)
  (Piece.splitByCommas pieces).mapM fun part =>
    (SelectorReader.all? {} part (reader list)).map Prod.fst

def ofPieces? (pieces : List Piece) : Option (List Selector) :=
  read? SelectorReader.selector pieces

def nestedOfPieces? (pieces : List Piece) : Option (List Selector) :=
  read? SelectorReader.nested pieces

def containingOfPieces? (pieces : List Piece) : Option (List Selector) :=
  read? (fun list => do
    let found ← SelectorReader.selector list
    SelectorReader.failIf (!(← get).hasNesting)
    return found) pieces

def forgivingOfPieces (pieces : List Piece) : List Selector :=
  let list := SelectorReader.list (Piece.depthOfAll pieces + 1)
  (Piece.splitByCommas pieces).filterMap fun part =>
    (SelectorReader.all? {} part (SelectorReader.selector list)).map Prod.fst

end Selector

end ScopedStyles.Stylesheet
