import ScopedStyles.Stylesheet.Selector.Counting

namespace ScopedStyles.Stylesheet

namespace Simple

def spellingFor (vendor : Option Spelling) (spellings : List Spelling) : Spelling :=
  match vendor, spellings with
  | some spelling, _ => if spellings.contains spelling then spelling else .plain
  | none, [spelling] => spelling
  | none, _ => .plain

def stateName (spelling : Spelling) (name : String) : String :=
  match spelling, name with
  | .webkit, "fullscreen" | .moz, "fullscreen" => spelling.mark ++ "full-screen"
  | _, _ => spelling.mark ++ name

def elementName (spelling : Spelling) (name : String) : String :=
  match spelling, name with
  | .webkit, "placeholder" | .ms, "placeholder" => spelling.mark ++ "input-placeholder"
  | .webkit, "file-selector-button" => spelling.mark ++ "file-upload-button"
  | .ms, "file-selector-button" => spelling.mark ++ "browse"
  | _, _ => spelling.mark ++ name

def writeArgument (argument : Option String) : String :=
  (argument.map fun text => "(" ++ text ++ ")").getD ""

def groupName (vendor : Option Spelling) (name : String) : String :=
  let own : Option Spelling :=
    match name with
    | "-webkit-any" => some .webkit
    | "-moz-any" => some .moz
    | _ => none
  if name == "slotted" || name == "cue" || name == "cue-region" then "::" ++ name
  else if name == "is" || own.isSome then
    match vendor, own with
    | some .webkit, _ | none, some .webkit => ":-webkit-any"
    | some .moz, _ | none, some .moz => ":-moz-any"
    | _, _ => ":is"
  else ":" ++ name

def writeSpace : NameSpace → String
  | .named name => Token.writeIdent name ++ "|"
  | .any => "*|"
  | .none => "|"

end Simple

namespace Selector

abbrev WrittenPart := Simple × String

def joinTexts (parts : List WrittenPart) : String :=
  String.join (parts.map Prod.snd)

def compounds : List WrittenPart → List (List WrittenPart)
  | [] => [[]]
  | (.combinator _, _) :: rest => [] :: compounds rest
  | part :: rest =>
    match compounds rest with
    | compound :: more => (part :: compound) :: more
    | [] => [[part]]

def combinators : List WrittenPart → List Combinator
  | [] => []
  | (.combinator combinator, _) :: rest => combinator :: combinators rest
  | _ :: rest => combinators rest

def isUniversal : Simple → Bool
  | .universal => true
  | _ => false

def withoutUniversal (hasSpace : Bool) (parts : List WrittenPart) : List WrittenPart :=
  if hasSpace then parts else parts.filter (!isUniversal ·.1)

def leadsInside : Option Combinator → Bool
  | some .pseudoElement | some .slot => true
  | _ => false

def writeCompound (around : Bool → String) (next : Option Combinator) (isFirst : Bool)
    (compound : List WrittenPart) : String :=
  let (hasNesting, own) :=
    match compound with
    | (.nesting, _) :: rest => if isFirst then (true, rest) else (false, compound)
    | _ => (false, compound)
  let (space, rest) :=
    match own with
    | (.space s, text) :: rest => ([(Simple.space s, text)], rest)
    | _ => ([], own)
  let hasSpace := !space.isEmpty
  match rest with
  | [(.universal, text)] =>
    if leadsInside next then
      (if hasNesting then joinTexts own ++ around false
        else joinTexts (withoutUniversal hasSpace own))
    else joinTexts space ++ text ++ (if hasNesting then around false else "")
  | _ =>
    if !hasNesting then joinTexts (withoutUniversal hasSpace own)
    else
      match rest with
      | (type, text) :: more =>
        if type.isType then
          joinTexts space ++ text ++ around false ++ joinTexts (withoutUniversal hasSpace more)
        else around true ++ joinTexts (withoutUniversal hasSpace own)
      | [] => around true ++ joinTexts space

def writeCompounds (around : Bool → String) :
    Bool → Bool → List Combinator → List (List WrittenPart) → String
  | _, _, _, [] => ""
  | isRelative, isFirst, combinators, compound :: rest =>
    let writeNext (combinators : List Combinator) :=
      (combinators.head?.map Combinator.write).getD ""
    let skips := isRelative && (compound.head?.map (·.1.isScope)).getD false
    let (skipped, compound, combinators) :=
      if skips then (writeNext combinators, compound.drop 1, combinators.drop 1)
      else ("", compound, combinators)
    let staysRelative := isRelative && !skips
    if compound.isEmpty then
      skipped ++ writeCompounds around staysRelative isFirst combinators rest
    else
      skipped ++ writeCompound around combinators.head? isFirst compound ++
        writeNext combinators ++
        writeCompounds around staysRelative false (combinators.drop 1) rest

def writeParts (around : Bool → String) (isRelative : Bool) (parts : List WrittenPart) : String :=
  writeCompounds around isRelative true (combinators parts) (compounds parts)

mutual

def writeSimple (vendor : Option Spelling) (around : Bool → String) : Simple → String
  | .universal => "*"
  | .element name => Token.writeIdent name
  | .space space => Simple.writeSpace space
  | .id name => "#" ++ Token.writeIdent name
  | .className name => "." ++ Token.writeIdent name
  | .attribute test => test.text
  | .nesting => around false
  | .combinator combinator => combinator.write
  | .ranked rank formula among =>
    match among with
    | none =>
      if formula.isWritten then ":" ++ rank.name ++ "(" ++ formula.write ++ ")"
      else ":" ++ rank.firstName
    | some selectors =>
      ":" ++ rank.name ++ "(" ++ formula.write ++ " of " ++
        String.intercalate "," (writeLists vendor around false selectors) ++ ")"
  | .languages names => ":lang(" ++ String.intercalate "," (names.map Token.writeIdent) ++ ")"
  | .direction name => ":dir(" ++ name ++ ")"
  | .pseudoClass name spellings argument =>
    ":" ++ Simple.stateName (Simple.spellingFor vendor spellings) name ++
      Simple.writeArgument argument
  | .pseudoElement name spellings argument =>
    (if Simple.earlyElements.contains name then ":" else "::") ++
      Simple.elementName (Simple.spellingFor vendor spellings) name ++
      Simple.writeArgument argument
  | .among name selectors =>
    let texts := writeLists vendor around (name == "has") selectors
    if name == "is" && isLone selectors then String.join texts
    else Simple.groupName vendor name ++ "(" ++ String.intercalate "," texts ++ ")"

def writtenParts (vendor : Option Spelling) (around : Bool → String) :
    List Simple → List WrittenPart
  | [] => []
  | simple :: rest => (simple, writeSimple vendor around simple) :: writtenParts vendor around rest

def writeLists (vendor : Option Spelling) (around : Bool → String) (isRelative : Bool) :
    List (List Simple) → List String
  | [] => []
  | selector :: rest =>
    writeParts around isRelative (writtenParts vendor around selector) ::
      writeLists vendor around isRelative rest

end

def writeNesting (vendor : Option Spelling) : List (List Selector) → Bool → String
  | [], _ => ":scope"
  | selectors :: outer, isLeading =>
    let texts := writeLists vendor (writeNesting vendor outer) false selectors
    if (isLeading && selectors.length == 1) || isLone selectors then String.join texts
    else ":is(" ++ String.intercalate "," texts ++ ")"

def writeAll (vendor : Option Spelling) (outer : List (List Selector))
    (selectors : List Selector) : String :=
  String.intercalate "," (writeLists vendor (writeNesting vendor outer) false selectors)

end Selector

end ScopedStyles.Stylesheet
