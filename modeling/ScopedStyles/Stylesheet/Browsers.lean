namespace ScopedStyles.Stylesheet

inductive Generation where
  | recent
  | old
  deriving DecidableEq, Repr, Inhabited

inductive ColorStyle where
  | lab
  | oklab
  | inSpace
  | displayP3
  | lightDark
  | spaced
  deriving DecidableEq, Repr, Inhabited

structure Browsers where
  generation : Generation
  colorStyles : List ColorStyle := []
  deriving DecidableEq, Repr, Inhabited

namespace Browsers

def recent : Browsers := { generation := .recent }

def old : Browsers := { generation := .old }

def areRecent (browsers : Browsers) : Bool :=
  browsers.generation == .recent

def areOld (browsers : Browsers) : Bool :=
  browsers.generation == .old

def knows (browsers : Browsers) (style : ColorStyle) : Bool :=
  browsers.colorStyles.contains style

def knowing (browsers : Browsers) (styles : List ColorStyle) : Browsers :=
  { browsers with colorStyles := browsers.colorStyles ++ styles }

end Browsers

inductive Spelling where
  | webkit
  | moz
  | ms
  | opera
  | plain
  deriving DecidableEq, Repr, Inhabited

namespace Spelling

def mark : Spelling → String
  | webkit => "-webkit-"
  | moz => "-moz-"
  | ms => "-ms-"
  | opera => "-o-"
  | plain => ""

def all : List Spelling := [webkit, moz, ms, opera, plain]

def split (name : String) : Spelling × String :=
  match [webkit, moz, ms, opera].find? fun vendor => name.startsWith vendor.mark with
  | some vendor => (vendor, (name.drop vendor.mark.length).toString)
  | none => (plain, name)

def union (a b : List Spelling) : List Spelling :=
  all.filter fun spelling => a.contains spelling || b.contains spelling

end Spelling

end ScopedStyles.Stylesheet
