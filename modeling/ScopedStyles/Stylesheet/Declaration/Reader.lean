import ScopedStyles.Stylesheet.Property

namespace ScopedStyles.Stylesheet

structure RankedDeclaration where
  declaration : Declaration
  isImportant : Bool
  deriving BEq, Inhabited

namespace Declaration

def commonWords : List String := ["initial", "inherit", "unset", "revert", "revert-layer"]

def readAllSetting : Reader Setting :=
  Setting.ofValue <$> Reader.keywordOf commonWords

def readRaw? (value : List Piece) : Option Setting :=
  Setting.raw <$> Raw.ofPieces? value

def ofValue? (name : String) (value : List Piece) : Option Declaration :=
  match PropertyName.ofText? name with
  | some ("all", _) => Declaration.plain "all" <$> Reader.readAll? readAllSetting value
  | some (name, spelling) => do
    let setting ← match Reader.readAll? (Property.read name spelling) value with
      | some setting => some setting
      | none => readRaw? value
    return ⟨name, [spelling], setting⟩
  | none => Declaration.plain name <$> readRaw? value

def importance : Reader Bool :=
  (Reader.delim '!' *> Reader.word "important" *> pure true) <|> pure false

def ofPieces? (name : String) (pieces : List Piece) : Option RankedDeclaration := do
  let ((), pieces) ← Reader.colon.run pieces
  let endsValue (piece : Piece) : Bool :=
    piece.isDelim '!' || (piece.isBrace && !name.startsWith "--")
  let declaration ← ofValue? name (pieces.takeWhile (!endsValue ·))
  let isImportant ← Reader.readAll? importance (pieces.dropWhile (!endsValue ·))
  return ⟨declaration, isImportant⟩

end Declaration

end ScopedStyles.Stylesheet
