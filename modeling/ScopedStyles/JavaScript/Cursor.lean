import ScopedStyles.Text.Blank

namespace ScopedStyles.JavaScript

structure Cursor where
  rest : List Char
  offset : Nat
  deriving Repr, Inhabited

namespace Cursor

def ofText (text : List Char) : Cursor := ⟨text, 0⟩

def next (cursor : Cursor) : Cursor :=
  match cursor.rest with
  | [] => cursor
  | _ :: rest => ⟨rest, cursor.offset + 1⟩

def skip (cursor : Cursor) (count : Nat) : Cursor :=
  ⟨cursor.rest.drop count, cursor.offset + count⟩

def moveTo (cursor : Cursor) (rest : List Char) : Cursor :=
  ⟨rest, cursor.offset + (cursor.rest.length - rest.length)⟩

def textUpTo (cursor later : Cursor) : String :=
  String.ofList (cursor.rest.take (later.offset - cursor.offset))

def startsWith (cursor : Cursor) (text : String) : Bool :=
  text.toList.isPrefixOf cursor.rest

end Cursor

def isLineEnd (c : Char) : Bool :=
  c == '\n' || c == '\r' || c.toNat == 0x2028 || c.toNat == 0x2029

def isSpace (c : Char) : Bool :=
  c.toNat == 0xfeff || (Text.isBlank c && !isLineEnd c)

structure Gap where
  next : Cursor
  hasLineEnd : Bool := false
  hasLegacyComment : Bool := false
  hasConflictMarker : Bool := false
  isUnterminated : Bool := false

namespace Gap

def skipLine (cursor : Cursor) : Cursor :=
  cursor.moveTo (cursor.rest.dropWhile (!isLineEnd ·))

def skipBlock : List Char → Bool → List Char × Bool × Bool
  | [], lineEnd => ([], lineEnd, false)
  | '*' :: '/' :: rest, lineEnd => (rest, lineEnd, true)
  | c :: rest, lineEnd => skipBlock rest (lineEnd || isLineEnd c)

def isConflictMarker (cursor : Cursor) : Bool :=
  ["<<<<<<< ", "=======", ">>>>>>> "].any cursor.startsWith

def skipFrom : Nat → Gap → Gap
  | 0, gap => gap
  | fuel + 1, gap =>
    if gap.hasLineEnd && isConflictMarker gap.next then
      skipFrom fuel { gap with next := skipLine gap.next, hasConflictMarker := true }
    else match gap.next.rest with
    | '/' :: '/' :: _ => skipFrom fuel { gap with next := skipLine gap.next }
    | '/' :: '*' :: rest =>
      let (rest, lineEnd, found) := skipBlock rest false
      skipFrom fuel { gap with
        next := gap.next.moveTo rest
        hasLineEnd := gap.hasLineEnd || lineEnd
        isUnterminated := gap.isUnterminated || !found }
    | '<' :: '!' :: '-' :: '-' :: _ =>
      skipFrom fuel { gap with next := skipLine gap.next, hasLegacyComment := true }
    | '-' :: '-' :: '>' :: _ =>
      if gap.hasLineEnd then
        skipFrom fuel { gap with next := skipLine gap.next, hasLegacyComment := true }
      else gap
    | c :: _ =>
      if isLineEnd c then skipFrom fuel { gap with next := gap.next.next, hasLineEnd := true }
      else if isSpace c then skipFrom fuel { gap with next := gap.next.next }
      else gap
    | [] => gap

def skip (cursor : Cursor) : Gap :=
  skipFrom (cursor.rest.length + 1) { next := cursor, hasLineEnd := cursor.offset == 0 }

end Gap

end ScopedStyles.JavaScript
