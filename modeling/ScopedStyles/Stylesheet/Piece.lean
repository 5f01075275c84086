import ScopedStyles.Stylesheet.Token

namespace ScopedStyles.Stylesheet

inductive Piece where
  | token (token : Token)
  | block (bracket : Char) (content : List Piece)
  | function (name : String) (content : List Piece)
  deriving Inhabited

namespace Piece

structure Frame where
  function? : Option String
  bracket : Char
  before : List Piece

structure Grouping where
  frames : List Frame := []
  pieces : List Piece := []

def closerOf : Char → Char
  | '(' => ')'
  | '[' => ']'
  | _ => '\x7d'

namespace Grouping

def close (frame : Frame) (content : List Piece) : Piece :=
  match frame.function? with
  | some name => .function name content.reverse
  | none => .block frame.bracket content.reverse

def add (grouping : Grouping) (token : Token) : Grouping :=
  let plain : Grouping := { grouping with pieces := .token token :: grouping.pieces }
  match token with
  | .opening c => ⟨⟨none, c, grouping.pieces⟩ :: grouping.frames, []⟩
  | .function name => ⟨⟨some name, '(', grouping.pieces⟩ :: grouping.frames, []⟩
  | .closing c =>
    match grouping.frames with
    | frame :: frames =>
      if closerOf frame.bracket = c then ⟨frames, close frame grouping.pieces :: frame.before⟩
      else plain
    | [] => plain
  | _ => plain

def finish : List Frame → List Piece → List Piece
  | [], pieces => pieces.reverse
  | frame :: frames, pieces => finish frames (close frame pieces :: frame.before)

end Grouping

def ofTokens (tokens : List Token) : List Piece :=
  let grouping := tokens.foldl Grouping.add {}
  Grouping.finish grouping.frames grouping.pieces

def ofText (text : String) : List Piece :=
  ofTokens (Token.ofText text)

def isSpace : Piece → Bool
  | token (.space _) => true
  | token .comment => true
  | _ => false

def isDelim (c : Char) : Piece → Bool
  | token (.delim d) => d == c
  | _ => false

def isComma : Piece → Bool
  | token .comma => true
  | _ => false

def isSemicolon : Piece → Bool
  | token .semicolon => true
  | _ => false

def isBrace : Piece → Bool
  | block '\x7b' _ => true
  | _ => false

def dropSpace (pieces : List Piece) : List Piece :=
  pieces.dropWhile isSpace

def splitBy (isSeparator : Piece → Bool) : List Piece → List (List Piece)
  | [] => [[]]
  | piece :: rest =>
    if isSeparator piece then [] :: splitBy isSeparator rest
    else
      match splitBy isSeparator rest with
      | part :: parts => (piece :: part) :: parts
      | [] => [[piece]]

def splitByCommas (pieces : List Piece) : List (List Piece) :=
  splitBy isComma pieces

mutual

def depth : Piece → Nat
  | token _ => 0
  | block _ content => depthOfAll content + 1
  | function _ content => depthOfAll content + 1

def depthOfAll : List Piece → Nat
  | [] => 0
  | piece :: rest => Nat.max (depth piece) (depthOfAll rest)

end

end Piece

end ScopedStyles.Stylesheet
