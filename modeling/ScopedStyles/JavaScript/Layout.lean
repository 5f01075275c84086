namespace ScopedStyles.JavaScript

inductive Layout where
  | empty
  | text (value : String)
  | newline
  | indented (inner : Layout)
  | append (first second : Layout)
  deriving Inhabited, Repr

namespace Layout

instance : Append Layout := ⟨append⟩

instance : Coe String Layout := ⟨text⟩

def concat (parts : List Layout) : Layout :=
  parts.foldr append empty

def separated (separator : Layout) : List Layout → Layout
  | [] => empty
  | [part] => part
  | part :: parts => part ++ separator ++ separated separator parts

def commas (parts : List Layout) : Layout :=
  separated ", " parts

def lines (ending : Layout) (parts : List Layout) : Layout :=
  newline ++ indented (separated (ending ++ newline) parts) ++ newline

structure Printed where
  output : String := ""
  lineStart : Bool := true

def write (printed : Printed) (depth : Nat) (text : String) : Printed :=
  if text.isEmpty then printed
  else if printed.lineStart then
    ⟨printed.output ++ String.ofList (List.replicate (4 * depth) ' ') ++ text, false⟩
  else ⟨printed.output ++ text, false⟩

def print : Layout → Nat → Printed → Printed
  | empty, _, printed => printed
  | text value, depth, printed => write printed depth value
  | newline, _, printed =>
    if printed.lineStart then printed else ⟨printed.output ++ "\n", true⟩
  | indented inner, depth, printed => inner.print (depth + 1) printed
  | append first second, depth, printed => second.print depth (first.print depth printed)

def toText (layout : Layout) : String :=
  (layout.print 0 {}).output

end Layout

end ScopedStyles.JavaScript
