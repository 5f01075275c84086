namespace ScopedStyles.Text

def digitsOf (digits : List Char) : Nat :=
  digits.foldl (fun value c => value * 10 + (c.toNat - '0'.toNat)) 0

def readIndex? (text : List Char) : Option Nat :=
  let digits := (dropPlus text)
  if digits.isEmpty || !digits.all Char.isDigit then none
  else if digitsOf digits < Nat.pow 2 64 then some (digitsOf digits) else none
where
  dropPlus : List Char → List Char
    | '+' :: rest => rest
    | text => text

end ScopedStyles.Text
