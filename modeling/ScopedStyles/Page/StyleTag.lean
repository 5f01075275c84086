import ScopedStyles.Text.Replace

namespace ScopedStyles

structure StyleTag where
  css : String
  attributes : List (String × String) := []
  deriving DecidableEq, Repr

namespace StyleTag

def insert (key value : String) : List (String × String) → List (String × String)
  | [] => [(key, value)]
  | (name, old) :: rest =>
    if key = name then (key, value) :: rest
    else if key < name then (key, value) :: (name, old) :: rest
    else (name, old) :: insert key value rest

def withAttribute (tag : StyleTag) (key value : String) : StyleTag :=
  { tag with attributes := insert key value tag.attributes }

-- Only the quote is escaped, which is all that could end the attribute.
def attributeHtml (entry : String × String) : String :=
  " " ++ entry.1 ++ "=\"" ++ Text.replaceAll "\"" "&quot;" entry.2 ++ "\""

def html (tag : StyleTag) : String :=
  "<style" ++ String.join (tag.attributes.map attributeHtml) ++ ">" ++ tag.css ++ "</style>"

end StyleTag

end ScopedStyles
