import ScopedStyles.Marker

namespace ScopedStyles.Template

def interleave (chunks : List String) (gap : Nat → String) : List String :=
  fill chunks 0
where
  fill : List String → Nat → List String
    | [], _ => []
    | [last], _ => [last]
    | chunk :: rest, index => chunk :: gap index :: fill rest (index + 1)

def tokens (chunks : List String) : List String :=
  interleave chunks Marker.token

def join : List String → List String → String
  | [], _ => ""
  | chunk :: _, [] => chunk
  | chunk :: chunks, value :: values => chunk ++ value ++ join chunks values

end ScopedStyles.Template
