namespace ScopedStyles.Text

def inRunsBetween (runs : Array (Nat × Nat)) (code : Nat) : Nat → Nat → Nat → Bool
  | 0, _, _ => false
  | fuel + 1, low, high =>
    if low < high then
      let middle := (low + high) / 2
      match runs[middle]? with
      | none => false
      | some (first, last) =>
        if code < first then inRunsBetween runs code fuel low middle
        else if last < code then inRunsBetween runs code fuel (middle + 1) high
        else true
    else false

def inRuns (runs : Array (Nat × Nat)) (c : Char) : Bool :=
  inRunsBetween runs c.toNat (runs.size + 1) 0 runs.size

end ScopedStyles.Text
