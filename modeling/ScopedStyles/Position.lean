namespace ScopedStyles

-- Lines count from one and columns from zero.
structure Position where
  line : UInt64
  column : UInt64
  deriving DecidableEq, Repr

-- Where code stands in a file. No file is so long that 62 bits would not count its lines or the
-- columns of a line.
structure Site where
  line : BitVec 62
  column : BitVec 62
  deriving DecidableEq, Repr

namespace Site

def start : Site := ⟨1#62, 0#62⟩

-- One column for each 16-bit unit that a character is encoded in.
def width (c : Char) : BitVec 62 :=
  if c.toNat < 0x10000 then 1#62 else 2#62

def advance (site : Site) (c : Char) (next : Option Char) : Site :=
  if c = '\n' ∨ (c = '\r' ∧ next ≠ some '\n') then ⟨site.line + 1#62, 0#62⟩
  else ⟨site.line, site.column + width c⟩

def ofOffset : List Char → Nat → Site :=
  go start
where
  go (site : Site) : List Char → Nat → Site
    | _, 0 => site
    | [], _ + 1 => site
    | c :: rest, offset + 1 => go (site.advance c rest.head?) rest offset

def widened (count : BitVec 62) : UInt64 :=
  .ofBitVec (count.setWidth 64)

def position (site : Site) : Position :=
  ⟨widened site.line, widened site.column⟩

theorem toNat_widened (count : BitVec 62) : (widened count).toNat = count.toNat :=
  BitVec.toNat_setWidth_of_le (by decide)

theorem widened_lt (count : BitVec 62) : (widened count).toNat < 0x4000000000000000 := by
  rw [toNat_widened]
  exact count.isLt

end Site

end ScopedStyles
