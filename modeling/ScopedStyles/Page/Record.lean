namespace ScopedStyles

theorem lookup_entry {β : Type} (key name : String) (value : β) (rest : List (String × β)) :
    List.lookup name ((key, value) :: rest) =
      if name = key then some value else rest.lookup name := by
  by_cases h : name = key
  · simp [h]
  · simp [List.lookup_cons, beq_false_of_ne h, h]

structure RenderRecord where
  counts : List (String × UInt32) := []
  deriving Repr, Inhabited

namespace RenderRecord

def contains (record : RenderRecord) (className : String) : Bool :=
  (record.counts.lookup className).isSome

def count (record : RenderRecord) (className : String) : UInt32 :=
  (record.counts.lookup className).getD 0

def bump (className : String) : List (String × UInt32) → List (String × UInt32)
  | [] => [(className, 1)]
  | (name, n) :: rest =>
    if name = className then (name, n + 1) :: rest else (name, n) :: bump className rest

def mark (record : RenderRecord) (className : String) : RenderRecord :=
  { record with counts := bump className record.counts }

def size (record : RenderRecord) : Nat :=
  record.counts.length

def isEmpty (record : RenderRecord) : Bool :=
  record.counts.isEmpty

theorem lookup_bump (className name : String) (counts : List (String × UInt32)) :
    (bump className counts).lookup name =
      if name = className then some ((counts.lookup name).getD 0 + 1) else counts.lookup name := by
  induction counts with
  | nil => simp only [bump, lookup_entry, List.lookup_nil, Option.getD_none, UInt32.zero_add]
  | cons entry rest ih =>
    obtain ⟨key, n⟩ := entry
    rw [bump]
    split
    · rename_i hkey
      subst hkey
      simp only [lookup_entry]
      split <;> rfl
    · rename_i hkey
      simp only [lookup_entry, ih]
      by_cases h : name = key
      · simp [h, hkey]
      · simp only [h, ↓reduceIte]

@[simp] theorem contains_mark (record : RenderRecord) (className name : String) :
    (record.mark className).contains name = (record.contains name || name == className) := by
  by_cases h : name = className <;> simp [mark, contains, lookup_bump, h]

@[simp] theorem count_mark (record : RenderRecord) (className name : String) :
    (record.mark className).count name =
      if name = className then record.count name + 1 else record.count name := by
  by_cases h : name = className <;> simp [mark, count, lookup_bump, h]

def same (a b : RenderRecord) : Bool :=
  a.size == b.size && a.counts.all fun (name, n) => b.counts.lookup name == some n

end RenderRecord

end ScopedStyles
