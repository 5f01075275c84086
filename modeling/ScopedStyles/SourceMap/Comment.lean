import ScopedStyles.Json
import ScopedStyles.Position
import ScopedStyles.SourceMap.Base64
import ScopedStyles.SourceMap.Vlq
import ScopedStyles.Text.Replace

namespace ScopedStyles.SourceMap

def opening : String :=
  "/*# sourceMappingURL=data:application/json;charset=utf-8;base64,"

def closing : String := " */"

def normalizeName (name : String) : String :=
  let slashed := name.toList.map fun c => if c = '\\' then '/' else c
  String.ofList ((Text.dropFront? "file://".toList slashed).getD slashed)

def segment? (position : Position) : Option (List Char) := do
  let line := if position.line = 0 then 0 else position.line - 1
  let lineDigits ← Vlq.encode? line.toInt64
  let columnDigits ← Vlq.encode? position.column.toInt64
  return Vlq.digits 0 ++ Vlq.digits 0 ++ lineDigits ++ columnDigits

theorem toNat_linesBefore (line : UInt64) :
    (if line = 0 then 0 else line - 1).toNat = line.toNat - 1 := by
  split
  · rename_i hzero
    rw [hzero]
    rfl
  · rename_i hne
    have hone : (1 : UInt64) ≤ line := by
      rw [UInt64.le_iff_toNat_le]
      exact Nat.pos_of_ne_zero fun hzero => hne (UInt64.toNat_inj.mp hzero)
    rw [UInt64.toNat_sub_of_le _ _ hone]
    rfl

theorem segment?_isSome (site : Site) : (segment? site.position).isSome = true := by
  have hline := Site.widened_lt site.line
  have hbefore := toNat_linesBefore site.position.line
  obtain ⟨line, hline⟩ := Option.isSome_iff_exists.mp
    (Vlq.encode?_isSome (hbefore ▸ Nat.lt_of_le_of_lt (Nat.sub_le ..) hline))
  obtain ⟨column, hcolumn⟩ := Option.isSome_iff_exists.mp
    (Vlq.encode?_isSome (Site.widened_lt site.column))
  have hcolumn : Vlq.encode? site.position.column.toInt64 = some column := hcolumn
  simp only [segment?, hline, hcolumn, Option.bind_eq_bind, Option.bind_some]
  rfl

def document (name : String) (content : Option String) (mappings : String) : String :=
  let quotedName := Json.quote name
  let contents := match content with
    | some content => ",\"sourcesContent\":[" ++ Json.quote content ++ "]"
    | none => ""
  "\x7b\"version\":3,\"sources\":[" ++ quotedName ++ "],\"names\":[],\"mappings\":" ++
    Json.quote mappings ++ ",\"file\":" ++ quotedName ++ contents ++ "\x7d"

def comment? (name : String) (content : Option String) (position : Position) : Option String :=
  if name.isEmpty then some ""
  else do
    let mappings ← segment? position
    let text := document (normalizeName name) content (String.ofList mappings)
    return opening ++ String.ofList (Base64.encode text.toUTF8.data.toList) ++ closing

theorem comment?_isSome (name : String) (content : Option String) (site : Site) :
    (comment? name content site.position).isSome = true := by
  unfold comment?
  split
  · rfl
  · obtain ⟨mappings, hmappings⟩ := Option.isSome_iff_exists.mp (segment?_isSome site)
    simp only [hmappings, Option.bind_eq_bind, Option.bind_some]
    rfl

def comment (name : String) (content : Option String) (site : Site) : String :=
  (comment? name content site.position).get (comment?_isSome name content site)

end ScopedStyles.SourceMap
