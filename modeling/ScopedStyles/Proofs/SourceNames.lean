import ScopedStyles.Proofs.CommentContents

namespace ScopedStyles.SourceMap

def slashed (name : String) : List Char :=
  name.toList.map fun c => if c = '\\' then '/' else c

def scheme : List Char := "file://".toList

def bundled : List Char := "[project]/".toList

variable {name : String} {content : Option String} {position : Position} {comment : String}

theorem normalizeName_cases (name : String) :
    (∃ path, slashed name = scheme ++ path ∧ (normalizeName name).toList = path) ∨
      ¬ scheme <+: slashed name ∧ (normalizeName name).toList = slashed name := by
  have hname : (normalizeName name).toList =
      (Text.dropFront? scheme (slashed name)).getD (slashed name) := String.toList_ofList
  cases hfront : Text.dropFront? scheme (slashed name) with
  | some path =>
    rw [hfront] at hname
    exact .inl ⟨path, (Text.dropFront?_eq_some_iff.mp hfront).symm, hname⟩
  | none =>
    rw [hfront] at hname
    refine .inr ⟨fun ⟨path, hpath⟩ => ?_, hname⟩
    cases hfront.symm.trans (Text.dropFront?_eq_some_iff.mpr hpath)

theorem not_mem_slashed (name : String) : '\\' ∉ slashed name := by
  intro hmem
  obtain ⟨c, -, hc⟩ := List.mem_map.mp hmem
  split at hc
  · cases hc
  · rename_i hne
    exact hne hc

theorem not_mem_normalizeName (name : String) : '\\' ∉ (normalizeName name).toList := by
  have hslashed := not_mem_slashed name
  rcases normalizeName_cases name with ⟨path, hpath, hname⟩ | ⟨-, hname⟩
  · rw [hname]
    rw [hpath] at hslashed
    exact fun hmem => hslashed (List.mem_append_right scheme hmem)
  · rwa [hname]

theorem normalizeName_eq_empty_iff (hname : name ≠ "") :
    normalizeName name = "" ↔ slashed name = scheme := by
  rw [← String.toList_inj, String.toList_empty]
  rcases normalizeName_cases name with ⟨path, hpath, heq⟩ | ⟨hfront, heq⟩
  · rw [heq, hpath, List.append_right_eq_self]
  · rw [heq]
    constructor
    · intro hempty
      exact absurd (by simpa [slashed] using hempty) hname
    · intro hscheme
      exact absurd (hscheme ▸ List.prefix_refl scheme) hfront

theorem scheme_prefix_normalizeName_iff (name : String) :
    scheme <+: (normalizeName name).toList ↔ scheme ++ scheme <+: slashed name := by
  rcases normalizeName_cases name with ⟨path, hpath, heq⟩ | ⟨hfront, heq⟩
  · rw [heq, hpath, List.prefix_append_right_inj]
  · rw [heq]
    exact iff_of_false hfront fun htwice => hfront ((List.prefix_append scheme scheme).trans htwice)

theorem bundled_prefix_normalizeName_iff (name : String) :
    bundled <+: (normalizeName name).toList ↔
      bundled <+: slashed name ∨ scheme ++ bundled <+: slashed name := by
  rcases normalizeName_cases name with ⟨path, hpath, heq⟩ | ⟨hfront, heq⟩
  · have hother : ¬ bundled <+: scheme ++ path := by
      intro hstarts
      exact absurd (List.cons_prefix_cons.mp hstarts).1 (by decide)
    rw [heq, hpath, List.prefix_append_right_inj]
    exact (or_iff_right hother).symm
  · have hother : ¬ scheme ++ bundled <+: slashed name := fun hboth =>
      hfront ((List.prefix_append scheme bundled).trans hboth)
    rw [heq]
    exact (or_iff_left hother).symm

def firstSource? : Json → Option String
  | .object fields =>
    match Json.field? fields "sources" with
    | some (.array (source :: _)) => source.string?
    | _ => none
  | _ => none

def file? : Json → Option String
  | .object fields => (Json.field? fields "file").bind Json.string?
  | _ => none

theorem firstSource?_payload (name : String) (content : Option String) (mappings : String) :
    firstSource? (payload name content mappings) = some name := by
  cases content <;> rfl

theorem file?_payload (name : String) (content : Option String) (mappings : String) :
    file? (payload name content mappings) = some name := by
  cases content <;> rfl

theorem readComment?_of_made (hmade : comment? name content position = some comment)
    (hne : comment ≠ "") :
    name ≠ "" ∧
      ∃ mappings, readComment? comment = some (payload (normalizeName name) content mappings) := by
  unfold comment? at hmade
  split at hmade
  · exact absurd (Option.some.inj hmade).symm hne
  · rename_i hname
    obtain ⟨mappings, -, hcomment⟩ := Option.bind_eq_some_iff.mp hmade
    obtain rfl := Option.some.inj hcomment
    exact ⟨by simpa using hname, String.ofList mappings,
      readComment?_of_document (read?_document ..)⟩

theorem comment?_small (name : String) (content : Option String) (position : Position)
    (hname : name ≠ "") (hline : position.line.toNat < 2 ^ 62)
    (hcolumn : position.column.toNat < 2 ^ 62) :
    ∃ comment, comment? name content position = some comment ∧ comment ≠ "" := by
  have hnamed : name.isEmpty = false := by simpa using hname
  unfold comment?
  rw [segment?_small hline hcolumn, hnamed]
  refine ⟨_, rfl, fun hempty => ?_⟩
  have hopening : opening.toList <+: "".toList := by
    rw [← hempty, toList_comment]
    exact List.prefix_append _ _
  exact absurd (List.prefix_nil.mp hopening) (by decide)

/-- The name in a source map has no backslash in it. It is empty, or begins with a scheme or with
the mark of a bundler, exactly if the given name, written with slashes, was nothing but a scheme,
began with two of them, or had the mark in front or right behind the scheme. -/
theorem embedded_name (hmade : comment? name content position = some comment)
    (hne : comment ≠ "") :
    ∃ document embedded, readComment? comment = some document ∧
      firstSource? document = some embedded ∧ file? document = some embedded ∧
      '\\' ∉ embedded.toList ∧
      (embedded = "" ↔ slashed name = "file://".toList) ∧
      ("file://".toList <+: embedded.toList ↔ "file://file://".toList <+: slashed name) ∧
      ("[project]/".toList <+: embedded.toList ↔
        "[project]/".toList <+: slashed name ∨ "file://[project]/".toList <+: slashed name) := by
  obtain ⟨hname, mappings, hread⟩ := readComment?_of_made hmade hne
  exact ⟨_, normalizeName name, hread, firstSource?_payload .., file?_payload ..,
    not_mem_normalizeName name, normalizeName_eq_empty_iff hname,
    scheme_prefix_normalizeName_iff name, bundled_prefix_normalizeName_iff name⟩

theorem embedded_name_windows :
    let name := "file:\\\\C:\\[project]\\card.js"
    ∃ comment, (comment? name none ⟨3, 2⟩ = some comment ∧ comment ≠ "") ∧
      ∃ document embedded, readComment? comment = some document ∧
        firstSource? document = some embedded ∧ file? document = some embedded ∧
        embedded ≠ "" ∧ '\\' ∉ embedded.toList ∧ ¬ "file://".toList <+: embedded.toList ∧
        ¬ "[project]/".toList <+: embedded.toList := by
  intro name
  obtain ⟨comment, hmade, hne⟩ :=
    comment?_small name none ⟨3, 2⟩ (by decide) (by decide) (by decide)
  obtain ⟨document, embedded, hread, hsource, hfile, hslashes, hempty, hscheme, hbundled⟩ :=
    embedded_name hmade hne
  refine ⟨comment, ⟨hmade, hne⟩, document, embedded, hread, hsource, hfile, ?_, hslashes, ?_, ?_⟩
  · exact fun h => absurd (hempty.mp h) (by decide)
  · exact fun h => absurd (hscheme.mp h) (by decide)
  · exact fun h => absurd (hbundled.mp h) (by decide)

theorem bundler_mark_embedded :
    ¬ ∀ (name : String) (content : Option String) (position : Position) (comment : String)
        (document : Json) (embedded : String),
      comment? name content position = some comment → comment ≠ "" →
      readComment? comment = some document → firstSource? document = some embedded →
      embedded ≠ "" ∧ '\\' ∉ embedded.toList ∧ ¬ "file://".toList <+: embedded.toList ∧
        ¬ "[project]/".toList <+: embedded.toList := by
  intro hnormal
  obtain ⟨comment, hmade, hne⟩ := comment?_small "[project]/src/a.js" none ⟨3, 2⟩ (by decide)
    (by decide) (by decide)
  obtain ⟨-, mappings, hread⟩ := readComment?_of_made hmade hne
  have hclean := hnormal _ _ _ comment _ _ hmade hne hread (firstSource?_payload ..)
  exact absurd hclean.2.2.2 (by decide)

end ScopedStyles.SourceMap
