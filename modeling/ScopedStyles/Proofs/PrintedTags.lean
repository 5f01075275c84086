import Mathlib.Data.String.Basic
import ScopedStyles.Page.Record
import ScopedStyles.Page.StyleTag
import ScopedStyles.Proofs.Texts

namespace ScopedStyles

namespace StyleTag

def entity : List Char := "&quot;".toList

def escaped (value : List Char) : List Char :=
  value.flatMap fun c => if c = '"' then entity else [c]

def unescaped (value : List Char) : List Char :=
  Text.replaceFrom entity ['"'] 0 value

@[simp] theorem escaped_append (front back : List Char) :
    escaped (front ++ back) = escaped front ++ escaped back :=
  List.flatMap_append

@[simp] theorem escaped_quote (rest : List Char) : escaped ('"' :: rest) = entity ++ escaped rest :=
  rfl

theorem escaped_cons {c : Char} (h : c ≠ '"') (rest : List Char) :
    escaped (c :: rest) = c :: escaped rest := by
  rw [escaped, List.flatMap_cons, if_neg h]
  rfl

@[simp] theorem unescaped_entity (rest : List Char) :
    unescaped (entity ++ rest) = '"' :: unescaped rest :=
  Text.replaceFrom_append (by decide) ['"'] rest

theorem unescaped_cons {c : Char} {rest : List Char} (h : ¬ entity <+: c :: rest) :
    unescaped (c :: rest) = c :: unescaped rest :=
  Text.replaceFrom_cons ['"'] h

theorem unescaped_quote (rest : List Char) : unescaped ('"' :: rest) = '"' :: unescaped rest :=
  unescaped_cons fun hstarts => absurd (List.cons_prefix_cons.mp hstarts).1 (by decide)

theorem not_mem_escaped (value : List Char) : '"' ∉ escaped value := by
  intro hmem
  obtain ⟨c, -, hc⟩ := List.mem_flatMap.mp hmem
  split at hc
  · exact absurd hc (by decide)
  · rename_i hne
    exact hne (List.mem_singleton.mp hc).symm

inductive Spelling : List Char → Prop
  | nil : Spelling []
  | entity {rest} : Spelling rest → Spelling (StyleTag.entity ++ rest)
  | quote {rest} : Spelling rest → Spelling ('"' :: rest)
  | other {c rest} : c ≠ '"' → ¬ StyleTag.entity <+: c :: rest → Spelling rest → Spelling (c :: rest)

theorem spelling (value : List Char) : Spelling value := by
  induction hlength : value.length using Nat.strong_induction_on generalizing value with
  | _ length ih =>
    subst hlength
    cases value with
    | nil => exact .nil
    | cons c rest =>
      by_cases hentity : entity <+: c :: rest
      · obtain ⟨back, hback⟩ := hentity
        rw [← hback]
        refine .entity (ih _ ?_ back rfl)
        rw [← hback, List.length_append]
        exact Nat.lt_add_of_pos_left (by decide)
      · have hrest := ih _ (Nat.lt_succ_self rest.length) rest rfl
        by_cases hquote : c = '"'
        · rw [hquote]
          exact .quote hrest
        · exact .other hquote hentity hrest

theorem escaped_unescaped (value : List Char) : escaped (unescaped value) = escaped value := by
  induction spelling value with
  | nil => rfl
  | entity _ ih => rw [unescaped_entity, escaped_quote, ih, escaped_append]; rfl
  | quote _ ih => rw [unescaped_quote, escaped_quote, escaped_quote, ih]
  | other hquote hentity _ ih =>
    rw [unescaped_cons hentity, escaped_cons hquote, escaped_cons hquote, ih]

theorem prefix_of_prefix_escaped {front value : List Char} (hfront : '&' ∉ front)
    (h : front <+: escaped value) : front <+: value := by
  induction front generalizing value with
  | nil => exact List.nil_prefix
  | cons c front ih =>
    obtain ⟨hc, hfront⟩ := not_or.mp (mt List.mem_cons.mpr hfront)
    cases value with
    | nil => exact absurd (List.prefix_nil.mp h) (List.cons_ne_nil c front)
    | cons d rest =>
      by_cases hquote : d = '"'
      · rw [hquote, escaped_quote] at h
        exact absurd (List.cons_prefix_cons.mp h).1.symm hc
      · rw [escaped_cons hquote] at h
        obtain ⟨rfl, hrest⟩ := List.cons_prefix_cons.mp h
        exact List.cons_prefix_cons.mpr ⟨rfl, ih hfront hrest⟩

theorem unescaped_escaped (value : List Char) : unescaped (escaped value) = unescaped value := by
  induction spelling value with
  | nil => rfl
  | entity _ ih =>
    have hentity : escaped entity = entity := by decide
    rw [escaped_append, hentity, unescaped_entity, unescaped_entity, ih]
  | quote _ ih => rw [escaped_quote, unescaped_entity, unescaped_quote, ih]
  | @other c rest hquote hentity _ ih =>
    have hentity' : ¬ entity <+: c :: escaped rest := by
      intro hstarts
      obtain ⟨hc, hrest⟩ := List.cons_prefix_cons.mp hstarts
      exact hentity (List.cons_prefix_cons.mpr ⟨hc, prefix_of_prefix_escaped (by decide) hrest⟩)
    rw [escaped_cons hquote, unescaped_cons hentity', unescaped_cons hentity, ih]

theorem escaped_eq_iff {value value' : List Char} :
    escaped value = escaped value' ↔ unescaped value = unescaped value' := by
  constructor
  · intro h
    rw [← unescaped_escaped value, h, unescaped_escaped]
  · intro h
    rw [← escaped_unescaped value, h, escaped_unescaped]

section Entries

variable {β : Type} {entries entries' : List (String × β)} {key name : String}

def Rising (entries : List (String × β)) : Prop :=
  entries.Pairwise (·.1 < ·.1)

theorem lookup_map {γ : Type} (view : β → γ) (entries : List (String × β)) (name : String) :
    (entries.map fun entry => (entry.1, view entry.2)).lookup name =
      (entries.lookup name).map view := by
  induction entries with
  | nil => rfl
  | cons entry rest ih =>
    rw [List.map_cons, lookup_entry, ih, ← Prod.mk.eta (p := entry), lookup_entry]
    split <;> rfl

theorem lookup_eq_none (h : ∀ entry ∈ entries, name < entry.1) : entries.lookup name = none :=
  List.lookup_eq_none_iff.mpr fun entry hmem => by simpa using (h entry hmem).ne

theorem mem_of_lookup {value : β} (h : entries.lookup name = some value) :
    (name, value) ∈ entries := by
  obtain ⟨front, back, rfl, -⟩ := List.lookup_eq_some_iff.mp h
  simp

theorem Rising.le_of_lookup {first value : β} {rest : List (String × β)}
    (hrising : Rising ((key, first) :: rest))
    (h : ((key, first) :: rest).lookup name = some value) : key ≤ name := by
  rcases List.mem_cons.mp (mem_of_lookup h) with heq | hmem
  · exact (congrArg Prod.fst heq).ge
  · exact (List.rel_of_pairwise_cons hrising hmem).le

theorem Rising.ext (hrising : Rising entries) (hrising' : Rising entries')
    (h : ∀ name, entries.lookup name = entries'.lookup name) : entries = entries' := by
  induction entries generalizing entries' with
  | nil =>
    cases entries' with
    | nil => rfl
    | cons entry' rest' =>
      obtain ⟨key', value'⟩ := entry'
      simpa [lookup_entry] using h key'
  | cons entry rest ih =>
    obtain ⟨key, value⟩ := entry
    have hfirst := h key
    rw [lookup_entry, if_pos rfl] at hfirst
    cases entries' with
    | nil => cases hfirst
    | cons entry' rest' =>
      obtain ⟨key', value'⟩ := entry'
      have hfirst' := h key'
      rw [lookup_entry key' key', if_pos rfl] at hfirst'
      obtain rfl : key = key' :=
        le_antisymm (hrising.le_of_lookup hfirst') (hrising'.le_of_lookup hfirst.symm)
      rw [lookup_entry, if_pos rfl] at hfirst
      obtain rfl := Option.some.inj hfirst
      obtain ⟨hbelow, hrest⟩ := List.pairwise_cons.mp hrising
      obtain ⟨hbelow', hrest'⟩ := List.pairwise_cons.mp hrising'
      refine congrArg _ (ih hrest hrest' fun name => ?_)
      by_cases hname : name = key
      · rw [hname, lookup_eq_none hbelow, lookup_eq_none hbelow']
      · simpa [lookup_entry, hname] using h name

end Entries

section Insert

variable {entries : List (String × String)} {key value : String}

theorem lookup_insert (name : String) :
    (insert key value entries).lookup name =
      if name = key then some value else entries.lookup name := by
  induction entries with
  | nil => rw [insert, lookup_entry, List.lookup_nil]
  | cons entry rest ih =>
    obtain ⟨first, old⟩ := entry
    rw [insert]
    split
    · rename_i heq
      rw [← heq, lookup_entry, lookup_entry]
      split <;> rfl
    · rename_i hne
      split
      · rw [lookup_entry]
      · rw [lookup_entry, lookup_entry, ih]
        by_cases hname : name = first
        · rw [if_pos hname, if_pos hname, if_neg (hname ▸ Ne.symm hne)]
        · rw [if_neg hname, if_neg hname]

theorem mem_insert {entry : String × String} (h : entry ∈ insert key value entries) :
    entry = (key, value) ∨ entry ∈ entries := by
  induction entries with
  | nil => exact .inl (List.mem_singleton.mp h)
  | cons first rest ih =>
    obtain ⟨name, old⟩ := first
    rw [insert] at h
    split at h
    · exact (List.mem_cons.mp h).imp_right (List.mem_cons_of_mem _)
    · split at h
      · exact List.mem_cons.mp h
      · rcases List.mem_cons.mp h with rfl | hrest
        · exact .inr List.mem_cons_self
        · exact (ih hrest).imp_right (List.mem_cons_of_mem _)

theorem Rising.insert (h : Rising entries) : Rising (insert key value entries) := by
  induction entries with
  | nil => exact List.pairwise_singleton _ _
  | cons first rest ih =>
    obtain ⟨name, old⟩ := first
    obtain ⟨hbelow, hrest⟩ := List.pairwise_cons.mp h
    rw [StyleTag.insert]
    split
    · rename_i heq
      exact List.pairwise_cons.mpr ⟨heq ▸ hbelow, hrest⟩
    · rename_i hne
      split
      · rename_i hlt
        refine List.pairwise_cons.mpr ⟨fun entry hmem => ?_, h⟩
        rcases List.mem_cons.mp hmem with rfl | hmem
        · exact hlt
        · exact hlt.trans (hbelow entry hmem)
      · rename_i hnlt
        refine List.pairwise_cons.mpr ⟨fun entry hmem => ?_, ih hrest⟩
        rcases mem_insert hmem with rfl | hmem
        · exact lt_of_le_of_ne (not_lt.mp hnlt) (Ne.symm hne)
        · exact hbelow entry hmem

end Insert

def built (css : String) (settings : List (String × String)) : StyleTag :=
  settings.foldl (fun tag setting => tag.withAttribute setting.1 setting.2) { css }

def lastValue? (settings : List (String × String)) (key : String) : Option String :=
  settings.reverse.lookup key

def IsName (key : String) : Prop :=
  key ≠ "" ∧ ∀ c ∈ key.toList, c.isAlphanum = true ∨ c = '-'

-- Only the characters of the key are gone through: another instance goes through all there are.
instance : DecidablePred IsName := fun _ =>
  @instDecidableAnd _ _ _ (List.decidableBAll _ _)

theorem IsName.not_mem {key : String} (h : IsName key) : '=' ∉ key.toList := fun hmem =>
  absurd (h.2 '=' hmem) (by decide)

section Built

variable (css : String) (settings : List (String × String))

theorem built_append_singleton (setting : String × String) :
    built css (settings ++ [setting]) =
      (built css settings).withAttribute setting.1 setting.2 := by
  rw [built, List.foldl_append]
  rfl

theorem built_css : (built css settings).css = css := by
  induction settings using List.reverseRecOn with
  | nil => rfl
  | append_singleton settings setting ih =>
    rw [built_append_singleton]
    exact ih

theorem rising_built : Rising (built css settings).attributes := by
  induction settings using List.reverseRecOn with
  | nil => exact .nil
  | append_singleton settings setting ih =>
    rw [built_append_singleton]
    exact ih.insert

theorem lookup_built (key : String) :
    (built css settings).attributes.lookup key = lastValue? settings key := by
  induction settings using List.reverseRecOn with
  | nil => rfl
  | append_singleton settings setting ih =>
    rw [built_append_singleton, lastValue?, List.reverse_append, List.reverse_singleton,
      List.singleton_append, ← Prod.mk.eta (p := setting), lookup_entry]
    exact (lookup_insert key).trans (by rw [ih]; rfl)

theorem mem_built {entry : String × String} (h : entry ∈ (built css settings).attributes) :
    entry ∈ settings := by
  induction settings using List.reverseRecOn with
  | nil => cases h
  | append_singleton settings setting ih =>
    rw [built_append_singleton] at h
    rcases mem_insert h with rfl | h
    · simp
    · exact List.mem_append_left _ (ih h)

end Built

theorem toList_replaceAll (value : String) :
    (Text.replaceAll "\"" "&quot;" value).toList = escaped value.toList :=
  String.toList_ofList.trans (Text.replaceFrom_singleton '"' entity value.toList)

theorem toList_attributeHtml (entry : String × String) :
    (attributeHtml entry).toList =
      ' ' :: (entry.1.toList ++ '=' :: '"' :: (escaped entry.2.toList ++ ['"'])) := by
  simp [attributeHtml, toList_replaceAll]

theorem toList_html (tag : StyleTag) :
    tag.html.toList = "<style".toList ++
      (tag.attributes.flatMap (fun entry => (attributeHtml entry).toList) ++
        '>' :: (tag.css.toList ++ "</style>".toList)) := by
  simp [html, List.flatMap_map]

def printed (entry : String × String) : String × List Char :=
  (entry.1, escaped entry.2.toList)

theorem printed_inj {entries entries' : List (String × String)} {back back' : List Char}
    (hnames : ∀ entry ∈ entries, '=' ∉ entry.1.toList)
    (hnames' : ∀ entry ∈ entries', '=' ∉ entry.1.toList)
    (h : entries.flatMap (fun entry => (attributeHtml entry).toList) ++ '>' :: back =
      entries'.flatMap (fun entry => (attributeHtml entry).toList) ++ '>' :: back') :
    entries.map printed = entries'.map printed ∧ back = back' := by
  induction entries generalizing entries' with
  | nil =>
    cases entries' with
    | nil => exact ⟨rfl, (List.cons.inj h).2⟩
    | cons entry' rest' =>
      rw [List.flatMap_cons, toList_attributeHtml] at h
      exact absurd (List.cons.inj h).1 (by decide)
  | cons entry rest ih =>
    obtain ⟨hname, hnames⟩ := List.forall_mem_cons.mp hnames
    rw [List.flatMap_cons, toList_attributeHtml] at h
    cases entries' with
    | nil => exact absurd (List.cons.inj h).1 (by decide)
    | cons entry' rest' =>
      obtain ⟨hname', hnames'⟩ := List.forall_mem_cons.mp hnames'
      rw [List.flatMap_cons, toList_attributeHtml] at h
      simp only [List.cons_append, List.append_assoc, List.nil_append, List.cons.injEq,
        true_and] at h
      obtain ⟨hkey, hvalue⟩ := Text.append_cons_inj hname hname' h
      obtain ⟨hshown, hrest⟩ := Text.append_cons_inj (not_mem_escaped _) (not_mem_escaped _)
        (List.cons.inj hvalue).2
      obtain ⟨hprinted, hback⟩ := ih hnames hnames' hrest
      refine ⟨?_, hback⟩
      rw [List.map_cons, List.map_cons, hprinted, printed, printed, hshown,
        String.toList_inj.mp hkey]

theorem lookup_printed (css : String) (settings : List (String × String)) (key : String) :
    ((built css settings).attributes.map printed).lookup key =
      (lastValue? settings key).map fun value => escaped value.toList := by
  rw [← lookup_built css]
  exact lookup_map (fun value : String => escaped value.toList) _ key

section Same

variable {css css' : String} {settings settings' : List (String × String)}

theorem map_printed_eq_iff :
    (built css settings).attributes.map printed = (built css' settings').attributes.map printed ↔
      ∀ key, (lastValue? settings key).map (fun value => escaped value.toList) =
        (lastValue? settings' key).map (fun value => escaped value.toList) := by
  have hrising : Rising ((built css settings).attributes.map printed) :=
    List.pairwise_map.mpr (rising_built css settings)
  have hrising' : Rising ((built css' settings').attributes.map printed) :=
    List.pairwise_map.mpr (rising_built css' settings')
  constructor
  · intro h key
    rw [← lookup_printed css, h, lookup_printed]
  · intro h
    refine hrising.ext hrising' fun key => ?_
    rw [lookup_printed, h, lookup_printed]

theorem html_eq_iff (hnames : ∀ setting ∈ settings, IsName setting.1)
    (hnames' : ∀ setting ∈ settings', IsName setting.1) :
    (built css settings).html = (built css' settings').html ↔
      css = css' ∧
        (built css settings).attributes.map printed = (built css' settings').attributes.map printed := by
  rw [← String.toList_inj, toList_html, toList_html, built_css, built_css, List.append_cancel_left_eq]
  constructor
  · intro h
    obtain ⟨hprinted, hback⟩ :=
      printed_inj (fun entry hmem => (hnames entry (mem_built css settings hmem)).not_mem)
        (fun entry hmem => (hnames' entry (mem_built css' settings' hmem)).not_mem) h
    exact ⟨String.toList_inj.mp (List.append_cancel_right hback), hprinted⟩
  · rintro ⟨rfl, hprinted⟩
    have hattributes := congrArg (List.flatMap fun entry : String × List Char =>
      ' ' :: (entry.1.toList ++ '=' :: '"' :: (entry.2 ++ ['"']))) hprinted
    rw [List.flatMap_map, List.flatMap_map] at hattributes
    simp only [toList_attributeHtml]
    exact congrArg (· ++ _) hattributes

theorem unescaped_of_absent {value : String} (h : ¬ "&quot;".toList <:+: value.toList) :
    unescaped value.toList = value.toList :=
  Text.replaceFrom_of_absent ['"'] h

theorem lastValue?_mem {key value : String} (h : lastValue? settings key = some value) :
    (key, value) ∈ settings :=
  List.mem_reverse.mp (mem_of_lookup h)

theorem map_unescaped (key : String)
    (h : ∀ setting ∈ settings, ¬ "&quot;".toList <:+: setting.2.toList) :
    (lastValue? settings key).map (fun value => unescaped value.toList) =
      (lastValue? settings key).map String.toList := by
  cases hvalue : lastValue? settings key with
  | none => rfl
  | some value => exact congrArg some (unescaped_of_absent (h _ (lastValue?_mem hvalue)))

end Same

/-- Two tags print the same exactly if they have the same css and each attribute was last set to
values that do not differ but in quotes written as `&quot;`. Without such values these are the same
values. No value has a quote left in it that could end its attribute. -/
theorem printed_tags_eq_iff {css css' : String} {settings settings' : List (String × String)}
    (hnames : ∀ setting ∈ settings, IsName setting.1)
    (hnames' : ∀ setting ∈ settings', IsName setting.1) :
    ((built css settings).html = (built css' settings').html ↔
      css = css' ∧ ∀ key, (lastValue? settings key).map (fun value => unescaped value.toList) =
        (lastValue? settings' key).map (fun value => unescaped value.toList)) ∧
    ((∀ setting ∈ settings ++ settings', ¬ "&quot;".toList <:+: setting.2.toList) →
      ((built css settings).html = (built css' settings').html ↔
        css = css' ∧ ∀ key, lastValue? settings key = lastValue? settings' key)) ∧
    ∀ entry ∈ (built css settings).attributes, ∃ shown,
      attributeHtml entry = " " ++ entry.1 ++ "=\"" ++ shown ++ "\"" ∧ '"' ∉ shown.toList := by
  have hhtml : (built css settings).html = (built css' settings').html ↔
      css = css' ∧ ∀ key, (lastValue? settings key).map (fun value => unescaped value.toList) =
        (lastValue? settings' key).map (fun value => unescaped value.toList) := by
    rw [html_eq_iff hnames hnames', map_printed_eq_iff]
    refine and_congr_right fun _ => forall_congr' fun key => ?_
    cases lastValue? settings key <;> cases lastValue? settings' key <;> simp [escaped_eq_iff]
  refine ⟨hhtml, fun hplain => ?_, fun entry _ => ⟨_, rfl, ?_⟩⟩
  · obtain ⟨hplain, hplain'⟩ := List.forall_mem_append.mp hplain
    rw [hhtml]
    refine and_congr_right fun _ => forall_congr' fun key => ?_
    rw [map_unescaped key hplain, map_unescaped key hplain']
    exact (Option.map_injective fun _ _ h => String.toList_inj.mp h).eq_iff
  · rw [toList_replaceAll]
    exact not_mem_escaped _

theorem printed_tags_eq_iff_nonce :
    let settings := [("nonce", "abc"), ("title", "\"a\" > 'b'"), ("nonce", "a\"></style>")]
    let settings' := [("nonce", "a\"></style>"), ("title", "\"a\" > 'b'")]
    let other := [("nonce", "a\"></style"), ("title", ">\"a\" > 'b'")]
    ((∀ setting ∈ settings, IsName setting.1) ∧ (∀ setting ∈ settings', IsName setting.1) ∧
      (∀ setting ∈ other, IsName setting.1) ∧
      (∀ setting ∈ settings ++ settings', ¬ "&quot;".toList <:+: setting.2.toList) ∧
      ∀ setting ∈ settings ++ other, ¬ "&quot;".toList <:+: setting.2.toList) ∧
    (built ".a\x7b\x7d" settings).html = (built ".a\x7b\x7d" settings').html ∧
    (built ".a\x7b\x7d" settings).html ≠ (built ".a\x7b\x7d" other).html := by
  intro settings settings' other
  have hnames : ∀ setting ∈ settings, IsName setting.1 := by decide
  have hnames' : ∀ setting ∈ settings', IsName setting.1 := by decide
  have hother : ∀ setting ∈ other, IsName setting.1 := by decide
  have hplain : ∀ setting ∈ settings ++ settings', ¬ "&quot;".toList <:+: setting.2.toList := by
    decide
  have hplain' : ∀ setting ∈ settings ++ other, ¬ "&quot;".toList <:+: setting.2.toList := by
    decide
  refine ⟨⟨hnames, hnames', hother, hplain, hplain'⟩, ?_, ?_⟩
  · refine ((printed_tags_eq_iff hnames hnames').2.1 hplain).mpr ⟨rfl, fun key => ?_⟩
    simp only [lastValue?, settings, settings', List.reverse_cons, List.reverse_nil,
      List.nil_append, List.cons_append, lookup_entry]
    split_ifs <;> simp_all
  · intro hsame
    have hvalues := (((printed_tags_eq_iff hnames hother).2.1 hplain').mp hsame).2 "nonce"
    exact absurd hvalues (by decide)

theorem escaped_text_confused :
    ¬ ∀ (css css' : String) (settings settings' : List (String × String)),
      (∀ setting ∈ settings, IsName setting.1) → (∀ setting ∈ settings', IsName setting.1) →
      ((built css settings).html = (built css' settings').html ↔
        css = css' ∧ ∀ key, lastValue? settings key = lastValue? settings' key) := by
  intro hexact
  have hname : IsName "title" := by decide
  have hnames (value : String) : ∀ setting ∈ [("title", value)], IsName setting.1 :=
    List.forall_mem_singleton.mpr hname
  have hsame : (built "" [("title", "\"")]).html = (built "" [("title", "&quot;")]).html := by
    decide
  have hvalues := ((hexact _ _ _ _ (hnames _) (hnames _)).mp hsame).2 "title"
  exact absurd hvalues (by decide)

end StyleTag

end ScopedStyles
