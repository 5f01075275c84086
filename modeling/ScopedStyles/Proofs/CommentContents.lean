import ScopedStyles.Proofs.CompactJson
import ScopedStyles.Proofs.Quantities
import ScopedStyles.Proofs.Texts

namespace ScopedStyles.SourceMap

def payload (name : String) (content : Option String) (mappings : String) : Json :=
  .object ([("version", .number "3"), ("sources", .array [.string name]), ("names", .array []),
      ("mappings", .string mappings), ("file", .string name)] ++
    content.toList.map fun content => ("sourcesContent", .array [.string content]))

theorem toList_document (name : String) (content : Option String) (mappings : String) :
    (document name content mappings).toList = Json.compact (payload name content mappings) := by
  have hversion : "\x7b\"version\":3,\"sources\":[".toList =
      '\x7b' :: ((Json.quote "version").toList ++ ':' :: ("3".toList ++
        ',' :: ((Json.quote "sources").toList ++ [':', '[']))) := by decide
  have hnames : "],\"names\":[],\"mappings\":".toList =
      ']' :: ',' :: ((Json.quote "names").toList ++ ':' :: '[' :: ']' ::
        ',' :: ((Json.quote "mappings").toList ++ [':'])) := by decide
  have hfile : ",\"file\":".toList = ',' :: ((Json.quote "file").toList ++ [':']) := by decide
  have hcontents : ",\"sourcesContent\":[".toList =
      ',' :: ((Json.quote "sourcesContent").toList ++ [':', '[']) := by decide
  unfold document payload
  cases content with
  | none =>
    simp only [Option.toList_none, List.map_nil, List.append_nil, String.toList_append, hversion,
      hnames, hfile, Json.compact, Json.compactItems, Json.compactFields, List.append_assoc,
      List.cons_append, List.nil_append]
    rfl
  | some content =>
    simp only [Option.toList_some, List.map_cons, List.map_nil, String.toList_append, hversion,
      hnames, hfile, hcontents, Json.compact, Json.compactItems, Json.compactFields,
      List.append_assoc, List.cons_append, List.nil_append]
    rfl

theorem legible_singleton (depth : Nat) (text : String) :
    Json.Legible (depth + 1) (.array [.string text]) := by
  refine .array fun item hmem => ?_
  rw [List.mem_singleton.mp hmem]
  exact .string text

theorem legible_payload (name : String) (content : Option String) (mappings : String) :
    Json.Legible Json.depthLimit (payload name content mappings) := by
  refine @Json.Legible.object 126 _ fun field hmem => ?_
  rcases List.mem_append.mp hmem with hfixed | hcontent
  · simp only [List.mem_cons, List.not_mem_nil, or_false] at hfixed
    rcases hfixed with rfl | rfl | rfl | rfl | rfl
    · exact .number (@Json.numeral_digit '3' (by decide))
    · exact legible_singleton 125 name
    · exact @Json.Legible.array 125 [] (by simp)
    · exact .string mappings
    · exact .string name
  · obtain ⟨content, -, rfl⟩ := List.mem_map.mp hcontent
    exact legible_singleton 125 content

theorem read?_document (name : String) (content : Option String) (mappings : String) :
    Json.read? (document name content mappings) = some (payload name content mappings) := by
  have hread := Json.read?_compact (legible_payload name content mappings)
  rwa [← toList_document, String.ofList_toList] at hread

def readComment? (comment : String) : Option Json := do
  let text ← Text.dropFront? opening.toList comment.toList
  let encoded ← Text.dropEnd? closing.toList text
  let bytes ← Base64.decode? encoded
  let document ← String.fromUTF8? ⟨bytes.toArray⟩
  Json.read? document

theorem fromUTF8?_bytes (text : String) :
    String.fromUTF8? ⟨text.toUTF8.data.toList.toArray⟩ = some text :=
  dif_pos text.isValidUTF8

theorem toList_comment (encoded : List Char) :
    (opening ++ String.ofList encoded ++ closing).toList =
      opening.toList ++ (encoded ++ closing.toList) := by
  rw [String.toList_append, String.toList_append, String.toList_ofList, List.append_assoc]

theorem readComment?_of_document {document : String} {value : Json}
    (h : Json.read? document = some value) :
    readComment? (opening ++
      String.ofList (Base64.encode document.toUTF8.data.toList) ++ closing) = some value := by
  unfold readComment?
  rw [toList_comment, Text.dropFront?_eq_some_iff.mpr rfl]
  simp only [Option.bind_eq_bind, Option.bind_some]
  rw [Text.dropEnd?_eq_some_iff.mpr rfl]
  simp only [Option.bind_some, Base64.decode?_encode, fromUTF8?_bytes, h]

theorem not_mem_encode (bytes : List UInt8) {c : Char} (h : c ∉ '=' :: Base64.alphabet) :
    c ∉ Base64.encode bytes := by
  intro hmem
  rcases Base64.mem_encode hmem with hdigit | rfl
  · exact h (List.mem_cons_of_mem _ hdigit)
  · exact h List.mem_cons_self

theorem comment_closed_last (bytes : List UInt8) :
    let comment := opening ++ String.ofList (Base64.encode bytes) ++ closing
    ['*', '/'] <:+ comment.toList ∧ ¬ ['*', '/'] <:+: comment.toList.dropLast := by
  intro comment
  let encoded := Base64.encode bytes
  have hclosing : closing.toList = [' ', '*', '/'] := by decide
  have hcomment : comment.toList = (opening.toList ++ encoded ++ [' ']) ++ ['*', '/'] := by
    rw [toList_comment, hclosing]
    simp [encoded]
  refine ⟨⟨_, hcomment.symm⟩, fun hinside => ?_⟩
  -- A blank and a comma keep what stands beside the encoded bytes away from them.
  have hblank : comment.toList.dropLast = (opening.toList ++ encoded) ++ ' ' :: ['*'] := by
    rw [hcomment, List.append_assoc, List.append_assoc]
    simp
  have hopening : opening.toList = opening.toList.dropLast ++ [','] := by decide
  have hcomma : opening.toList ++ encoded = opening.toList.dropLast ++ ',' :: encoded := by
    rw [List.append_cons, ← hopening]
  rw [hblank] at hinside
  rcases Text.infix_append_cons (by decide) hinside with hfront | hlast
  · rw [hcomma] at hfront
    rcases Text.infix_append_cons (by decide) hfront with hfront | hencoded
    · exact absurd hfront (by decide)
    · exact not_mem_encode bytes (by decide) (hencoded.subset List.mem_cons_self)
  · exact absurd hlast (by decide)

theorem comment_tagless (bytes : List UInt8) :
    '<' ∉ (opening ++ String.ofList (Base64.encode bytes) ++ closing).toList := by
  rw [toList_comment]
  intro hmem
  rcases List.mem_append.mp hmem with hopening | hmem
  · exact absurd hopening (by decide)
  · rcases List.mem_append.mp hmem with hencoded | hclosing
    · exact not_mem_encode bytes (by decide) hencoded
    · exact absurd hclosing (by decide)

theorem comment_read_back {name : String} (hname : name ≠ "") (content : Option String)
    {position : Position} (hline : position.line.toNat < 2 ^ 62)
    (hcolumn : position.column.toNat < 2 ^ 62) :
    ∃ mappings comment, segment? position = some mappings ∧
      comment? name content position = some comment ∧
      readComment? comment =
        some (payload (normalizeName name) content (String.ofList mappings)) ∧
      ['*', '/'] <:+ comment.toList ∧ ¬ ['*', '/'] <:+: comment.toList.dropLast ∧
      '<' ∉ comment.toList := by
  obtain ⟨mappings, hmappings⟩ : ∃ mappings, segment? position = some mappings :=
    ⟨_, segment?_small hline hcolumn⟩
  let text := document (normalizeName name) content (String.ofList mappings)
  have hmade : comment? name content position = some (opening ++
      String.ofList (Base64.encode text.toUTF8.data.toList) ++ closing) := by
    have hnamed : name.isEmpty = false := by simpa using hname
    simp only [comment?, hnamed, hmappings]
    rfl
  obtain ⟨hlast, honly⟩ := comment_closed_last text.toUTF8.data.toList
  exact ⟨mappings, _, hmappings, hmade, readComment?_of_document (read?_document ..), hlast, honly,
    comment_tagless _⟩

theorem comment_read_back_hostile :
    let name := "file://src\\card.js"
    let content := "*/</style>\"\\\n\x01é😀"
    let position : Position := ⟨3, 2⟩
    (name ≠ "" ∧ position.line.toNat < 2 ^ 62 ∧ position.column.toNat < 2 ^ 62) ∧
      ∃ comment, comment? name (some content) position = some comment ∧
        readComment? comment = some (payload "src/card.js" (some content) "AAEE") ∧
        ['*', '/'] <:+ comment.toList ∧ ¬ ['*', '/'] <:+: comment.toList.dropLast ∧
        '<' ∉ comment.toList := by
  intro name content position
  have hnamed : name ≠ "" := by decide
  have hline : position.line.toNat < 2 ^ 62 := by decide
  have hcolumn : position.column.toNat < 2 ^ 62 := by decide
  have hsegment : segment? position = some "AAEE".toList := by
    rw [segment?_small hline hcolumn, Vlq.digits_of_lt (by decide), Vlq.digits_of_lt (by decide),
      Vlq.digits_of_lt (by decide)]
    decide
  have hname : normalizeName name = "src/card.js" := by decide
  obtain ⟨mappings, comment, hmappings, hmade, hread, hsafe⟩ :=
    comment_read_back hnamed (some content) hline hcolumn
  obtain rfl := Option.some.inj (hsegment.symm.trans hmappings)
  rw [hname, String.ofList_toList] at hread
  exact ⟨⟨hnamed, hline, hcolumn⟩, comment, hmade, hread, hsafe⟩

end ScopedStyles.SourceMap
