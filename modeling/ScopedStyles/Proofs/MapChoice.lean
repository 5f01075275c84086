import ScopedStyles.Proofs.Walk

namespace ScopedStyles

open JavaScript

namespace JavaScript

namespace Tree

def isJoined : Tree → Bool
  | .call _ (.node .member [.node (.array _) _, .word "join"]) [.string literal] =>
    literal.value.isEmpty
  | _ => false

def emptyMap : Tree → List Tree → List Tree
  | .identifier _, [first, .string literal] =>
    if first.isJoined then [first, .text ""] else [first, .string literal]
  | _, arguments => arguments

mutual

def withoutMaps : Tree → Tree
  | .absent => .absent
  | .identifier name => .identifier name
  | .word text => .word text
  | .token text => .token text
  | .string literal => .string literal
  | .template chunks holes => .template chunks (withoutMapsAll holes)
  | .tagged start tag chunks holes => .tagged start tag.withoutMaps chunks (withoutMapsAll holes)
  | .call start callee arguments =>
    .call start callee.withoutMaps (emptyMap callee.withoutMaps (withoutMapsAll arguments))
  | .object properties hasComma => .object (withoutMapsAll properties) hasComma
  | .property key value => .property key.withoutMaps value.withoutMaps
  | .declarator target value => .declarator target.withoutMaps value.withoutMaps
  | .node form children => .node form (withoutMapsAll children)

def withoutMapsAll : List Tree → List Tree
  | [] => []
  | tree :: rest => tree.withoutMaps :: withoutMapsAll rest

end

theorem withoutMapsAll_eq_map (trees : List Tree) :
    withoutMapsAll trees = trees.map withoutMaps := by
  induction trees with
  | nil => simp [withoutMapsAll]
  | cons tree rest ih => simp [withoutMapsAll, ih]

theorem withoutMaps_eq_identifier {tree : Tree} {name : String} :
    tree.withoutMaps = .identifier name ↔ tree = .identifier name := by
  cases tree <;> simp [withoutMaps]

end Tree

def Item.withoutMaps : Item → Item
  | .importing declaration => .importing declaration
  | .code tree => .code tree.withoutMaps

def Program.withoutMaps (program : Program) : Program :=
  { program with items := program.items.map Item.withoutMaps }

end JavaScript

def Job.withSourceMap (job : Job) (choice : Option Bool) : Job :=
  { job with settings := { job.settings with
      options := { job.settings.options with sourceMap := choice } } }

namespace Expansion

open Tree

variable {job : Job} {choice : Option Bool} {state : Expansion}

theorem withoutMapsAll_elements (holes : List Tree) (pieces : List String) :
    withoutMapsAll (elements holes pieces) = elements (withoutMapsAll holes) pieces := by
  simp only [withoutMapsAll_eq_map, elements, List.map_map]
  refine List.map_congr_left fun piece _ => ?_
  cases hindex : Marker.index? piece with
  | none => simp [hindex, text, withoutMaps]
  | some index => cases hhole : holes[index]? <;> simp [hindex, hhole, text, withoutMaps]

theorem withoutMaps_callFor (start : Option Site) (name : String) (holes : List Tree)
    (pieces : List String) :
    (callFor job start (.identifier name) holes pieces).withoutMaps =
      .call start (.identifier name)
        [.call none (.node .member [.node (.array false) (elements (withoutMapsAll holes) pieces),
          .word "join"]) [.text ""], .text ""] := by
  simp [callFor, withoutMaps, withoutMapsAll, emptyMap, isJoined, text, withoutMapsAll_elements]

theorem emptyMap_nil (callee : Tree) : emptyMap callee [] = [] := by
  cases callee <;> rfl

theorem emptyMap_cons (callee first : Tree) (rest : List Tree) :
    ∃ rest', emptyMap callee (first :: rest) = first :: rest' := by
  unfold emptyMap
  split
  · rename_i heq
    obtain ⟨rfl, rfl⟩ := List.cons.inj heq
    split <;> exact ⟨_, rfl⟩
  · exact ⟨rest, rfl⟩

theorem emptyMap_of_not_joined (callee first : Tree) (rest : List Tree)
    (h : first.isJoined = false) : emptyMap callee (first :: rest) = first :: rest := by
  unfold emptyMap
  split
  · rename_i heq
    obtain ⟨rfl, rfl⟩ := List.cons.inj heq
    rw [if_neg (Bool.eq_false_iff.mp h)]
  · rfl

theorem withoutMaps_nameProperty (name : String) :
    (nameProperty name).withoutMaps = nameProperty name := by
  simp [nameProperty, text, withoutMaps]

-- A name goes into an object, and an object is not joined from pieces.
theorem withoutMaps_insertName (name : String) (value : Tree) :
    (insertName name value).withoutMaps = insertName name value.withoutMaps := by
  cases value with
  | call start callee arguments =>
    cases arguments with
    | nil =>
      have hmade :=
        emptyMap_of_not_joined callee.withoutMaps (.object [nameProperty name] false) [] rfl
      simp only [insertName, withoutMaps, withoutMapsAll, withoutMaps_nameProperty, emptyMap_nil,
        hmade]
    | cons first rest =>
      obtain ⟨rest', hrest⟩ :=
        emptyMap_cons callee.withoutMaps first.withoutMaps (withoutMapsAll rest)
      cases first with
      | object properties hasComma =>
        have hobject (properties : List Tree) := emptyMap_of_not_joined callee.withoutMaps
          (.object properties hasComma) (withoutMapsAll rest) rfl
        simp only [insertName, withoutMaps, withoutMapsAll, withoutMaps_nameProperty, hobject]
      | _ =>
        simp only [withoutMaps] at hrest
        simp only [insertName, withoutMaps, withoutMapsAll, hrest]
  | _ => simp only [insertName, withoutMaps]

theorem withoutMaps_withName {value value' : Tree} (name : Option String)
    (h : value'.withoutMaps = value.withoutMaps) :
    (withName name value').withoutMaps = (withName name value).withoutMaps := by
  cases name with
  | none => exact h
  | some name =>
    simp only [withName, Option.map_some, Option.getD_some, withoutMaps_insertName, h]

theorem nameDeclarator_withSourceMap (target value : Tree) :
    state.nameDeclarator (job.withSourceMap choice) target value =
      state.nameDeclarator job target value := rfl

theorem piecesOf_withSourceMap (chunks : List String) :
    state.piecesOf (job.withSourceMap choice) chunks = state.piecesOf job chunks := rfl

theorem visitImport_withSourceMap (declaration : ImportDeclaration) :
    state.visitImport (job.withSourceMap choice) declaration =
      state.visitImport job declaration := rfl

theorem isTracked_withoutMaps (state : Expansion) (tag : Tree) :
    state.isTracked tag.withoutMaps = state.isTracked tag := by
  cases tag <;> rfl

theorem expandTemplate_withSourceMap (start : Option Site) (chunks : List String)
    {tag tag' : Tree} {holes holes' : List Tree} (htag : tag'.withoutMaps = tag.withoutMaps)
    (hholes : withoutMapsAll holes' = withoutMapsAll holes) :
    let made := state.expandTemplate job start tag chunks holes
    let made' := state.expandTemplate (job.withSourceMap choice) start tag' chunks holes'
    made'.1.withoutMaps = made.1.withoutMaps ∧ made'.2 = made.2 := by
  have htracked : state.isTracked tag' = state.isTracked tag := by
    rw [← isTracked_withoutMaps, htag, isTracked_withoutMaps]
  unfold expandTemplate
  rw [htracked, piecesOf_withSourceMap]
  split
  · rename_i hcss
    cases tag with
    | identifier name =>
      obtain rfl := withoutMaps_eq_identifier.mp htag
      exact ⟨by simp only [withoutMaps_callFor, hholes], rfl⟩
    | _ => cases hcss
  · exact ⟨by simp only [withoutMaps, htag, hholes], rfl⟩

theorem walk_withSourceMap (job : Job) (choice : Option Bool) :
    Walk job
      (fun tree state tree' state' =>
        (visit (job.withSourceMap choice) tree state).1.withoutMaps = tree'.withoutMaps ∧
          (visit (job.withSourceMap choice) tree state).2 = state')
      (fun trees state trees' state' =>
        withoutMapsAll (visitAll (job.withSourceMap choice) trees state).1 = withoutMapsAll trees' ∧
          (visitAll (job.withSourceMap choice) trees state).2 = state') where
  failed tree state hfailed := by
    rw [visit_failed hfailed]
    exact ⟨rfl, rfl⟩
  leaf tree state hleaf := by
    rw [visit_leaf hleaf]
    exact ⟨rfl, rfl⟩
  template chunks _ _ _ _ _ ih := by
    obtain ⟨hholes, hstate⟩ := ih
    rw [visit_template]
    exact ⟨by simp only [withoutMaps, hholes], hstate⟩
  tagged start chunks _ _ _ _ _ _ _ hok _ _ ih₁ ih₂ := by
    obtain ⟨htag, rfl⟩ := ih₁
    obtain ⟨hholes, rfl⟩ := ih₂
    rw [visit_tagged hok]
    exact expandTemplate_withSourceMap start chunks htag hholes
  call start _ _ _ _ _ _ _ _ _ ih₁ ih₂ := by
    obtain ⟨hcallee, rfl⟩ := ih₁
    obtain ⟨harguments, rfl⟩ := ih₂
    rw [visit_call]
    exact ⟨by simp only [withoutMaps, hcallee, harguments], rfl⟩
  object hasComma _ _ _ _ _ ih := by
    obtain ⟨hproperties, hstate⟩ := ih
    rw [visit_object]
    exact ⟨by simp only [withoutMaps, hproperties], hstate⟩
  property _ _ ih₁ ih₂ := by
    obtain ⟨hkey, rfl⟩ := ih₁
    obtain ⟨hvalue, rfl⟩ := ih₂
    rw [visit_property]
    exact ⟨by simp only [withoutMaps, hkey, hvalue], rfl⟩
  declarator hok _ _ ih₁ ih₂ := by
    obtain ⟨htarget, rfl⟩ := ih₁
    obtain ⟨hvalue, rfl⟩ := ih₂
    rw [visit_declarator hok, nameDeclarator_withSourceMap]
    exact ⟨by simp only [withoutMaps, htarget, withoutMaps_withName _ hvalue], rfl⟩
  node form _ _ _ _ _ ih := by
    obtain ⟨hchildren, hstate⟩ := ih
    rw [visit_node]
    exact ⟨by simp only [withoutMaps, hchildren], hstate⟩
  nil _ := ⟨rfl, rfl⟩
  cons _ _ ih₁ ih₂ := by
    obtain ⟨htree, rfl⟩ := ih₁
    obtain ⟨hrest, rfl⟩ := ih₂
    rw [visitAll_cons]
    exact ⟨by simp only [withoutMapsAll, htree, hrest], rfl⟩

theorem visitItems_withSourceMap (job : Job) (choice : Option Bool) (items : List Item)
    (state : Expansion) :
    (visitItems (job.withSourceMap choice) items state).1.map Item.withoutMaps =
        (visitItems job items state).1.map Item.withoutMaps ∧
      (visitItems (job.withSourceMap choice) items state).2 = (visitItems job items state).2 := by
  induction items generalizing state with
  | nil => exact ⟨rfl, rfl⟩
  | cons item rest ih =>
    cases item with
    | importing declaration =>
      obtain ⟨hrest, hstate⟩ := ih (state.visitImport job declaration).2
      rw [visitItems_importing, visitItems_importing, visitImport_withSourceMap]
      exact ⟨by simp only [List.map_cons, hrest], hstate⟩
    | code tree =>
      obtain ⟨htree, hsame⟩ := (walk_withSourceMap job choice).one tree state
      obtain ⟨hrest, hstate⟩ := ih (visit job tree state).2
      rw [visitItems_code, visitItems_code]
      dsimp only
      rw [hsame]
      exact ⟨by simp only [List.map_cons, Item.withoutMaps, htree, hrest], hstate⟩

end Expansion

theorem source_maps_apart (job : Job) (choice : Option Bool) (session : Session)
    (program : Program) :
    let outcome := job.run session program
    let other := (job.withSourceMap choice).run session program
    other.calls = outcome.calls ∧ other.failure = outcome.failure ∧
      other.session = outcome.session ∧
      other.program.withoutMaps = outcome.program.withoutMaps := by
  obtain ⟨hitems, hstate⟩ :=
    Expansion.visitItems_withSourceMap job choice program.items { session }
  refine ⟨?_, ?_, ?_, ?_⟩
  · exact congrArg (fun state => (state.finish job).calls) hstate
  · exact congrArg (fun state => (state.finish job).failure) hstate
  · exact congrArg (fun state => (state.finish job).session) hstate
  · exact congrArg (fun items => { program with items }) hitems

end ScopedStyles
