import Mathlib.Tactic.SplitIfs
import ScopedStyles.Build.Expansion

namespace ScopedStyles

open JavaScript

namespace JavaScript

def ImportDeclaration.ofName (exported source binding : String) : ImportDeclaration where
  specifiers := [.named (if exported = binding then none else some (.word exported)) binding]
  source := { value := source }

def Item.imports : List Item :=
  [.importing (.ofName "bemed" "react-bemed" "make"),
    .importing (.ofName "css" "react-bemed/css" "css")]

def Tree.constant (binding : String) (value : Tree) : Tree :=
  .node (.declaration "const") [.declarator (.identifier binding) value]

def Tree.making (binding : String) (start : Option Site) (arguments : List Tree) : Tree :=
  .constant binding (.call start (.identifier "make") arguments)

def Tree.styled (start : Option Site) (chunks : List String) (holes : List Tree) : Tree :=
  .tagged start (.identifier "css") chunks holes

def Program.withImports (trees : List Tree) : Program where
  isModule := true
  shebang := none
  items := Item.imports ++ trees.map .code

end JavaScript

def Settings.inProduction : Settings where
  environment := { mode := .production }
  compiler := Compiler.wrap

def Job.inProduction (file : String) : Job :=
  ⟨.inProduction, some file, none⟩

namespace Expansion

variable {job : Job}

def aliasAfter (source exported : String) (declaration : ImportDeclaration)
    (current : Option String) : Option String :=
  if declaration.source.value = source then
    (aliasFor? exported declaration.specifiers).or current
  else current

theorem aliasAfter_eq_some {source exported name : String} {declaration : ImportDeclaration}
    {current : Option String} (h : aliasAfter source exported declaration current = some name) :
    current = some name ∨ (declaration.source.value = source ∧
      ∃ imported, ImportSpecifier.named imported name ∈ declaration.specifiers ∧
        importedName imported name = exported) := by
  unfold aliasAfter at h
  split at h
  · rename_i hsource
    rcases Option.or_eq_some_iff.mp h with hname | ⟨-, hcurrent⟩
    · obtain ⟨specifier, hmem, hnamed⟩ := List.mem_filterMap.mp (List.mem_of_getLast? hname)
      cases specifier with
      | named imported binding =>
        dsimp only at hnamed
        split at hnamed
        · rename_i himported
          cases hnamed
          exact .inr ⟨hsource, imported, hmem, himported⟩
        · cases hnamed
      | _ => cases hnamed
    · exact .inl hcurrent
  · exact .inl h

def redirect (job : Job) (declaration : ImportDeclaration) : ImportDeclaration :=
  if declaration.source.value = job.settings.options.target ∧ job.settings.options.precompile then
    { declaration with source := { value := job.settings.options.precompiledTarget } }
  else declaration

theorem visitImport_eq (declaration : ImportDeclaration) (state : Expansion) :
    state.visitImport job declaration =
      (redirect job declaration,
        { state with
          cssAlias :=
            aliasAfter job.settings.options.target Job.cssExport declaration state.cssAlias
          factoryAlias :=
            aliasAfter Job.factoryModule Job.factory declaration state.factoryAlias }) := by
  unfold visitImport aliasAfter redirect
  simp only [Bool.and_eq_true, decide_eq_true_eq]
  split_ifs <;> rfl

theorem importedName_ofName (exported binding : String) :
    importedName (if exported = binding then none else some (.word exported)) binding =
      exported := by
  split
  · rename_i h
    exact h.symm
  · rfl

theorem aliasAfter_ofName (source exported declared given binding : String)
    (current : Option String) :
    aliasAfter source exported (.ofName given declared binding) current =
      if declared = source ∧ given = exported then some binding else current := by
  have hspecifiers :
      aliasFor? exported (ImportDeclaration.ofName given declared binding).specifiers =
        if given = exported then some binding else none := by
    simp only [aliasFor?, ImportDeclaration.ofName, List.filterMap_cons, importedName_ofName]
    split_ifs <;> rfl
  rw [aliasAfter, hspecifiers]
  by_cases hgiven : given = exported
  · simp [ImportDeclaration.ofName, hgiven]
  · simp [hgiven]

end Expansion

end ScopedStyles
