import Mathlib.Data.List.TakeWhile
import SourceGen.Spec.Model

/-!
# What an interface declares

The functions and classes of an interface, each with the place where it is declared. A function that is
declared twice has two places in the lists.
-/

namespace SourceGen.Spec

open Text

/-- A function of a namespace, or of a class in it. -/
structure FunctionSite where
  namespaceName : String
  owner : Option ClassDecl
  function : FunctionDecl
deriving DecidableEq

structure ClassSite where
  namespaceName : String
  cls : ClassDecl
deriving DecidableEq

/-- A function as a member of a class. -/
def ClassSite.member (site : ClassSite) (function : FunctionDecl) : FunctionSite :=
  ⟨site.namespaceName, some site.cls, function⟩

def ClassSite.functions (site : ClassSite) : List FunctionSite :=
  site.cls.functions.map site.member

def contentClasses (name : String) (content : NamespaceContent) : List ClassSite :=
  content.classes.map (⟨name, ·⟩)

/-- The functions of a namespace, those of its classes behind its own. -/
def contentFunctions (name : String) (content : NamespaceContent) : List FunctionSite :=
  content.functions.map (⟨name, none, ·⟩) ++ (contentClasses name content).flatMap (·.functions)

def Api.classSites (api : Api) : List ClassSite :=
  api.namespaces.entries.flatMap fun entry ↦ contentClasses entry.1 entry.2

def Api.functionSites (api : Api) : List FunctionSite :=
  api.namespaces.entries.flatMap fun entry ↦ contentFunctions entry.1 entry.2

theorem namespaceName_of_mem_contentFunctions {name : String} {content : NamespaceContent}
    {site : FunctionSite} (h : site ∈ contentFunctions name content) : site.namespaceName = name := by
  rcases List.mem_append.mp h with hfree | hmember
  · obtain ⟨function, -, rfl⟩ := List.mem_map.mp hfree
    rfl
  · obtain ⟨classSite, hclass, hfunction⟩ := List.mem_flatMap.mp hmember
    obtain ⟨cls, -, rfl⟩ := List.mem_map.mp hclass
    obtain ⟨function, -, rfl⟩ := List.mem_map.mp hfunction
    rfl

/-! ## Templates -/

/-- A template list that is not blank. -/
def HasTemplate (template : Option String) : Prop :=
  ∃ text, template = some text ∧ ¬ isBlankText text

/-- A function is a template by itself or through its class. -/
def FunctionSite.InTemplate (site : FunctionSite) : Prop :=
  HasTemplate site.function.template ∨ ∃ cls, site.owner = some cls ∧ HasTemplate cls.template

theorem trimChars_eq_nil_iff {cs : List Char} : trimChars cs = [] ↔ cs.all isBlank = true := by
  rw [trimChars, trimEndChars, dropEndWhile, List.reverse_eq_nil_iff, List.dropWhile_eq_nil_iff]
  simp only [List.mem_reverse, List.all_eq_true]
  constructor
  · intro h c hc
    have hsplit : cs.takeWhile isBlank ++ cs.dropWhile isBlank = cs := List.takeWhile_append_dropWhile
    rcases List.mem_append.mp (hsplit ▸ hc) with hfront | hback
    · exact List.mem_takeWhile_imp hfront
    · exact h c hback
  · exact fun h c hc ↦ h c ((List.dropWhile_suffix isBlank).subset hc)

theorem isEmpty_trim (text : String) : (trim text).isEmpty = isBlankText text := by
  rw [Bool.eq_iff_iff, String.isEmpty_iff, ← String.toList_inj, trim, String.toList_ofList]
  exact trimChars_eq_nil_iff

theorem isSome_usedTemplate_iff {template : Option String} :
    (usedTemplate template).isSome = true ↔ HasTemplate template := by
  cases template with
  | none => simp [usedTemplate, HasTemplate]
  | some text => simp [usedTemplate, HasTemplate, isEmpty_trim]

end SourceGen.Spec
