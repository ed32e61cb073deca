import SourceGen.Emit.Interface
import SourceGen.Proofs.Emit.Structs
import SourceGen.Proofs.Outcome

/-!
# Items of the interface files

The interface files are made of structs, declarations and definitions. A struct holds the declarations of
its functions, and the definition of a function begins with the null tests of its arguments.
-/

namespace SourceGen.Emit

open Spec Text

/-! ## Null tests -/

/-- A function does not take null for an argument that asks for the test and whose type contains one of the
patterns. -/
def NeedsTest (api : Api) (arg : Argument) : Prop :=
  arg.checkNull = true ∧ ∃ pattern ∈ api.nullableTypes, Within pattern arg.type

instance {api : Api} {arg : Argument} : Decidable (NeedsTest api arg) :=
  inferInstanceAs (Decidable (_ ∧ ∃ pattern ∈ api.nullableTypes, pattern.toList <:+: arg.type.toList))

theorem isNullable_iff {api : Api} {arg : Argument} : api.isNullable arg = true ↔ NeedsTest api arg := by
  simp only [Api.isNullable, NeedsTest, Bool.and_eq_true, List.any_eq_true, contains_iff]

theorem guarded_eq (api : Api) (args : List Argument) :
    guarded api args = args.filter (NeedsTest api ·) := by
  refine List.filter_congr fun arg _ ↦ ?_
  rw [Bool.eq_iff_iff, isNullable_iff, decide_eq_true_iff]

/-- The condition under which one of the tested arguments is null. -/
def testText : List Argument → String
  | [] => "false"
  | tested => join " || " (tested.map fun arg ↦ arg.name ++ " == nullptr")

/-! ## Special definitions -/

/-- What a class may say about its construction, its copy and its move. -/
inductive SpecialBlock where
  | construct (init : Construction)
  | transfer (kind : TransferKind) (spec : Transfer)
deriving DecidableEq

def specialBlocks (cls : ClassDecl) : List SpecialBlock :=
  (cls.init.map .construct).toList ++ (cls.copy.map (.transfer .copy)).toList ++
    (cls.move.map (.transfer .move)).toList

structure SpecialSite where
  classSite : ClassSite
  block : SpecialBlock
deriving DecidableEq

def specialSites (site : ClassSite) : List SpecialSite :=
  (specialBlocks site.cls).map (⟨site, ·⟩)

/-! ## Items -/

/-- A part of the interface files. A struct declares the functions given with it, and a definition tests the
arguments given with it. -/
inductive Item where
  | struct (site : ClassSite) (publics privates : List FunctionDecl)
  | declaration (site : FunctionSite)
  | definition (site : FunctionSite) (tested : List Argument)
  | special (site : SpecialSite) (entries : Entries String)
deriving DecidableEq

namespace Item

/-- The functions that an item declares. -/
def declares : Item → List FunctionSite
  | struct site publics privates => (publics ++ privates).map site.member
  | declaration site => [site]
  | _ => []

/-- The functions that an item defines. -/
def defines : Item → List FunctionSite
  | definition site _ => [site]
  | _ => []

def structs : Item → List ClassSite
  | struct site _ _ => [site]
  | _ => []

def specials : Item → List SpecialSite
  | special site _ => [site]
  | _ => []

def namespaceName : Item → String
  | struct site _ _ => site.namespaceName
  | declaration site => site.namespaceName
  | definition site _ => site.namespaceName
  | special site _ => site.classSite.namespaceName

/-- The definition of a function tests the arguments that need it, each of them once and in their order. -/
def TestsArguments (api : Api) : Item → Prop
  | definition site tested => tested = site.function.args.filter (NeedsTest api ·)
  | _ => True

end Item

/-! ## Texts of items -/

/-- What a constructor says between its parameters and its body: the entries of its init list. -/
def clauseText (entries : Entries String) : String :=
  if entries = [] then ""
  else " : " ++ join ", " (entries.map fun entry ↦ entry.1 ++ "(" ++ entry.2 ++ ")")

/-- The definition of a function, which first refuses null for the tested arguments. -/
def definitionText (api : Api) (config : Config) (site : FunctionSite) (tested : List Argument) : String :=
  (functionRoutine api site).definition.text ++ braces
    ("    if (" ++ testText tested ++ ")\n    \x7b\n        " ++ config.fatal ++ "(\"cannot " ++
      site.function.ident ++ " with a null argument\");\n    \x7d\n" ++ bodyText site.function.out.text)

namespace SpecialBlock

/-- A copy and a move are a constructor and an assignment. -/
def routines (cls : ClassDecl) : SpecialBlock → List Routine
  | construct init => [constructorRoutine cls init.args]
  | transfer kind spec =>
    [takingRoutine cls kind spec, assignmentRoutine cls (takenParameter cls spec.other kind)]

/-- What a block says before its init list: the signature of the constructor. -/
def opening (cls : ClassDecl) : SpecialBlock → String
  | construct init => (constructorRoutine cls init.args).definition.text
  | transfer kind spec => (takingRoutine cls kind spec).definition.text

/-- What a block says behind its init list: the body, and the assignment of a copy or move. -/
def closing (cls : ClassDecl) : SpecialBlock → String
  | construct init => braces (bodyText init.body)
  | transfer kind spec => braces (bodyText spec.body) ++ "\n\n" ++
    ((assignmentRoutine cls (takenParameter cls spec.other kind)).definition.text ++
      braces (bodyText spec.body ++ "\n    return *this;"))

def text (cls : ClassDecl) (entries : Entries String) (block : SpecialBlock) : String :=
  block.opening cls ++ clauseText entries ++ block.closing cls

end SpecialBlock

def Item.text (api : Api) (config : Config) : Item → String
  | struct site publics privates => structText api site publics privates
  | declaration site => declarationText api site
  | definition site tested => definitionText api config site tested
  | special site entries => site.block.text site.classSite.cls entries

theorem initListText_eq (entries : Entries String) : initListText entries = clauseText entries := by
  cases entries with
  | nil => rfl
  | cons first rest =>
    rw [clauseText, if_neg (List.cons_ne_nil first rest)]
    rfl

theorem braces_bodyText (body after : String) :
    "\n\x7b\n    " ++ (reindent body "    " ++ after) = "\n\x7b\n" ++ (bodyText body ++ after) := by
  have hopening : "\n\x7b\n    " = "\n\x7b\n" ++ "    " := rfl
  rw [hopening, ← blanks_append_reindent]
  simp only [String.append_assoc]

theorem constructText_eq (cls : ClassDecl) (init : Construction) (entries : Entries String) :
    constructText cls init entries = (SpecialBlock.construct init).text cls entries := by
  unfold constructText SpecialBlock.text
  simp only [SpecialBlock.opening, SpecialBlock.closing, definition_constructorRoutine, initListText_eq,
    String.append_assoc, braces_bodyText, braces]

theorem transferText_eq (cls : ClassDecl) (kind : TransferKind) (spec : Transfer) (entries : Entries String) :
    transferText cls kind spec entries = (SpecialBlock.transfer kind spec).text cls entries := by
  have hbody : ")\n\x7b\n    " = ")" ++ "\n\x7b\n    " := rfl
  have hlines : "\n\x7d\n\n" = "\n\x7d" ++ "\n\n" := rfl
  have hreturn : "\n    return *this;\n\x7d" = "\n    return *this;" ++ "\n\x7d" := rfl
  unfold transferText SpecialBlock.text
  simp only [SpecialBlock.opening, SpecialBlock.closing, definition_takingRoutine,
    definition_assignmentRoutine, initListText_eq, hbody, hlines, hreturn, String.append_assoc,
    braces_bodyText, braces]

/-- The definition of a function with the tests that it needs. -/
def definitionItem (api : Api) (site : FunctionSite) : Item :=
  .definition site (guarded api site.function.args)

theorem text_definitionItem (api : Api) (config : Config) (site : FunctionSite) :
    (definitionItem api site).text api config =
      functionDefinition site.function api config (site.owner.map memberScope) := by
  have hguard : nullGuard api site.function.args = testText (guarded api site.function.args) := rfl
  have hparameters : ")\n" = ")" ++ "\n" := rfl
  have hbrace : "\n\x7b\n" = "\n" ++ "\x7b\n" := rfl
  have hopening : "\x7b\n    if (" = "\x7b\n" ++ "    if (" := rfl
  have hbody : " with a null argument\");\n    \x7d\n    " =
      " with a null argument\");\n    \x7d\n" ++ "    " := rfl
  unfold functionDefinition
  rw [definitionItem, Item.text, definitionText, definition_functionRoutine]
  simp only [braces, ← blanks_append_reindent, hguard, hparameters, hbrace, hopening, hbody,
    String.append_assoc]

theorem testsArguments_definitionItem (api : Api) (site : FunctionSite) :
    (definitionItem api site).TestsArguments api :=
  guarded_eq api site.function.args

/-- The struct of a class. -/
def structItem (site : ClassSite) : Item :=
  .struct site (publicFunctions site.cls) (privateFunctions site.cls)

theorem declares_structItem (site : ClassSite) : (structItem site).declares.Perm site.functions :=
  (publicFunctions_append_perm site.cls).map _

/-- The item of a definition that belongs to a class. -/
def memberItem (api : Api) (site : ClassSite) : MemberDefinition → Item
  | .construct init entries => .special ⟨site, .construct init⟩ entries
  | .transfer kind spec entries => .special ⟨site, .transfer kind spec⟩ entries
  | .function decl => definitionItem api (site.member decl)

theorem text_memberItem (api : Api) (config : Config) (site : ClassSite)
    (definition : MemberDefinition) :
    (memberItem api site definition).text api config = definition.text site.cls api config := by
  cases definition with
  | function decl => exact text_definitionItem api config (site.member decl)
  | construct init entries => exact (constructText_eq site.cls init entries).symm
  | transfer kind spec entries => exact (transferText_eq site.cls kind spec entries).symm

end SourceGen.Emit
