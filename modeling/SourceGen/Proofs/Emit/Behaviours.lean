import SourceGen.Emit.OpcodeText
import SourceGen.Proofs.Emit.Signatures

/-!
# Texts of behaviours

A behaviour has a template over the opcodes, with a body for those that do not override it, a specialisation
for each opcode that does, and a dispatcher. This takes the opcode as an argument before the others and leads
it to the template.
-/

namespace SourceGen.Emit

open Spec Text

/-! ## Texts -/

/-- A case of a switch: its label and what is done there. -/
def caseText (label action : String) : String :=
  "case " ++ label ++ ":" ++ action

section Texts

variable (name : String) (behaviour : Behaviour)

/-- A behaviour for opcodes in general. -/
def generalSignature : Signature where
  templates := ["_GENERATED_OPCODE OPCODE"]
  front := behaviour.out ++ " " ++ name
  params := behaviour.args.map withoutDefault

/-- A behaviour for a single opcode. -/
def specializedSignature (opcode : String) : Signature where
  templates := [""]
  front := behaviour.out ++ " " ++ name ++ "<" ++ opcode ++ ">"
  params := behaviour.args.map withoutDefault

def dispatcherRoutine : Routine where
  owner := none
  template := none
  result := behaviour.out ++ " "
  name := name
  params := { name := "opcode", type := "_GENERATED_OPCODE" } :: behaviour.args

/-- The general form of a behaviour, behind the comment on it if there is any. -/
def generalText : String :=
  let definition := (generalSignature name behaviour).text ++ braces (bodyText behaviour.fallback)
  let comment := docComment (behaviour.description.getD "")
  if comment = "" then definition else comment ++ "\n" ++ definition

/-- The case of an opcode calls the behaviour for it with the names of the arguments. -/
def dispatchCase (opcode : String) : String :=
  caseText opcode (" return " ++ name ++ "<" ++ opcode ++ ">(" ++
    join ", " (behaviour.args.map (·.name)) ++ ");")

/-- A dispatcher with the given cases. -/
def dispatchingText (cases : List String) (fatal : String) : String :=
  (dispatcherRoutine name behaviour).definition.text ++ braces ("    switch (opcode)\n    \x7b\n        " ++
    join "\n        " cases ++ "\n        default: break;\n    \x7d\n    " ++ fatal ++ "(\"cannot " ++ name ++
      " with a bad opcode\");")

end Texts

/-! ## What is emitted -/

namespace BehaviourUnit

theorem genericText_eq (unit : BehaviourUnit) : unit.genericText = generalText unit.name unit.behaviour := by
  have hopening : ")\n\x7b\n    " = ")" ++ ("\n\x7b\n" ++ "    ") := rfl
  have htemplate : "template <_GENERATED_OPCODE OPCODE>\n" =
      "template <" ++ ("_GENERATED_OPCODE OPCODE" ++ ">\n") := rfl
  unfold genericText generalText
  simp only [generalSignature, Signature.text, templateLines, braces, ← blanks_append_reindent,
    renderArguments_false, hopening, htemplate, String.isEmpty_iff, String.append_empty, String.append_assoc]

theorem specializationHead_eq (unit : BehaviourUnit) (opcode : String) :
    unit.specializationHead opcode = (specializedSignature unit.name unit.behaviour opcode).text := by
  have htemplate : "template <>\n" = "template <" ++ ">\n" := rfl
  have hopening : "> (" = ">" ++ " (" := rfl
  unfold specializationHead
  simp only [specializedSignature, Signature.text, templateLines, renderArguments_false, hopening, htemplate,
    String.append_empty, String.append_assoc]

theorem specializationText_eq (unit : BehaviourUnit) (spec : Specialization) :
    unit.specializationText spec =
      (specializedSignature unit.name unit.behaviour spec.opcode).text ++ braces (bodyText spec.body) := by
  have hopening : "\n\x7b\n    " = "\n\x7b\n" ++ "    " := rfl
  rw [specializationText, specializationHead_eq, braces, ← blanks_append_reindent, hopening]
  simp only [String.append_assoc]

theorem dispatcherHead_true (unit : BehaviourUnit) :
    unit.dispatcherHead true = (dispatcherRoutine unit.name unit.behaviour).declaration.text := by
  unfold dispatcherHead
  simp only [renderArguments_true, Signature.text, Routine.declaration, dispatcherRoutine, Option.toList_none,
    templateLines, String.empty_append]
  rfl

theorem dispatcherHead_false (unit : BehaviourUnit) :
    unit.dispatcherHead false = (dispatcherRoutine unit.name unit.behaviour).definition.text := by
  unfold dispatcherHead
  simp only [renderArguments_false, Signature.text, Routine.definition, Routine.templates, Routine.qualifier,
    dispatcherRoutine, Option.toList_none, Option.bind_none, Option.map_none, Option.getD_none, List.append_nil,
    templateLines, String.empty_append]
  rfl

theorem dispatchLine_eq (unit : BehaviourUnit) (opcode : String) :
    unit.dispatchLine opcode = dispatchCase unit.name unit.behaviour opcode := by
  have hlabel : ": return " = ":" ++ " return " := rfl
  unfold dispatchLine dispatchCase caseText argumentNames
  simp only [hlabel, String.append_assoc]

theorem dispatcherText_eq (unit : BehaviourUnit) (opcodes : List String) (fatal : String) :
    unit.dispatcherText opcodes fatal = dispatchingText unit.name unit.behaviour
      (opcodes.map (dispatchCase unit.name unit.behaviour)) fatal := by
  have hopening : "\n\x7b\n    switch (opcode)\n    \x7b\n        " =
      "\n\x7b\n" ++ "    switch (opcode)\n    \x7b\n        " := rfl
  have hclosing : " with a bad opcode\");\n\x7d" = " with a bad opcode\");" ++ "\n\x7d" := rfl
  have hlines : unit.dispatchLine = dispatchCase unit.name unit.behaviour := funext unit.dispatchLine_eq
  rw [dispatcherText, dispatcherHead_false, dispatchingText, braces, hopening, hclosing, hlines]
  simp only [String.append_assoc]

theorem declarations_eq (unit : BehaviourUnit) : unit.declarations =
    generalText unit.name unit.behaviour ::
      unit.specializations.map (fun spec ↦
        (specializedSignature unit.name unit.behaviour spec.opcode).text ++ ";") ++
      [(dispatcherRoutine unit.name unit.behaviour).declaration.text ++ ";"] := by
  rw [declarations, genericText_eq, dispatcherHead_true]
  simp only [specializationHead_eq]

theorem definitions_eq (unit : BehaviourUnit) (opcodes : List String) (fatal : String) :
    unit.definitions opcodes fatal =
      unit.specializations.map (fun spec ↦
        (specializedSignature unit.name unit.behaviour spec.opcode).text ++ braces (bodyText spec.body)) ++
      [dispatchingText unit.name unit.behaviour (opcodes.map (dispatchCase unit.name unit.behaviour)) fatal] := by
  rw [definitions, dispatcherText_eq]
  simp only [← specializationText_eq]

end BehaviourUnit

end SourceGen.Emit
