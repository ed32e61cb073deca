import SourceGen.Proofs.ClassGraph.Paths
import SourceGen.Proofs.OrderedMap

/-!
# Specifications that can be emitted

What the sections of a document must satisfy so that files can be made of them. Validation asks for a part
of it only, and the emitters for all of it.
-/

namespace SourceGen.Spec

open ClassGraph

/-! ## Opcodes and scalar types -/

/-- An opcode of the section writes out a body of its own for a behaviour. -/
def HasBody (ops : OpcodeSection) (name behaviour : String) : Prop :=
  ∃ opcode text, (name, opcode) ∈ ops.opcodes.entries ∧
    (behaviour, .body text) ∈ opcode.overrides.entries

theorem hasBody_iff {ops : OpcodeSection} {name behaviour : String} :
    HasBody ops name behaviour ↔ ∃ opcode text, ops.opcodes.get? name = some opcode ∧
      opcode.overrides.get? behaviour = some (.body text) := by
  simp only [HasBody, OrderedMap.get?_eq_some_iff]

/-- Every override belongs to a declared behaviour, and every alias names an opcode with a body. -/
structure OverridesResolve (ops : OpcodeSection) : Prop where
  declared : ∀ name opcode, (name, opcode) ∈ ops.opcodes.entries →
    ∀ behaviour ∈ opcode.overrides.keys, behaviour ∈ ops.behaviours.keys
  direct : ∀ name opcode, (name, opcode) ∈ ops.opcodes.entries →
    ∀ behaviour aliased, (behaviour, .sameAs aliased) ∈ opcode.overrides.entries →
      HasBody ops aliased behaviour

/-- There is a type, and the default that is named is one of the types. -/
structure DefaultResolves (dtypes : OrderedMap Dtype) (named : Option String) : Prop where
  nonempty : dtypes.entries ≠ []
  declared : ∀ name, named = some name → name ∈ dtypes.keys

/-! ## Functions and classes -/

/-- A function bears a name or an operator symbol, and not both. -/
def NamedOnce (function : FunctionDecl) : Prop :=
  (function.name.isSome ∧ function.operator = none) ∨
    (function.name = none ∧ function.operator.isSome)

/-- Every entry of an init list names a declared member of the class. -/
def NamesMembers (cls : ClassDecl) (initList : OrderedMap String) : Prop :=
  ∀ key ∈ initList.keys, ∃ member ∈ cls.members, member.name = key

/-- The init lists with which objects are taken over name declared members. -/
structure TransfersNameMembers (cls : ClassDecl) : Prop where
  copy : ∀ spec, cls.copy = some spec → NamesMembers cls spec.initList
  move : ∀ spec, cls.move = some spec → NamesMembers cls spec.initList

structure ClassEmittable (cls : ClassDecl) : Prop where
  functions : ∀ function ∈ cls.functions, NamedOnce function
  init : ∀ spec, cls.init = some spec → NamesMembers cls spec.initList
  transfers : TransfersNameMembers cls

structure NamespaceEmittable (content : NamespaceContent) : Prop where
  acyclic : Acyclic content.classes
  classes : ∀ cls ∈ content.classes, ClassEmittable cls
  functions : ∀ function ∈ content.functions, NamedOnce function

/-- What the built-in plugins need of the sections of a document. -/
structure Emittable (document : Document) : Prop where
  opcodes : ∀ ops, document.opcode = some ops → ops.opcodes.entries ≠ [] ∧ OverridesResolve ops
  dtypes : ∀ dtypes, document.dtype = some dtypes → DefaultResolves dtypes document.defaultType
  interface : ∀ api, document.api = some api →
    ∀ name content, (name, content) ∈ api.namespaces.entries → NamespaceEmittable content

end SourceGen.Spec
