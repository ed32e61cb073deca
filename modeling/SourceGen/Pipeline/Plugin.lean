import SourceGen.Binding.Files
import SourceGen.Emit.DtypeText
import SourceGen.Emit.Interface
import SourceGen.Emit.OpcodeText

/-!
# Plugins

A plugin sees the files generated so far and gives the files that take their place, or nothing. The
built-in plugins belong to one section of the specification each; they add their files and look at no
others.
-/

namespace SourceGen

open Spec (Document)

structure Plugin where
  id : String
  process : FileSet → Document → Config → Run (Option FileSet)

namespace Plugin

/-- What is noted when a document lacks the section that a plugin works on. -/
def missingSection (area : Area) (id : String) : Run (Option FileSet) :=
  ⟨[⟨.warn, area, "no relevant arguments found for plugin " ++ id⟩], .ok none⟩

/-- A plugin that adds files made of a section, and nothing where the section is missing. -/
def ofSection {σ : Type} (id : String) (area : Area) (find : Document → Option σ)
    (files : σ → Document → Config → Run (Entries SourceFile)) : Plugin where
  id := id
  process generated document config :=
    match find document with
    | none => missingSection area id
    | some part => do
      let added ← files part document config
      pure (some (generated.putAll added))

def opcodes : Plugin :=
  ofSection "OPCODE" .opcodes (·.opcode) fun ops _ config ↦
    Run.ofExcept (Emit.opcodeFiles ops config)

def dtypes : Plugin :=
  ofSection "DTYPE" .dtypes (·.dtype) fun dtypes document config ↦
    Run.ofExcept (Emit.dtypeFiles dtypes document config)

def interface : Plugin :=
  ofSection "API" .interface (·.api) fun api _ config ↦ Emit.interfaceFiles api config

def binding : Plugin :=
  ofSection "PYBINDER" .binding (·.api) fun api _ config ↦ Binding.files api config

/-- The built-in plugins in their usual order. -/
def builtin : List Plugin := [opcodes, dtypes, interface, binding]

def builtinIds : List String := builtin.map (·.id)

/-- The built-in plugin of an identifier; blanks around it and the case of letters do not count. -/
def find? (id : String) : Option Plugin :=
  let wanted := (Text.trimChars id.toList).map Char.toUpper
  builtin.find? fun plugin ↦ plugin.id.toList == wanted

end Plugin

end SourceGen
