import SourceGen.Binding.Binder
import SourceGen.Emit.Fill
import SourceGen.Emit.Interface

/-!
# The binding files

A header names the type that stands for template parameters, and every group of namespaces has a unit of
its own that binds what the interface declares.
-/

namespace SourceGen.Binding

open Spec Text

def bindingHeader : String := "pyapi.hpp"

def unitFile (group : String) : String := "pyapi_" ++ group ++ ".cpp"

/-- The groups in the order of their first namespaces, each with its namespaces. -/
def groups (api : Api) : OrderedMap (Entries NamespaceContent) :=
  api.namespaces.entries.foldl (fun found entry ↦
    found.alter (groupOf entry.1) fun before ↦ before.getD [] ++ [entry]) ∅

def unitLines : List String := [
  "namespace py = pybind11;",
  "",
  "PYBIND11_MODULE(${modname}, m_${modname})",
  "\x7b",
  "m_${modname}.doc() = \"pybind for ${modname} api\";",
  "",
  "${input_defs}",
  "",
  "#ifdef CUSTOM_PYBIND_EXT",
  "CUSTOM_PYBIND_EXT(m_${modname})",
  "#endif",
  "",
  "${content}",
  "",
  "\x7d",
  ""]

def blockText (block : List Statement) : String :=
  join "\n" (block.map Statement.text)

namespace Binder

/-- The statements of a unit in the order of its text; the classes of result types come first. -/
def statements (binder : Binder) : List Statement :=
  binder.types.values ++ binder.blocks.flatten

def unitText (binder : Binder) (group : Group) : Except GenError String :=
  Emit.fill unitLines
    [("modname", group.name),
      ("input_defs", join "\n" (binder.types.values.map Statement.text)),
      ("content", join "\n\n" (binder.blocks.map blockText))]

end Binder

def headerText (api : Api) (config : Config) : String :=
  "// scalar type substituted for template parameters in bindings\nusing " ++ config.bindingAlias ++
    " = " ++ api.binding.bindType ++ ";\n"

def unitIncludes (api : Api) : List String :=
  ["\"pybind11/pybind11.h\"", "\"pybind11/stl.h\"", "\"pybind11/operators.h\""] ++
    api.binding.includes

/-- The binder of a group once all its namespaces are bound. -/
def bindGroup (group : Group) (namespaces : Entries NamespaceContent) : Run Binder :=
  Binder.bindNamespaces {} group namespaces

def unitFiles (api : Api) (config : Config) :
    Entries (Entries NamespaceContent) → Run (Entries SourceFile)
  | [] => pure []
  | (name, namespaces) :: rest => do
    let group : Group := ⟨name, api, config.bindingAlias⟩
    let binder ← bindGroup group namespaces
    let content ← Run.ofExcept (binder.unitText group)
    let files ← unitFiles api config rest
    pure ((unitFile name, { content, includes := unitIncludes api,
                            references := [bindingHeader, Emit.interfaceHeader] }) :: files)

def files (api : Api) (config : Config) : Run (Entries SourceFile) := do
  let units ← unitFiles api config (groups api).entries
  pure ((bindingHeader, { content := headerText api config }) :: units)

end SourceGen.Binding
