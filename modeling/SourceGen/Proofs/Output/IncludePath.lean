import SourceGen.Output.Sink
import SourceGen.Proofs.Files.Components

/-!
# Include paths

Of the folder that files are written to, other files name what follows the components of a front. A front
that is none of its components, however much its text looks like one, leaves the folder as it is.
-/

namespace SourceGen

open Files

variable {folder front : String}

theorem components_includePath (hne : front ≠ "") (h : components front <+: components folder) :
    components front ++ components (includePath folder front) = components folder := by
  obtain ⟨rest, hrest, hcomponents⟩ := exists_stripFront?_eq hne h
  rw [includePath, if_neg (by simpa using hne), hrest]
  exact hcomponents

theorem includePath_of_not_isPrefix (h : ¬ components front <+: components folder) :
    includePath folder front = folder := by
  rw [includePath, stripFront?_of_not_isPrefix h]
  exact ite_self folder

/-- Where the text of a front ends inside a component of the folder, it is not what is taken off: the
component stays whole, and the folder is left as it stands unless what the front has of the component is a
lone dot. -/
theorem includePath_of_endsInside {part more : List Char} (h : EndsInside front folder part more) :
    front ++ includePath folder front ≠ folder ∧
      componentOf (part ++ more) ∈ components (includePath folder front) ∧
      (part ≠ ['.'] → includePath folder front = folder) := by
  by_cases hbegins : components front <+: components folder
  · obtain ⟨hdot, inner, hfolder⟩ := h.of_isPrefix hbegins
    have hrest := components_includePath h.front_ne_empty hbegins
    rw [hfolder, List.append_cancel_left_eq] at hrest
    refine ⟨fun htext ↦ h.head?_components_ne htext ?_, hrest ▸ List.mem_cons_self,
      fun hne ↦ absurd hdot hne⟩
    rw [hrest, List.head?_cons]
  · rw [includePath_of_not_isPrefix hbegins]
    refine ⟨fun htext ↦ h.front_ne_empty ?_, h.mem_components, fun _ ↦ rfl⟩
    have hlength := congrArg String.length htext
    rw [String.length_append] at hlength
    exact String.length_eq_zero_iff.mp (by omega)

/-- If a front names something and the components of the folder begin with its own, those of the include
path follow them; otherwise the folder is left as it stands. The text of a front that ends inside a component
is never taken off. -/
theorem includePath_takes_components (folder front : String) :
    (front ≠ "" ∧ components front <+: components folder →
      components front ++ components (includePath folder front) = components folder) ∧
    (¬ (front ≠ "" ∧ components front <+: components folder) → includePath folder front = folder) ∧
    ∀ part more, EndsInside front folder part more →
      front ++ includePath folder front ≠ folder ∧
        componentOf (part ++ more) ∈ components (includePath folder front) ∧
        (part ≠ ['.'] → includePath folder front = folder) := by
  refine ⟨fun ⟨hne, hbegins⟩ ↦ components_includePath hne hbegins, fun h ↦ ?_,
    fun _ _ ↦ includePath_of_endsInside⟩
  by_cases hempty : front = ""
  · rw [hempty]
    rfl
  · exact includePath_of_not_isPrefix fun hbegins ↦ h ⟨hempty, hbegins⟩

example : includePath "./out//gen/./api/" "./out/gen" = "api" := by
  decide +kernel

example : includePath "out/.gen" "out/." = ".gen" := by
  decide +kernel

end SourceGen
