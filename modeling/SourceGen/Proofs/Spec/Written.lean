import SourceGen.Proofs.OrderedMap
import SourceGen.Proofs.Outcome
import SourceGen.Spec.Encode
import SourceGen.Value.Decode

/-!
# Fields that are written and read

A typed datum has a slot for every field of its type, and the slots that hold a value are written in their
order. No name has two slots, so a field is read back from the value of its slot, and a field
without a value takes its usual one.
-/

namespace SourceGen

/-! ## Written fields -/

namespace Entries

/-- The slots that hold a value, as fields. -/
def written (slots : Entries (Option Value)) : Entries Value :=
  slots.filterMap fun slot ↦ slot.2.map (slot.1, ·)

@[simp] theorem written_nil : written [] = [] := rfl

@[simp] theorem written_cons (name : String) (value : Option Value) (rest : Entries (Option Value)) :
    written ((name, value) :: rest) = (value.map (name, ·)).toList ++ written rest := by
  cases value <;> rfl

theorem mem_keys_of_written {name : String} {slots : Entries (Option Value)}
    (h : name ∈ (written slots).keys) : name ∈ slots.keys := by
  obtain ⟨field, hfield, rfl⟩ := List.mem_map.mp h
  obtain ⟨slot, hslot, hvalue⟩ := List.mem_filterMap.mp hfield
  obtain ⟨value, _, rfl⟩ := Option.map_eq_some_iff.mp hvalue
  exact List.mem_map.mpr ⟨slot, hslot, rfl⟩

theorem nodup_keys_written {slots : Entries (Option Value)} (hnodup : slots.keys.Nodup) :
    (written slots).keys.Nodup := by
  induction slots with
  | nil => exact List.nodup_nil
  | cons slot rest ih =>
    obtain ⟨name, value⟩ := slot
    obtain ⟨hfresh, hrest⟩ := List.nodup_cons.mp hnodup
    cases value with
    | none => exact ih hrest
    | some value =>
      apply List.nodup_cons.mpr
      exact ⟨fun h ↦ hfresh (mem_keys_of_written h), ih hrest⟩

/-- Looking up a written field gives the value of its slot. -/
theorem get?_written {slots : Entries (Option Value)} (hnodup : slots.keys.Nodup) (name : String) :
    (written slots).get? name = (slots.get? name).join := by
  induction slots with
  | nil => rfl
  | cons slot rest ih =>
    obtain ⟨key, value⟩ := slot
    obtain ⟨hfresh, hrest⟩ := List.nodup_cons.mp hnodup
    rw [written_cons, get?_append, ih hrest, get?_cons]
    by_cases hkey : key = name
    · have hnone : get? name rest = none := get?_eq_none_iff.mpr (hkey ▸ hfresh)
      rw [if_pos hkey, hnone]
      cases value with
      | none => rfl
      | some value => simp [get?_cons, hkey]
    · rw [if_neg hkey]
      cases value with
      | none => rfl
      | some value => simp [get?_cons, hkey]

end Entries

namespace OrderedMap

def written (slots : OrderedMap (Option Value)) : Entries Value :=
  slots.entries.written

/-- The value in the slot of a name. -/
def value? (slots : OrderedMap (Option Value)) (name : String) : Option Value :=
  (slots.get? name).join

theorem get?_written (slots : OrderedMap (Option Value)) (name : String) :
    slots.written.get? name = slots.value? name :=
  Entries.get?_written slots.nodup name

end OrderedMap

namespace Spec

theorem optionField_eq (name : String) (text : Option String) :
    optionField name text = ((text.map Value.text).map (name, ·)).toList := by
  cases text <;> rfl

theorem fieldIf_eq (written : Bool) (name : String) (value : Value) :
    fieldIf written name value = ((if written then some value else none).map (name, ·)).toList := by
  cases written <;> rfl

end Spec

/-! ## Reading by name -/

namespace Given

variable {α : Type} {names : List String} {fields : Entries Value}

theorem valuesOf_eq_nil (hnames : ∀ name ∈ names, name ∉ fields.keys) (place : Nat) :
    valuesOf names place fields = [] := by
  induction fields generalizing place with
  | nil => rfl
  | cons field rest ih =>
    obtain ⟨key, value⟩ := field
    have hkey : key ∉ names := fun h ↦ hnames key h List.mem_cons_self
    rw [valuesOf, if_neg hkey]
    exact ih (fun name hname hrest ↦ hnames name hname (List.mem_cons_of_mem key hrest)) _

/-- A field that is given once, and under no other of its names, is found once. -/
theorem exists_valuesOf_eq {name : String} {others : List String} {value : Value}
    (hnodup : fields.keys.Nodup) (hget : fields.get? name = some value)
    (hothers : ∀ other ∈ others, other ∉ fields.keys) (place : Nat) :
    ∃ place', valuesOf (name :: others) place fields = [(place', value)] := by
  induction fields generalizing place with
  | nil => cases hget
  | cons field rest ih =>
    obtain ⟨key, found⟩ := field
    obtain ⟨hfresh, hrest⟩ := List.nodup_cons.mp hnodup
    have hothers' : ∀ other ∈ others, other ∉ Entries.keys rest := fun other hother h ↦
      hothers other hother (List.mem_cons_of_mem key h)
    rw [Entries.get?_cons] at hget
    by_cases hkey : key = name
    · rw [if_pos hkey, Option.some.injEq] at hget
      refine ⟨place, ?_⟩
      rw [valuesOf, if_pos (hkey ▸ List.mem_cons_self), hget, valuesOf_eq_nil]
      intro other hother
      rcases List.mem_cons.mp hother with rfl | hother
      · exact hkey ▸ hfresh
      · exact hothers' other hother
    · rw [if_neg hkey] at hget
      have hmem : key ∉ name :: others := by
        intro h
        rcases List.mem_cons.mp h with h | h
        · exact hkey h
        · exact hothers key h List.mem_cons_self
      rw [valuesOf, if_neg hmem]
      exact ih hrest hget hothers' (place + 1)

variable {type : RecordType} {slots : OrderedMap (Option Value)} {name : String}
  {others : List String} {decode : Decoder α} {fallback : Except DecodeError α} {a : α}

theorem read_of_value?_eq_some {value : Value} (hvalue : slots.value? name = some value)
    (hothers : ∀ other ∈ others, other ∉ slots.keys) (hdecode : decode value = .ok a) :
    Given.read ⟨type, slots.written, false⟩ name others decode fallback = .ok a := by
  have hget : slots.written.get? name = some value := by rw [slots.get?_written, hvalue]
  have hfresh : ∀ other ∈ others, other ∉ slots.written.keys := fun other hother h ↦
    hothers other hother (Entries.mem_keys_of_written h)
  obtain ⟨place, hfound⟩ : ∃ place, valuesOf (name :: others) 0 slots.written = [(place, value)] :=
    exists_valuesOf_eq (Entries.nodup_keys_written slots.nodup) hget hfresh 0
  simp only [Given.read, hfound, hdecode]

theorem read_of_value?_eq_none (hvalue : slots.value? name = none)
    (hothers : ∀ other ∈ others, other ∉ slots.keys) (hfallback : fallback = .ok a) :
    Given.read ⟨type, slots.written, false⟩ name others decode fallback = .ok a := by
  have hget : slots.written.get? name = none := by rw [slots.get?_written, hvalue]
  have hfound : valuesOf (name :: others) 0 slots.written = [] := by
    apply valuesOf_eq_nil
    intro other hother h
    rcases List.mem_cons.mp hother with rfl | hother
    · exact Entries.get?_eq_none_iff.mp hget h
    · exact hothers other hother (Entries.mem_keys_of_written h)
  simp only [Given.read, hfound, hfallback]

end Given

end SourceGen
