import SourceGen.Value.Basic

/-!
# Values without repeated keys

No record of a raw document names a field twice, however deep it lies. The type of raw values does not
say so, and what is read by name depends on it.
-/

namespace SourceGen.Value

/-- No record of a value repeats a key, at any depth. -/
inductive KeysDistinct : Value → Prop where
  | null : KeysDistinct .null
  | bool (value : Bool) : KeysDistinct (.bool value)
  | number (value : Number) : KeysDistinct (.number value)
  | text (value : String) : KeysDistinct (.text value)
  | list {items : List Value} (hitems : ∀ item ∈ items, KeysDistinct item) : KeysDistinct (.list items)
  | record {fields : Entries Value} (hnodup : fields.keys.Nodup)
    (hfields : ∀ field ∈ fields, KeysDistinct field.2) : KeysDistinct (.record fields)

attribute [simp] KeysDistinct.null KeysDistinct.bool KeysDistinct.number KeysDistinct.text

namespace KeysDistinct

@[simp] theorem list_iff {items : List Value} :
    KeysDistinct (.list items) ↔ ∀ item ∈ items, KeysDistinct item := by
  constructor
  · rintro ⟨⟩
    assumption
  · exact .list

@[simp] theorem record_iff {fields : Entries Value} :
    KeysDistinct (.record fields) ↔ fields.keys.Nodup ∧ ∀ field ∈ fields, KeysDistinct field.2 := by
  constructor
  · rintro ⟨⟩
    exact ⟨‹_›, ‹_›⟩
  · rintro ⟨hnodup, hfields⟩
    exact .record hnodup hfields

theorem nodup {fields : Entries Value} (h : KeysDistinct (.record fields)) : fields.keys.Nodup :=
  (record_iff.mp h).1

end KeysDistinct

end SourceGen.Value
