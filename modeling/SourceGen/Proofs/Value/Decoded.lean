import SourceGen.Proofs.OrderedMap
import SourceGen.Proofs.Outcome
import SourceGen.Value.Decode

/-!
# What a datum was read from

A datum that was read tells what stood in the document: every part of it is the reading of a field, or the
usual value where the field may be missing, and the keys of a map are those of the record.
-/

namespace SourceGen

variable {α β : Type}

namespace Outcome

theorem map_eq_ok {f : α → β} {outcome : Outcome α} {b : β} :
    f <$> outcome = .ok b ↔ ∃ a, outcome = .ok a ∧ f a = b := by
  cases outcome with
  | ok a =>
    change Outcome.ok (f a) = .ok b ↔ _
    simp
  | fault place error => exact ⟨nofun, nofun⟩

theorem seq_eq_ok {f : Outcome (α → β)} {outcome : Outcome α} {b : β} :
    f <*> outcome = .ok b ↔ ∃ g, f = .ok g ∧ ∃ a, outcome = .ok a ∧ g a = b := by
  change f.seq outcome = .ok b ↔ _
  cases f with
  | ok g => cases outcome <;> simp [seq]
  | fault place error =>
    cases outcome with
    | ok a => simp [seq]
    | fault place' error' =>
      simp only [seq]
      split <;> simp

theorem toExcept_eq_ok {outcome : Outcome α} {a : α} :
    outcome.toExcept = .ok a ↔ outcome = .ok a := by
  cases outcome <;> simp [toExcept]

end Outcome

namespace Given

variable {type : RecordType} {fields : Entries Value} {name : String} {decode : Decoder α} {a : α}

/-- The first value under a name is the one that is looked up. -/
theorem get?_of_valuesOf_cons {place found : Nat} {value : Value} {more : List (Nat × Value)}
    (h : valuesOf [name] place fields = (found, value) :: more) :
    fields.get? name = some value := by
  induction fields generalizing place with
  | nil => cases h
  | cons field rest ih =>
    obtain ⟨key, given⟩ := field
    rw [valuesOf] at h
    rw [Entries.get?_cons]
    by_cases hkey : key = name
    · rw [if_pos (List.mem_singleton.mpr hkey), List.cons.injEq, Prod.mk.injEq] at h
      rw [if_pos hkey, h.1.2]
    · rw [if_neg (mt List.mem_singleton.mp hkey)] at h
      rw [if_neg hkey]
      exact ih h

theorem read_eq_ok {fallback : Except DecodeError α}
    (h : Given.read ⟨type, fields, false⟩ name [] decode fallback = .ok a) :
    fallback = .ok a ∨ ∃ value, fields.get? name = some value ∧ decode value = .ok a := by
  unfold Given.read at h
  dsimp only at h
  split at h
  · split at h
    · cases h
      exact .inl rfl
    · cases h
  · next found value more hvalues =>
    refine .inr ⟨value, get?_of_valuesOf_cons hvalues, ?_⟩
    split at h
    · cases h
    · next hdecode =>
      cases h
      exact hdecode
    · cases h

theorem required_eq_ok (h : Given.required ⟨type, fields, false⟩ name decode = .ok a) :
    ∃ value, fields.get? name = some value ∧ decode value = .ok a := by
  rw [Given.required] at h
  obtain hmissing | hread := read_eq_ok h
  · cases hmissing
  · exact hread

/-- A part that may be missing was given if it is there, and not as null. -/
theorem optional_eq_ok_some
    (h : Given.optional ⟨type, fields, false⟩ name decode = .ok (some a)) :
    ∃ value, fields.get? name = some value ∧ value ≠ .null ∧ decode value = .ok a := by
  rw [Given.optional, Given.defaulted] at h
  obtain hmissing | ⟨value, hget, hvalue⟩ := read_eq_ok h
  · cases hmissing
  · refine ⟨value, hget, ?_⟩
    cases value with
    | null => cases hvalue
    | _ =>
      obtain ⟨a', ha', heq⟩ := SourceGen.map_eq_ok.mp hvalue
      cases heq
      exact ⟨nofun, ha'⟩

end Given

theorem keys_of_decodeFields {decode : Decoder α} {fields : Entries Value} {entries : Entries α}
    (h : Decoder.decodeFields decode fields = .ok entries) :
    Entries.keys entries = Entries.keys fields := by
  induction fields generalizing entries with
  | nil =>
    cases h
    rfl
  | cons field rest ih =>
    obtain ⟨item, -, hrest⟩ := bind_eq_ok.mp h
    obtain ⟨items, hitems, hdone⟩ := bind_eq_ok.mp hrest
    cases hdone
    exact congrArg (field.1 :: ·) (ih hitems)

/-- A map is read from a record, and its keys are those of the record, each once. -/
theorem exists_record_of_map {decode : Decoder α} {value : Value} {m : OrderedMap α}
    (h : Decoder.map decode value = .ok m) :
    ∃ fields, value = .record fields ∧ m.keys = distinct (Entries.keys fields) := by
  cases value with
  | record fields =>
    obtain ⟨entries, hentries, rfl⟩ := SourceGen.map_eq_ok.mp h
    exact ⟨fields, rfl, by rw [OrderedMap.keys_ofEntries, keys_of_decodeFields hentries]⟩
  | _ => cases h

end SourceGen
