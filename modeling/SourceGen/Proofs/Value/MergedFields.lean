import SourceGen.Proofs.OrderedMap
import SourceGen.Proofs.Value.DistinctKeys
import SourceGen.Value.Merge

/-!
# Fields of merged records

A merge keeps the fields of the record it starts from in their places and puts the others behind them. What
stands under a key is merged with what the later record, which names it once, has there; a record that is
still a record afterwards has been merged field by field.
-/

namespace SourceGen.Value

/-- One more document is merged into what the others gave. -/
theorem mergeAll_append_singleton (documents : List Value) (later : Value) :
    mergeAll (documents ++ [later]) = (mergeAll documents).merge later := by
  rw [mergeAll, mergeAll, List.foldl_append]
  rfl

theorem keys_prefix_mergeFields (fields later : Entries Value) :
    fields.keys <+: Entries.keys (mergeFields fields later) := by
  induction later generalizing fields with
  | nil => exact ⟨[], by rw [mergeFields, List.append_nil]⟩
  | cons field rest ih =>
    obtain ⟨key, value⟩ := field
    rw [mergeFields]
    refine List.IsPrefix.trans ?_ (ih _)
    rw [Entries.keys_alter]
    split
    · exact List.prefix_refl _
    · exact List.prefix_append _ _

variable {fields later : Entries Value}

/-- Without repeated keys, those of the later record that are new come behind the others. -/
theorem keys_mergeFields (hnodup : later.keys.Nodup) (fields : Entries Value) :
    Entries.keys (mergeFields fields later) =
      fields.keys ++ later.keys.filter (fun key ↦ key ∉ fields.keys) := by
  induction later generalizing fields with
  | nil => simp [mergeFields, Entries.keys]
  | cons field rest ih =>
    obtain ⟨key, value⟩ := field
    obtain ⟨hfresh, hrest⟩ := List.nodup_cons.mp hnodup
    have hkeys : Entries.keys ((key, value) :: rest) = key :: Entries.keys rest := rfl
    rw [mergeFields, ih hrest, Entries.keys_alter, hkeys]
    split
    · next hmem => rw [List.filter_cons_of_neg (by simpa using hmem)]
    · next hnew =>
      rw [List.filter_cons_of_pos (by simpa using hnew), List.append_assoc, List.singleton_append]
      refine congrArg (fields.keys ++ key :: ·) (List.filter_congr fun other hother ↦ ?_)
      have hne : other ≠ key := by
        rintro rfl
        exact hfresh hother
      simp [hne]

/-! ## Looking up a key -/

theorem get?_mergeFields (hnodup : later.keys.Nodup) (fields : Entries Value) (key : String) :
    Entries.get? key (mergeFields fields later) =
      Option.merge merge (fields.get? key) (later.get? key) := by
  induction later generalizing fields with
  | nil => simp [mergeFields]
  | cons field rest ih =>
    obtain ⟨other, value⟩ := field
    obtain ⟨hfresh, hrest⟩ := List.nodup_cons.mp hnodup
    rw [mergeFields, ih hrest, Entries.get?_alter, Entries.get?_cons]
    by_cases hkey : other = key
    · subst hkey
      rw [if_pos rfl, if_pos rfl, Entries.get?_eq_none_iff.mpr hfresh]
      cases fields.get? other <;> rfl
    · rw [if_neg hkey, if_neg hkey]

/-! ## Records that remain records -/

/-- What is merged into a record and leaves it one is a record itself. -/
theorem exists_mergeFields_of_merge {fields' : Entries Value} {value : Value}
    (hkeys : value.KeysDistinct) (h : (Value.record fields).merge value = .record fields') :
    ∃ part, (Value.record part).KeysDistinct ∧ fields' = mergeFields fields part := by
  cases value with
  | record part => exact ⟨part, hkeys, by simpa [merge, eq_comm] using h⟩
  | _ => simp [merge] at h

/-- A record under a key that is a record after the merge as well has been merged field by field. -/
theorem exists_mergeFields_of_get? {key : String} {inner inner' : Entries Value}
    (hkeys : (Value.record later).KeysDistinct) (hbefore : fields.get? key = some (.record inner))
    (hafter : Entries.get? key (mergeFields fields later) = some (.record inner')) :
    ∃ part, (Value.record part).KeysDistinct ∧ inner' = mergeFields inner part := by
  rw [get?_mergeFields hkeys.nodup, hbefore] at hafter
  cases hlater : later.get? key with
  | none =>
    have hnone : (Value.record []).KeysDistinct := .record List.nodup_nil (List.forall_mem_nil _)
    rw [hlater] at hafter
    cases hafter
    exact ⟨[], hnone, by rw [mergeFields]⟩
  | some value =>
    obtain ⟨_, hparts⟩ := KeysDistinct.record_iff.mp hkeys
    have hvalue : value.KeysDistinct := hparts _ (Entries.mem_of_get?_eq_some hlater)
    rw [hlater] at hafter
    exact exists_mergeFields_of_merge hvalue (Option.some.inj hafter)

end SourceGen.Value
