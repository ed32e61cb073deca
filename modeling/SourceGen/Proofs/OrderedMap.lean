import Mathlib.Data.List.Induction
import SourceGen.Distinct
import SourceGen.OrderedMap

/-!
# Lookup in ordered maps

What a map gives for a key after a key was altered or entries were put in one after the other. Entries
without a repeated key are a map as they stand, in the same order; of others the map has the distinct keys.
-/

namespace SourceGen

variable {α β : Type}

/-- First occurrences at the front do not depend on what follows. -/
theorem distinct_isPrefix [DecidableEq α] {front items : List α} (h : front <+: items) :
    distinct front <+: distinct items := by
  obtain ⟨back, rfl⟩ := h
  induction back using List.reverseRecOn with
  | nil => simp
  | append_singleton back x ih =>
    rw [← List.append_assoc, distinct_append_singleton]
    split
    · exact ih
    · exact ih.trans (List.prefix_append _ _)

namespace Entries

@[simp] theorem get?_nil (key : String) : get? key ([] : Entries α) = none := rfl

theorem get?_cons (key k : String) (value : α) (rest : Entries α) :
    get? key ((k, value) :: rest) = if k = key then some value else get? key rest := rfl

theorem get?_append (key : String) (front back : Entries α) :
    get? key (front ++ back) = (get? key front).or (get? key back) := by
  induction front with
  | nil => rfl
  | cons entry rest ih =>
    obtain ⟨k, value⟩ := entry
    rw [List.cons_append, get?_cons, get?_cons, ih]
    split <;> rfl

theorem get?_mapValues (f : α → β) (key : String) (entries : Entries α) :
    get? key (entries.map fun entry ↦ (entry.1, f entry.2)) = (entries.get? key).map f := by
  induction entries with
  | nil => rfl
  | cons entry rest ih =>
    obtain ⟨k, value⟩ := entry
    rw [List.map_cons, get?_cons, get?_cons, ih]
    split <;> rfl

theorem mem_of_get?_eq_some {key : String} {value : α} {entries : Entries α}
    (h : entries.get? key = some value) : (key, value) ∈ entries := by
  induction entries with
  | nil => cases h
  | cons entry rest ih =>
    obtain ⟨k, other⟩ := entry
    rw [get?_cons] at h
    split at h
    · next hk =>
      rw [Option.some.injEq] at h
      subst hk h
      exact List.mem_cons_self
    · exact List.mem_cons_of_mem _ (ih h)

theorem isSome_get?_iff {key : String} {entries : Entries α} :
    (entries.get? key).isSome ↔ key ∈ entries.keys := by
  induction entries with
  | nil => simp [keys]
  | cons entry rest ih =>
    obtain ⟨k, value⟩ := entry
    rw [get?_cons]
    by_cases hk : k = key
    · simp [keys, hk]
    · rw [if_neg hk, ih]
      simp [keys, Ne.symm hk]

theorem get?_eq_none_iff {key : String} {entries : Entries α} :
    entries.get? key = none ↔ key ∉ entries.keys := by
  rw [← isSome_get?_iff, Option.not_isSome_iff_eq_none]

/-- Without repeated keys every entry is found. -/
theorem get?_eq_some_of_mem {key : String} {value : α} {entries : Entries α}
    (hnodup : entries.keys.Nodup) (h : (key, value) ∈ entries) :
    entries.get? key = some value := by
  induction entries with
  | nil => cases h
  | cons entry rest ih =>
    obtain ⟨k, other⟩ := entry
    obtain ⟨hfresh, hrest⟩ := List.nodup_cons.mp hnodup
    rcases List.mem_cons.mp h with heq | hmem
    · obtain ⟨rfl, rfl⟩ := Prod.mk.inj heq
      exact if_pos rfl
    · have hk : k ≠ key := by
        rintro rfl
        exact hfresh (List.mem_map.mpr ⟨(k, value), hmem, rfl⟩)
      rw [get?_cons, if_neg hk, ih hrest hmem]

/-- Without repeated keys, entries are told by the order of their keys and by what each key gives. -/
theorem eq_of_keys_eq {entries others : Entries α} (hnodup : entries.keys.Nodup)
    (hkeys : entries.keys = others.keys) (hget : ∀ key, entries.get? key = others.get? key) :
    entries = others := by
  induction entries generalizing others with
  | nil => exact (List.map_eq_nil_iff.mp hkeys.symm).symm
  | cons entry rest ih =>
    obtain ⟨⟨key, value'⟩, rest', rfl, hkey, hrest⟩ := List.map_eq_cons_iff.mp hkeys.symm
    obtain ⟨_, value⟩ := entry
    obtain rfl : key = _ := hkey
    obtain ⟨hfresh, hnodup⟩ := List.nodup_cons.mp hnodup
    have hvalue : value = value' := by simpa [get?_cons] using hget key
    rw [hvalue, ih hnodup hrest.symm fun other ↦ ?_]
    by_cases hother : key = other
    · subst hother
      have hfresh' : key ∉ keys rest' := by rwa [keys, hrest]
      rw [get?_eq_none_iff.mpr hfresh, get?_eq_none_iff.mpr hfresh']
    · simpa only [get?_cons, if_neg hother] using hget other

/-! ## Altering -/

theorem get?_alter (key other : String) (f : Option α → α) (entries : Entries α) :
    (entries.alter key f).get? other =
      if key = other then some (f (entries.get? key)) else entries.get? other := by
  induction entries with
  | nil =>
    rw [alter, get?_cons]
    rfl
  | cons entry rest ih =>
    obtain ⟨k, value⟩ := entry
    simp only [alter]
    by_cases hk : k = key
    · subst hk
      simp only [if_true, get?_cons]
      split <;> rfl
    · simp only [if_neg hk, get?_cons, ih]
      by_cases hother : k = other
      · subst hother
        simp [Ne.symm hk]
      · simp only [if_neg hother]

theorem alter_of_not_mem {key : String} (f : Option α → α) {entries : Entries α}
    (h : key ∉ entries.keys) : entries.alter key f = entries ++ [(key, f none)] := by
  induction entries with
  | nil => rfl
  | cons entry rest ih =>
    obtain ⟨k, value⟩ := entry
    simp only [keys, List.map_cons, List.mem_cons, not_or] at h
    rw [alter, if_neg (Ne.symm h.1), ih h.2, List.cons_append]

/-! ## Putting in entries -/

theorem putAll_cons (entries : Entries α) (entry : String × α) (later : Entries α) :
    entries.putAll (entry :: later) = (entries.put entry.1 entry.2).putAll later := rfl

theorem mem_keys_putAll {key : String} {entries later : Entries α} :
    key ∈ (entries.putAll later).keys ↔ key ∈ entries.keys ∨ key ∈ later.keys := by
  induction later generalizing entries with
  | nil => simp [putAll, keys]
  | cons entry rest ih =>
    rw [putAll_cons, ih, put, keys_alter]
    split
    · next hmem =>
      simp only [keys, List.map_cons, List.mem_cons] at hmem ⊢
      constructor
      · rintro (h | h)
        · exact Or.inl h
        · exact Or.inr (Or.inr h)
      · rintro (h | rfl | h)
        · exact Or.inl h
        · exact Or.inl hmem
        · exact Or.inr h
    · simp [keys, or_assoc]

/-- Every value comes from the entries before or from those put in. -/
theorem mem_of_get?_putAll {key : String} {value : α} {entries later : Entries α}
    (h : (entries.putAll later).get? key = some value) :
    entries.get? key = some value ∨ (key, value) ∈ later := by
  induction later generalizing entries with
  | nil => exact Or.inl h
  | cons entry rest ih =>
    rcases ih (by rwa [putAll_cons] at h) with hput | hmem
    · rw [put, get?_alter] at hput
      split at hput
      · next hkey =>
        rw [Option.some.injEq] at hput
        subst hkey hput
        exact Or.inr List.mem_cons_self
      · exact Or.inl hput
    · exact Or.inr (List.mem_cons_of_mem entry hmem)

theorem putAll_of_nodup {entries later : Entries α} (h : (entries ++ later).keys.Nodup) :
    entries.putAll later = entries ++ later := by
  induction later generalizing entries with
  | nil => exact (List.append_nil entries).symm
  | cons entry rest ih =>
    have hfresh : entry.1 ∉ entries.keys := by
      simp only [keys, List.map_append, List.map_cons] at h
      exact fun hmem ↦ (List.nodup_append.mp h).2.2 _ hmem _ List.mem_cons_self rfl
    have hsplit : entries ++ entry :: rest = (entries ++ [entry]) ++ rest :=
      List.append_cons entries entry rest
    rw [putAll_cons, put, alter_of_not_mem _ hfresh, hsplit]
    exact ih (by rwa [hsplit] at h)

/-- Putting in what is there already changes nothing. -/
theorem put_of_get?_eq_some {key : String} {value : α} {entries : Entries α}
    (h : entries.get? key = some value) : entries.put key value = entries := by
  induction entries with
  | nil => cases h
  | cons entry rest ih =>
    obtain ⟨k, other⟩ := entry
    rw [get?_cons] at h
    rw [put, alter]
    split at h
    · next hk =>
      cases h
      rw [if_pos hk]
    · next hk =>
      rw [if_neg hk]
      exact congrArg _ (ih h)

theorem putAll_of_mem {entries later : Entries α} (hnodup : entries.keys.Nodup)
    (h : ∀ entry ∈ later, entry ∈ entries) : entries.putAll later = entries := by
  induction later with
  | nil => rfl
  | cons entry rest ih =>
    obtain ⟨hentry, hrest⟩ := List.forall_mem_cons.mp h
    rw [putAll_cons, put_of_get?_eq_some (get?_eq_some_of_mem hnodup hentry), ih hrest]

end Entries

namespace OrderedMap

theorem contains_iff {m : OrderedMap α} {key : String} : m.contains key ↔ key ∈ m.keys :=
  Entries.isSome_get?_iff

theorem get?_eq_some_iff {m : OrderedMap α} {key : String} {value : α} :
    m.get? key = some value ↔ (key, value) ∈ m.entries :=
  ⟨Entries.mem_of_get?_eq_some, Entries.get?_eq_some_of_mem m.nodup⟩

theorem isEmpty_iff {m : OrderedMap α} : m.isEmpty ↔ m.entries = [] :=
  List.isEmpty_iff

/-- Entries without a repeated key are a map as they stand. -/
theorem ofEntries_entries (m : OrderedMap α) : ofEntries m.entries = m := by
  have hnodup : Entries.keys ([] ++ m.entries) = m.entries.keys := rfl
  exact ext (Entries.putAll_of_nodup (hnodup ▸ m.nodup))

theorem mem_keys_ofEntries {key : String} {entries : Entries α} :
    key ∈ (ofEntries entries).keys ↔ key ∈ entries.keys := by
  rw [OrderedMap.keys, ofEntries, Entries.mem_keys_putAll]
  simp [Entries.keys]

theorem keys_ofEntries (entries : Entries α) : (ofEntries entries).keys = distinct entries.keys := by
  induction entries using List.reverseRecOn with
  | nil => rfl
  | append_singleton entries entry ih =>
    have hput : (ofEntries (entries ++ [entry])).keys =
        (Entries.put entry.1 entry.2 (ofEntries entries).entries).keys := by
      simp only [OrderedMap.keys, ofEntries, Entries.putAll, List.foldl_append, List.foldl_cons,
        List.foldl_nil]
    have hkeys : Entries.keys (entries ++ [entry]) = Entries.keys entries ++ [entry.1] :=
      List.map_append
    rw [hput, Entries.put, Entries.keys_alter, hkeys, distinct_append_singleton, ← ih]
    exact if_congr mem_keys_ofEntries rfl rfl

theorem mem_of_get?_ofEntries {key : String} {value : α} {entries : Entries α}
    (h : (ofEntries entries).get? key = some value) : (key, value) ∈ entries :=
  (Entries.mem_of_get?_putAll h).resolve_left (by simp)

end OrderedMap

end SourceGen
