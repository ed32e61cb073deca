import SourceGen.Proofs.Binding.Units

/-!
# Groups of namespaces

The groups stand in the order of their first namespaces, and each holds all namespaces with its outermost
segment. Taken together the groups hold what the interface does, and each of them has one unit.
-/

namespace SourceGen.Binding

open Spec

/-! ## Values filed under names -/

section Filed

variable {α : Type} {names : List String}

def filed (names : List String) (value : String → α) : Entries α :=
  names.map fun name ↦ (name, value name)

theorem keys_filed (names : List String) (value : String → α) : (filed names value).keys = names := by
  rw [filed, Entries.keys, List.map_map]
  exact List.map_id names

theorem filed_congr {value value' : String → α} (h : ∀ name ∈ names, value name = value' name) :
    filed names value = filed names value' :=
  List.map_congr_left fun name hname ↦ by rw [h name hname]

theorem alter_filed (hnodup : names.Nodup) {name : String} (h : name ∈ names) (value : String → α)
    (f : Option α → α) : (filed names value).alter name f =
      filed names fun other ↦ if other = name then f (some (value other)) else value other := by
  induction names with
  | nil => cases h
  | cons first rest ih =>
    obtain ⟨hfresh, hrest⟩ := List.nodup_cons.mp hnodup
    rw [filed, List.map_cons, Entries.alter, ← filed]
    by_cases hfirst : first = name
    · subst hfirst
      have hsame : filed rest value =
          filed rest fun other ↦ if other = first then f (some (value other)) else value other :=
        filed_congr fun other hother ↦ by rw [if_neg (ne_of_mem_of_not_mem hother hfresh)]
      rw [if_pos rfl, hsame, filed, filed, List.map_cons, if_pos rfl]
    · have hmem : name ∈ rest := (List.mem_cons.mp h).resolve_left (Ne.symm hfirst)
      rw [if_neg hfirst, ih hrest hmem, filed, filed, List.map_cons, if_neg hfirst]

end Filed

/-! ## Groups -/

/-- The namespaces with an outermost segment, in their order. -/
def withGroup (namespaces : Entries NamespaceContent) (name : String) : Entries NamespaceContent :=
  namespaces.filter (groupOf ·.1 = name)

/-- Namespaces by their groups, which are in the order of their first namespaces. -/
def grouped (namespaces : Entries NamespaceContent) : Entries (Entries NamespaceContent) :=
  filed (distinct (namespaces.map (groupOf ·.1))) (withGroup namespaces)

theorem withGroup_append_singleton (namespaces : Entries NamespaceContent)
    (entry : String × NamespaceContent) (name : String) : withGroup (namespaces ++ [entry]) name =
      if name = groupOf entry.1 then withGroup namespaces name ++ [entry]
      else withGroup namespaces name := by
  rw [withGroup, List.filter_append]
  split
  · next hname =>
    rw [List.filter_cons_of_pos (by simp [hname])]
    rfl
  · next hname =>
    rw [List.filter_cons_of_neg (by simpa using Ne.symm hname), List.filter_nil, List.append_nil]
    rfl

theorem alter_grouped (namespaces : Entries NamespaceContent) (entry : String × NamespaceContent) :
    (grouped namespaces).alter (groupOf entry.1) (fun before ↦ before.getD [] ++ [entry]) =
      grouped (namespaces ++ [entry]) := by
  rw [grouped, grouped, List.map_append, List.map_singleton, distinct_append_singleton]
  by_cases hmem : groupOf entry.1 ∈ namespaces.map (groupOf ·.1)
  · rw [if_pos hmem, alter_filed (nodup_distinct _) (mem_distinct.mpr hmem)]
    refine filed_congr fun name _ ↦ ?_
    rw [withGroup_append_singleton]
    rfl
  · have hnone : withGroup namespaces (groupOf entry.1) = [] := by
      rw [withGroup, List.filter_eq_nil_iff]
      intro other hother
      simpa using fun heq : groupOf other.1 = groupOf entry.1 ↦
        hmem (List.mem_map.mpr ⟨other, hother, heq⟩)
    have hothers : filed (distinct (namespaces.map (groupOf ·.1))) (withGroup namespaces) =
        filed (distinct (namespaces.map (groupOf ·.1))) (withGroup (namespaces ++ [entry])) := by
      refine filed_congr fun name hname ↦ ?_
      rw [withGroup_append_singleton, if_neg]
      exact ne_of_mem_of_not_mem (mem_distinct.mp hname) hmem
    rw [if_neg hmem, Entries.alter_of_not_mem _ (by rwa [keys_filed, mem_distinct]), hothers, filed,
      filed, List.map_append, List.map_singleton, withGroup_append_singleton, if_pos rfl, hnone]
    rfl

theorem entries_groups (api : Api) : (groups api).entries = grouped api.namespaces.entries := by
  have hall : ∀ namespaces : Entries NamespaceContent,
      (namespaces.foldl (fun found entry ↦
        found.alter (groupOf entry.1) fun before ↦ before.getD [] ++ [entry])
          (∅ : OrderedMap (Entries NamespaceContent))).entries = grouped namespaces := by
    intro namespaces
    -- The groups are folded from the front, so the last namespace is the one that is put in last.
    induction namespaces using List.reverseRecOn with
    | nil => rfl
    | append_singleton before entry ih =>
      rw [List.foldl_append, List.foldl_cons, List.foldl_nil, ← alter_grouped, ← ih]
      rfl
  exact hall api.namespaces.entries

/-- Filtering by the values of a function, one value after the other, gives every item once. -/
theorem flatMap_filter_perm {α β : Type} [DecidableEq β] (f : α → β) {values : List β}
    (hnodup : values.Nodup) {items : List α} (h : ∀ item ∈ items, f item ∈ values) :
    (values.flatMap fun value ↦ items.filter (f · = value)).Perm items := by
  induction values generalizing items with
  | nil =>
    rw [List.eq_nil_iff_forall_not_mem.mpr fun item hitem ↦ List.not_mem_nil (h item hitem)]
    exact .refl []
  | cons first rest ih =>
    obtain ⟨hfresh, hrest⟩ := List.nodup_cons.mp hnodup
    have hothers : ∀ item ∈ items.filter (fun item ↦ !decide (f item = first)), f item ∈ rest := by
      intro item hitem
      obtain ⟨hmem, hne⟩ := List.mem_filter.mp hitem
      exact (List.mem_cons.mp (h item hmem)).resolve_left (by simpa using hne)
    have hsame : (rest.flatMap fun value ↦ items.filter (f · = value)) = rest.flatMap fun value ↦
        (items.filter fun item ↦ !decide (f item = first)).filter (f · = value) := by
      refine List.flatMap_congr fun value hvalue ↦ ?_
      rw [List.filter_filter]
      refine List.filter_congr fun item _ ↦ ?_
      have hne := ne_of_mem_of_not_mem hvalue hfresh
      by_cases hitem : f item = value
      · simp [hitem, hne]
      · simp [hitem]
    rw [List.flatMap_cons, hsame]
    exact ((ih hrest hothers).append_left _).trans (List.filter_append_perm _ _)

/-- Together the groups hold the namespaces, each of them once. -/
theorem flatMap_withGroup_perm (namespaces : Entries NamespaceContent) :
    ((distinct (namespaces.map (groupOf ·.1))).flatMap (withGroup namespaces)).Perm namespaces := by
  have hcovers : ∀ entry ∈ namespaces, groupOf entry.1 ∈ distinct (namespaces.map (groupOf ·.1)) :=
    fun entry hentry ↦ mem_distinct.mpr (List.mem_map.mpr ⟨entry, hentry, rfl⟩)
  exact flatMap_filter_perm (fun entry : String × NamespaceContent ↦ groupOf entry.1)
    (nodup_distinct _) hcovers

/-! ## Units of the groups -/

/-- The groups in the order of their first namespaces. -/
def groupNames (api : Api) : List String :=
  distinct (api.namespaces.keys.map groupOf)

theorem groupNames_eq (api : Api) :
    groupNames api = distinct (api.namespaces.entries.map (groupOf ·.1)) := by
  rw [groupNames, OrderedMap.keys, Entries.keys, List.map_map]
  rfl

/-- The namespaces of a group in their order. -/
def namespacesOf (api : Api) (name : String) : Entries NamespaceContent :=
  withGroup api.namespaces.entries name

/-- Binders for groups, each of which has bound the namespaces of its group. -/
def BindsGroups (api : Api) (config : Config) (binders : Entries Binder) : Prop :=
  ∀ entry ∈ binders, (bindGroup (groupNamed api config entry.1) (namespacesOf api entry.1)).result =
    .ok entry.2

/-- The units of binders, each under the name of its group. -/
def unitsOf (api : Api) (config : Config) (binders : Entries Binder) : Entries SourceFile :=
  binders.map fun entry ↦ (unitFile entry.1, unitOf api config entry.1 entry.2)

variable {api : Api} {config : Config}

theorem exists_binders_of_unitFiles {names : List String} {files : Entries SourceFile}
    (h : (unitFiles api config (filed names (namespacesOf api))).result = .ok files) :
    ∃ binders : Entries Binder, binders.keys = names ∧ BindsGroups api config binders ∧
      files = unitsOf api config binders := by
  induction names generalizing files with
  | nil =>
    cases h
    exact ⟨[], rfl, List.forall_mem_nil _, rfl⟩
  | cons name rest ih =>
    rw [filed, List.map_cons, ← filed] at h
    simp only [unitFiles, Run.result_bind, Run.result_pure, Run.result_ofExcept,
      Binder.unitText_eq_ok, ok_bind] at h
    obtain ⟨binder, hbinder, h⟩ := bind_eq_ok.mp h
    obtain ⟨later, hlater, h⟩ := bind_eq_ok.mp h
    cases h
    obtain ⟨binders, hkeys, hbinds, rfl⟩ := ih hlater
    exact ⟨(name, binder) :: binders, congrArg (name :: ·) hkeys,
      List.forall_mem_cons.mpr ⟨hbinder, hbinds⟩, rfl⟩

/-- There is one unit for each group, in the order of the groups. -/
theorem exists_binders {files : Entries SourceFile} (h : (Binding.files api config).result = .ok files) :
    ∃ binders : Entries Binder, binders.keys = groupNames api ∧ BindsGroups api config binders ∧
      files = (bindingHeader, { content := headerText api config }) :: unitsOf api config binders := by
  simp only [Binding.files, Run.result_bind, Run.result_pure] at h
  obtain ⟨units, hunits, h⟩ := bind_eq_ok.mp h
  cases h
  rw [entries_groups, grouped] at hunits
  obtain ⟨binders, hkeys, hbinds, rfl⟩ := exists_binders_of_unitFiles hunits
  exact ⟨binders, hkeys.trans (groupNames_eq api).symm, hbinds, rfl⟩

end SourceGen.Binding
