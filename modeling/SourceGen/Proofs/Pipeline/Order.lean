import Mathlib.Data.List.Induction
import SourceGen.Proofs.Pipeline.OwnFiles
import SourceGen.Proofs.Pipeline.Validated

/-!
# The order of plugins

Built-in plugins have no file in common, so each puts its own files behind those of the plugins before it,
and a plugin that runs again finds its files there already. Which files a run generates thus depends on
which plugins it has, and only their positions on the order in which these come first.
-/

namespace SourceGen

open Spec

variable {document : Document} {config : Config}

/-! ## Blocks of entries -/

section Blocks

variable {α κ : Type} {block : κ → Entries α}

/-- Keys are told apart within each block and between the blocks. -/
structure Apart (block : κ → Entries α) (items : List κ) : Prop where
  nodup : ∀ k ∈ items, (block k).keys.Nodup
  disjoint : ∀ k ∈ items, ∀ l ∈ items, k ≠ l → ∀ name ∈ (block k).keys, name ∉ (block l).keys

theorem Apart.front {front back : List κ} (h : Apart block (front ++ back)) : Apart block front where
  nodup k hk := h.nodup k (List.mem_append_left _ hk)
  disjoint k hk l hl := h.disjoint k (List.mem_append_left _ hk) l (List.mem_append_left _ hl)

variable [DecidableEq κ]

/-- A block that comes for the first time brings no key that is there already. -/
theorem Apart.nodup_keys_append {front : List κ} {k : κ} (h : Apart block (front ++ [k]))
    (hk : k ∉ front) {entries : Entries α} (hentries : entries = (distinct front).flatMap block)
    (hnodup : entries.keys.Nodup) : (entries ++ block k).keys.Nodup := by
  have hblock : (block k).keys.Nodup := h.nodup k (by simp)
  simp only [Entries.keys, List.map_append]
  refine List.nodup_append.mpr ⟨hnodup, hblock, ?_⟩
  rintro name hname _ hnew rfl
  obtain ⟨entry, hentry, rfl⟩ := List.mem_map.mp hname
  rw [hentries] at hentry
  obtain ⟨l, hl, hentry⟩ := List.mem_flatMap.mp hentry
  have hfront : l ∈ front := mem_distinct.mp hl
  have hlk : l ≠ k := by
    rintro rfl
    exact hk hfront
  exact h.disjoint l (List.mem_append_left _ hfront) k (by simp) hlk _ (List.mem_map_of_mem hentry) hnew

/-- Blocks put in one after the other come in the order of their first occurrence. -/
theorem entries_foldl_putAll {items : List κ} (h : Apart block items) :
    (items.foldl (fun files k ↦ files.putAll (block k)) (∅ : OrderedMap α)).entries =
      (distinct items).flatMap block := by
  -- The block that is put in last finds those of all other items there, so the induction is on the end.
  induction items using List.reverseRecOn with
  | nil => rfl
  | append_singleton front k ih =>
    have hfront := ih h.front
    rw [List.foldl_append, List.foldl_cons, List.foldl_nil, distinct_append_singleton]
    generalize front.foldl (fun files k ↦ files.putAll (block k)) (∅ : OrderedMap α) = files at hfront
    change files.entries.putAll (block k) = _
    split
    · next hk =>
      have hmem : ∀ entry ∈ block k, entry ∈ files.entries := by
        intro entry hentry
        rw [hfront]
        exact List.mem_flatMap.mpr ⟨k, mem_distinct.mpr hk, hentry⟩
      rw [Entries.putAll_of_mem files.nodup hmem, hfront]
    · next hk =>
      have hnodup := h.nodup_keys_append hk hfront files.nodup
      rw [Entries.putAll_of_nodup hnodup, hfront, List.flatMap_append, List.flatMap_singleton]

end Blocks

/-! ## Identifiers of plugins -/

namespace Plugin

/-- An identifier stands for a plugin whatever blanks are around it and whatever case its letters are in. -/
def Names (id name : String) : Prop :=
  (Text.trimChars id.toList).map Char.toUpper = name.toList

instance (id name : String) : Decidable (Names id name) :=
  inferInstanceAs (Decidable (_ = _))

theorem eq_of_id_eq {plugin other : Plugin} (hplugin : plugin ∈ builtin) (hother : other ∈ builtin)
    (h : plugin.id = other.id) : plugin = other := by
  simp only [builtin, List.mem_cons, List.not_mem_nil, or_false] at hplugin hother
  rcases hplugin with rfl | rfl | rfl | rfl <;> rcases hother with rfl | rfl | rfl | rfl <;>
    first
    | rfl
    | exact absurd h (by decide)

theorem mem_builtin_of_find? {id : String} {plugin : Plugin} (h : find? id = some plugin) :
    plugin ∈ builtin ∧ Names id plugin.id := by
  rw [find?] at h
  have hnames := List.find?_some h
  exact ⟨List.mem_of_find?_eq_some h, (eq_of_beq hnames).symm⟩

theorem find?_eq_some_iff {id : String} {plugin : Plugin} :
    find? id = some plugin ↔ plugin ∈ builtin ∧ Names id plugin.id := by
  refine ⟨mem_builtin_of_find?, ?_⟩
  rintro ⟨hbuiltin, hnames⟩
  have hsome : (find? id).isSome := by
    rw [find?, List.find?_isSome]
    exact ⟨plugin, hbuiltin, beq_iff_eq.mpr hnames.symm⟩
  obtain ⟨other, hother⟩ := Option.isSome_iff_exists.mp hsome
  obtain ⟨hbuiltin', hnames'⟩ := mem_builtin_of_find? hother
  have hid : other.id = plugin.id := String.toList_inj.mp (hnames'.symm.trans hnames)
  rw [hother, eq_of_id_eq hbuiltin' hbuiltin hid]

theorem find?_id {plugin : Plugin} (h : plugin ∈ builtin) : find? plugin.id = some plugin := by
  simp only [builtin, List.mem_cons, List.not_mem_nil, or_false] at h
  rcases h with rfl | rfl | rfl | rfl <;> rfl

end Plugin

/-! ## Runs -/

namespace Pipeline

/-- What comes of running the plugins of the given identifiers one after the other. -/
def outcome (ids : List String) (document : Document) (config : Config) : Except GenError FileSet :=
  ((ofIds ids).2.run document config).2.result

/-- The files of a run in which the plugin of an identifier is the only one. -/
def filesAlone (document : Document) (config : Config) (id : String) : Entries SourceFile :=
  match outcome [id] document config with
  | .ok files => files.entries
  | .error _ => []

theorem mem_ids_ofIds {ids : List String} {name : String} :
    name ∈ (ofIds ids).2.ids ↔ name ∈ Plugin.builtinIds ∧ ∃ id ∈ ids, Plugin.Names id name := by
  simp only [Pipeline.ids, ofIds, List.mem_map, List.mem_filterMap, Plugin.find?_eq_some_iff,
    Plugin.builtinIds]
  constructor
  · rintro ⟨plugin, ⟨id, hid, hbuiltin, hnames⟩, rfl⟩
    exact ⟨⟨plugin, hbuiltin, rfl⟩, id, hid, hnames⟩
  · rintro ⟨⟨plugin, hbuiltin, rfl⟩, id, hid, hnames⟩
    exact ⟨plugin, ⟨id, hid, hbuiltin, hnames⟩, rfl⟩

/-- Whether a run succeeds depends on its plugins and not on their order. -/
theorem exists_outcome_iff {ids : List String} :
    (∃ files, outcome ids document config = .ok files) ↔
      ∀ name ∈ (ofIds ids).2.ids, Plugin.Admits name document := by
  rw [Pipeline.ids, List.forall_mem_map]
  exact exists_run_iff_admits fun _ ↦ mem_builtin_of_mem_ofIds

theorem result_runFrom_cons {plugin : Plugin} {added : Entries SourceFile}
    (h : plugin.Adds document config added) (rest : List Plugin) (i : Nat) (generated : FileSet) :
    (runFrom document config i generated (plugin :: rest)).2.result =
      (runFrom document config (i + 1) (generated.putAll added) rest).2.result := by
  obtain ⟨outcome, hprocess, hfiles⟩ := h.process generated
  rw [runFrom, ← hfiles]
  simp only [hprocess]
  cases outcome <;> rfl

theorem filesAlone_id {plugin : Plugin} (hbuiltin : plugin ∈ Plugin.builtin)
    {added : Entries SourceFile} (h : plugin.Adds document config added) :
    filesAlone document config plugin.id = added := by
  have hplugins : (ofIds [plugin.id]).2.plugins = [plugin] := by
    simp [ofIds, Plugin.find?_id hbuiltin]
  have hrun : outcome [plugin.id] document config = .ok ((∅ : FileSet).putAll added) := by
    change (runFrom document config 0 ∅ (ofIds [plugin.id]).2.plugins).2.result = _
    rw [hplugins, result_runFrom_cons h]
    rfl
  rw [filesAlone, hrun]
  exact Entries.putAll_of_nodup h.nodup

/-- The files of a plugin are told by what it makes of its section. -/
theorem filesAlone_ofSection {σ : Type} {id : String} {area : Area} {find : Document → Option σ}
    {files : σ → Document → Config → Run (Entries SourceFile)} {motive : Entries SourceFile → Prop}
    (hbuiltin : Plugin.ofSection id area find files ∈ Plugin.builtin)
    (hadds : ∀ part added, find document = some part → (files part document config).result = .ok added →
      (Plugin.ofSection id area find files).Adds document config added)
    (hadmitted : (Plugin.ofSection id area find files).refusal? document config = none)
    (hnone : find document = none → motive [])
    (hsome : ∀ part added, find document = some part → (files part document config).result = .ok added →
      motive added) : motive (filesAlone document config id) := by
  have halone : ∀ added, (Plugin.ofSection id area find files).Adds document config added →
      filesAlone document config id = added := fun _ ↦ filesAlone_id hbuiltin
  cases hfind : find document with
  | none =>
    rw [halone [] (Plugin.adds_nil_ofSection hfind)]
    exact hnone hfind
  | some part =>
    obtain ⟨added, hadded⟩ := Plugin.exists_files_ofSection hfind hadmitted
    rw [halone added (hadds part added hfind hadded)]
    exact hsome part added hfind hadded

theorem result_runFrom {plugins : List Plugin}
    (h : ∀ plugin ∈ plugins, plugin.Adds document config (filesAlone document config plugin.id))
    (i : Nat) (generated : FileSet) :
    (runFrom document config i generated plugins).2.result =
      .ok ((plugins.map (·.id)).foldl
        (fun files id ↦ files.putAll (filesAlone document config id)) generated) := by
  induction plugins generalizing i generated with
  | nil => rfl
  | cons plugin rest ih =>
    rw [result_runFrom_cons (h plugin List.mem_cons_self),
      ih fun other hother ↦ h other (List.mem_cons_of_mem plugin hother)]
    rfl

theorem refusal?_of_outcome {ids : List String} {files : FileSet}
    (h : outcome ids document config = .ok files) :
    ∀ plugin ∈ (ofIds ids).2.plugins, plugin.refusal? document config = none := by
  have hfails : failure? (outcome ids document config) = none := by rw [h, failure?_ok]
  rw [← List.findSome?_eq_none_iff, ← failure?_run (fun _ ↦ mem_builtin_of_mem_ofIds) document config]
  exact hfails

/-- A run that succeeds generates the files of each of its plugins, in the order in which these come
first. -/
theorem entries_outcome {ids : List String} {files : FileSet}
    (h : outcome ids document config = .ok files) :
    files.entries = (distinct (ofIds ids).2.ids).flatMap (filesAlone document config) := by
  have hbuiltin : ∀ plugin ∈ (ofIds ids).2.plugins, plugin ∈ Plugin.builtin :=
    fun _ ↦ mem_builtin_of_mem_ofIds
  have hadmitted := refusal?_of_outcome h
  have hadds : ∀ plugin ∈ (ofIds ids).2.plugins,
      plugin.Adds document config (filesAlone document config plugin.id) := by
    intro plugin hplugin
    obtain ⟨added, hadded⟩ := Plugin.exists_adds (hbuiltin plugin hplugin) (hadmitted plugin hplugin)
    rwa [filesAlone_id (hbuiltin plugin hplugin) hadded]
  have hapart : Apart (filesAlone document config) (ofIds ids).2.ids := by
    constructor
    · intro id hid
      obtain ⟨plugin, hplugin, rfl⟩ := List.mem_map.mp hid
      exact (hadds plugin hplugin).nodup
    · intro id hid other hother hne name hname hname'
      obtain ⟨plugin, hplugin, rfl⟩ := List.mem_map.mp hid
      obtain ⟨plugin', hplugin', rfl⟩ := List.mem_map.mp hother
      have hinitial := ((hadds plugin hplugin).named name hname).symm.trans
        ((hadds plugin' hplugin').named name hname')
      exact hne (Plugin.id_eq_of_initial (hbuiltin _ hplugin) (hbuiltin _ hplugin') hinitial)
  have hresult := (result_runFrom hadds 0 ∅).symm.trans h
  rw [← Except.ok.inj hresult]
  exact entries_foldl_putAll hapart

/-- Lists of the same plugins succeed or fail alike and generate the same files, each in the order of its
own plugins. -/
theorem outcome_of_same_plugins {first second : List String}
    (hsame : ∀ name ∈ Plugin.builtinIds,
      (∃ id ∈ first, Plugin.Names id name) ↔ ∃ id ∈ second, Plugin.Names id name)
    (document : Document) (config : Config) :
    ((∃ files, outcome first document config = .ok files) ↔
        ∃ files, outcome second document config = .ok files) ∧
      ∀ files others, outcome first document config = .ok files →
        outcome second document config = .ok others →
          (∀ name, files.get? name = others.get? name) ∧
            files.keys = (distinct (ofIds first).2.ids).flatMap
              (fun id ↦ (filesAlone document config id).keys) ∧
            others.keys = (distinct (ofIds second).2.ids).flatMap
              (fun id ↦ (filesAlone document config id).keys) := by
  have hids : ∀ name, name ∈ (ofIds first).2.ids ↔ name ∈ (ofIds second).2.ids := by
    intro name
    rw [mem_ids_ofIds, mem_ids_ofIds]
    exact and_congr_right fun hname ↦ hsame name hname
  refine ⟨?_, fun files others hfiles hothers ↦ ⟨?_, ?_, ?_⟩⟩
  · rw [exists_outcome_iff, exists_outcome_iff]
    simp only [hids]
  · have hentries : ∀ entry, entry ∈ files.entries ↔ entry ∈ others.entries := by
      intro entry
      rw [entries_outcome hfiles, entries_outcome hothers]
      simp only [List.mem_flatMap, mem_distinct, hids]
    intro name
    apply Option.ext
    intro file
    rw [OrderedMap.get?_eq_some_iff, OrderedMap.get?_eq_some_iff, hentries]
  · rw [OrderedMap.keys, entries_outcome hfiles]
    exact List.map_flatMap
  · rw [OrderedMap.keys, entries_outcome hothers]
    exact List.map_flatMap

/-- An interface of nothing but empty sections. -/
def emptyInterface : Document :=
  { api := some {} }

theorem emittable_emptyInterface : Emittable emptyInterface where
  opcodes _ hops := nomatch hops
  dtypes _ hdtypes := nomatch hdtypes
  interface api hapi name content hcontent := by
    cases hapi
    cases hcontent

set_option maxRecDepth 2000 in
theorem outcome_of_same_plugins_emptyInterface :
    (∀ name ∈ Plugin.builtinIds, (∃ id ∈ ["api", "GRPC", " PyBinder\n", "API"], Plugin.Names id name) ↔
        ∃ id ∈ ["pybinder", "Api "], Plugin.Names id name) ∧
      ∃ files others,
        outcome ["api", "GRPC", " PyBinder\n", "API"] emptyInterface {} = .ok files ∧
          outcome ["pybinder", "Api "] emptyInterface {} = .ok others ∧
            ∀ name, files.get? name = others.get? name := by
  have hsame : ∀ name ∈ Plugin.builtinIds,
      (∃ id ∈ ["api", "GRPC", " PyBinder\n", "API"], Plugin.Names id name) ↔
        ∃ id ∈ ["pybinder", "Api "], Plugin.Names id name := by decide
  have hsucceeds : ∃ files, outcome ["pybinder", "Api "] emptyInterface {} = .ok files := by
    refine exists_outcome_iff.mpr fun name hname ↦ ?_
    obtain ⟨plugin, hplugin, rfl⟩ := List.mem_map.mp hname
    exact emittable_iff_admits.mp emittable_emptyInterface plugin (mem_builtin_of_mem_ofIds hplugin)
  obtain ⟨halike, hfiles⟩ := outcome_of_same_plugins hsame emptyInterface {}
  obtain ⟨others, hothers⟩ := hsucceeds
  obtain ⟨files, hfiles'⟩ := halike.mpr ⟨others, hothers⟩
  exact ⟨hsame, files, others, hfiles', hothers, (hfiles files others hfiles' hothers).1⟩

end Pipeline

end SourceGen
