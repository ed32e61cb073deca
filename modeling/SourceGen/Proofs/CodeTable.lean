import Mathlib.Algebra.Group.Nat.Defs
import Mathlib.Data.Set.Function
import Mathlib.Order.Interval.Set.Defs
import SourceGen.CodeTable

/-!
# Laws of code tables

Names that are told apart, and from the sentinel, are encoded and decoded without loss: the two directions
are inverse to each other between the sentinel with the names and the codes up to their number. Names that
are declared behind those of a table leave the codes of the table as they are.
-/

namespace SourceGen.CodeTable

/-! ## Tables that grow -/

/-- The names of a table come first in a later one, and each of them keeps its code. -/
structure Extends (table later : CodeTable) : Prop where
  names : table.names <+: later.names
  encode : ∀ name ∈ table.names, later.encode name = table.encode name

theorem lastCode_eq_none {name : String} {names : List String} (h : name ∉ names) (code : Nat) :
    lastCode name code names = none := by
  induction names generalizing code with
  | nil => rfl
  | cons declared rest ih =>
    simp only [List.mem_cons, not_or] at h
    rw [lastCode, ih h.2, if_neg (Ne.symm h.1), Option.none_or]

/-- What follows the last declaration of a name has no part in its code. -/
theorem lastCode_append {name : String} {back : List String} (h : name ∉ back)
    (front : List String) (code : Nat) :
    lastCode name code (front ++ back) = lastCode name code front := by
  induction front generalizing code with
  | nil => exact lastCode_eq_none h code
  | cons declared rest ih => rw [List.cons_append, lastCode, lastCode, ih]

theorem extends_of_isPrefix {table later : CodeTable} (h : table.names <+: later.names)
    (hnodup : later.names.Nodup) : table.Extends later := by
  refine ⟨h, fun name hname ↦ ?_⟩
  obtain ⟨back, hback⟩ := h
  have hfresh : name ∉ back := by
    rw [← hback] at hnodup
    exact fun hmem ↦ (List.nodup_append.mp hnodup).2.2 name hname name hmem rfl
  rw [encode, encode, ← hback, lastCode_append hfresh]

/-! ## Encoding and decoding -/

section Inverse

variable {table : CodeTable}

theorem encode_of_not_mem {name : String} (h : name ∉ table.names) : table.encode name = 0 := by
  rw [encode, lastCode_eq_none h]
  rfl

theorem decode_of_size_lt {code : Nat} (h : table.size < code) :
    table.decode code = table.sentinel := by
  cases code with
  | zero => rfl
  | succ code => rw [decode, List.getElem?_eq_none (Nat.le_of_lt_succ h), Option.getD_none]

/-- Among names that are told apart, a name has the code of its place. -/
theorem lastCode_getElem {names : List String} (hnodup : names.Nodup) {i : Nat}
    (hi : i < names.length) (code : Nat) : lastCode names[i] code names = some (code + i) := by
  induction names generalizing i code with
  | nil => exact absurd hi (Nat.not_lt_zero i)
  | cons declared rest ih =>
    obtain ⟨hfresh, hrest⟩ := List.nodup_cons.mp hnodup
    cases i with
    | zero => rw [List.getElem_cons_zero, lastCode, lastCode_eq_none hfresh, if_pos rfl, Option.none_or,
        Nat.add_zero]
    | succ i =>
      rw [List.getElem_cons_succ, lastCode, ih hrest (Nat.lt_of_succ_lt_succ hi), Option.some_or,
        Nat.add_assoc, Nat.add_comm 1 i]

theorem encode_getElem (hnodup : table.names.Nodup) {i : Nat} (hi : i < table.names.length) :
    table.encode table.names[i] = i + 1 := by
  rw [encode, lastCode_getElem hnodup hi, Option.getD_some, Nat.add_comm]

theorem decode_succ {i : Nat} (hi : i < table.names.length) : table.decode (i + 1) = table.names[i] := by
  rw [decode, List.getElem?_eq_getElem hi, Option.getD_some]

/-- The names with which a table can answer. -/
def known (table : CodeTable) : Set String :=
  {name | name ∈ table.sentinel :: table.names}

/-- Encoding and decoding are inverse bijections between the names known to a table and the codes up to its
size; any other name is encoded as 0, and any other code is decoded as the sentinel. -/
structure IsInverse (table : CodeTable) : Prop where
  encode_bijOn : Set.BijOn table.encode table.known (Set.Iic table.size)
  decode_bijOn : Set.BijOn table.decode (Set.Iic table.size) table.known
  invOn : Set.InvOn table.decode table.encode table.known (Set.Iic table.size)
  encode_unknown : ∀ name ∉ table.known, table.encode name = 0
  decode_unknown : ∀ code ∉ Set.Iic table.size, table.decode code = table.sentinel

theorem isInverse (hnodup : table.names.Nodup) (hsentinel : table.sentinel ∉ table.names) :
    table.IsInverse := by
  have hencode : Set.MapsTo table.encode table.known (Set.Iic table.size) := by
    rintro name (_ | ⟨_, hname⟩)
    · rw [encode_of_not_mem hsentinel]
      exact Nat.zero_le _
    · obtain ⟨i, hi, rfl⟩ := List.getElem_of_mem hname
      rw [encode_getElem hnodup hi]
      exact hi
  have hdecode : Set.MapsTo table.decode (Set.Iic table.size) table.known := by
    rintro (_ | i) hcode
    · exact List.mem_cons_self
    · rw [decode_succ hcode]
      exact List.mem_cons_of_mem _ (List.getElem_mem _)
  have hinv : Set.InvOn table.decode table.encode table.known (Set.Iic table.size) := by
    constructor
    · rintro name (_ | ⟨_, hname⟩)
      · rw [encode_of_not_mem hsentinel]
        rfl
      · obtain ⟨i, hi, rfl⟩ := List.getElem_of_mem hname
        rw [encode_getElem hnodup hi, decode_succ hi]
    · rintro (_ | i) hcode
      · exact encode_of_not_mem hsentinel
      · rw [decode_succ hcode, encode_getElem hnodup hcode]
  refine ⟨hinv.bijOn hencode hdecode, hinv.symm.bijOn hdecode hencode, hinv, fun name hname ↦ ?_,
    fun code hcode ↦ decode_of_size_lt (Nat.lt_of_not_le hcode)⟩
  exact encode_of_not_mem fun hmem ↦ hname (List.mem_cons_of_mem _ hmem)

/-- The places of the names are counted in 32 bits without a code being met twice. -/
theorem toNat_ofNat_add_one {i : Nat} (h : i + 1 < 2 ^ 32) : (UInt32.ofNat i + 1).toNat = i + 1 := by
  rw [UInt32.toNat_add, UInt32.toNat_ofNat_of_lt' (Nat.lt_of_succ_lt h)]
  exact Nat.mod_eq_of_lt h

/-! ## Entries -/

theorem getElem?_numbered (code : Nat) (names : List String) (i : Nat) :
    (numbered code names)[i]? = names[i]?.map fun name ↦ (name, code + i) := by
  induction names generalizing code i with
  | nil => rfl
  | cons name rest ih =>
    cases i with
    | zero => rfl
    | succ i => rw [numbered, List.getElem?_cons_succ, List.getElem?_cons_succ, ih, Nat.add_right_comm]; rfl

/-- The entries give every name its code. -/
theorem entries_eq_map (hnodup : table.names.Nodup) :
    table.entries = table.names.map fun name ↦ (name, table.encode name) := by
  refine List.ext_getElem? fun i ↦ ?_
  rw [entries, getElem?_numbered, List.getElem?_map]
  rcases Nat.lt_or_ge i table.names.length with hi | hi
  · rw [List.getElem?_eq_getElem hi, Option.map_some, Option.map_some, encode_getElem hnodup hi,
      Nat.add_comm]
  · rw [List.getElem?_eq_none hi]
    rfl

theorem decode_of_mem_entries (hnodup : table.names.Nodup) (hsentinel : table.sentinel ∉ table.names)
    {entry : String × Nat} (h : entry ∈ table.entries) : table.decode entry.2 = entry.1 := by
  rw [entries_eq_map hnodup] at h
  obtain ⟨name, hname, rfl⟩ := List.mem_map.mp h
  exact (isInverse hnodup hsentinel).invOn.1 (List.mem_cons_of_mem _ hname)

/-- Among pairs that are made of items with different keys, an item's pair is found by its key. -/
theorem lookup_map {α κ β : Type} [BEq κ] [LawfulBEq κ] {items : List α} {key : α → κ}
    (value : α → β) (hinj : Set.InjOn key {item | item ∈ items}) {item : α} (hitem : item ∈ items) :
    (items.map fun item ↦ (key item, value item)).lookup (key item) = some (value item) := by
  induction items with
  | nil => cases hitem
  | cons first rest ih =>
    rw [List.map_cons, List.lookup_cons]
    split
    · next hkey =>
      rw [hinj hitem List.mem_cons_self (eq_of_beq hkey)]
    · next hkey =>
      have hrest : item ∈ rest := by
        rcases List.mem_cons.mp hitem with rfl | hrest
        · simp at hkey
        · exact hrest
      exact ih (hinj.mono fun _ hmem ↦ List.mem_cons_of_mem first hmem) hrest

/-- The entries as a list of codes with their names. -/
def codeEntries (table : CodeTable) : List (Nat × String) :=
  table.entries.map Prod.swap

/-- Looking up a name and then its code leads back to the name, and the other way round. -/
structure LooksUp (table : CodeTable) : Prop where
  length : table.entries.length = table.size
  name : ∀ name ∈ table.names,
    (table.entries.lookup name).bind (table.codeEntries.lookup ·) = some name
  code : ∀ code, 0 < code → code ≤ table.size →
    (table.codeEntries.lookup code).bind (table.entries.lookup ·) = some code

theorem looksUp (hnodup : table.names.Nodup) (hsentinel : table.sentinel ∉ table.names) :
    table.LooksUp := by
  have hentries := entries_eq_map hnodup
  have hcodes : table.codeEntries = table.names.map fun name ↦ (table.encode name, name) := by
    rw [codeEntries, hentries, List.map_map]
    rfl
  have hname : ∀ name ∈ table.names, table.entries.lookup name = some (table.encode name) := by
    intro name hname
    rw [hentries]
    exact lookup_map table.encode (Set.injOn_id _) hname
  have hcode : ∀ name ∈ table.names, table.codeEntries.lookup (table.encode name) = some name := by
    intro name hname
    have hinj : Set.InjOn table.encode {name | name ∈ table.names} :=
      (isInverse hnodup hsentinel).encode_bijOn.injOn.mono fun _ hmem ↦ List.mem_cons_of_mem _ hmem
    rw [hcodes]
    exact lookup_map id hinj hname
  refine ⟨by rw [hentries, List.length_map, size], fun name hmem ↦ ?_, fun code hpos hsize ↦ ?_⟩
  · rw [hname name hmem, Option.bind_some, hcode name hmem]
  · obtain ⟨i, rfl⟩ := Nat.exists_eq_add_one.mpr hpos
    have hmem : table.names[i] ∈ table.names := List.getElem_mem hsize
    rw [← encode_getElem hnodup hsize, hcode _ hmem, Option.bind_some, hname _ hmem]

/-- A table whose names are told apart from each other and from its sentinel loses nothing, be it in its
functions, in its entries or in codes of 32 bits. -/
structure IsLossless (table : CodeTable) : Prop where
  inverse : table.IsInverse
  lookups : table.LooksUp
  words : ∀ (i : Nat) (h : i < table.names.length),
    (UInt32.ofNat i + 1).toNat = table.encode table.names[i]

theorem isLossless (hnodup : table.names.Nodup) (hsentinel : table.sentinel ∉ table.names)
    (hsize : table.size < 2 ^ 32 - 1) : table.IsLossless := by
  refine ⟨isInverse hnodup hsentinel, looksUp hnodup hsentinel, fun i hi ↦ ?_⟩
  have hword : i + 1 < 2 ^ 32 := by
    rw [size] at hsize
    omega
  rw [toNat_ofNat_add_one hword, encode_getElem hnodup hi]

end Inverse

end SourceGen.CodeTable
