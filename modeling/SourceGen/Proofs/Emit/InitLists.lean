import Mathlib.Data.List.Sort
import SourceGen.Proofs.Emit.Classes
import SourceGen.Proofs.Emit.Items

/-!
# Init lists

The init list of a constructor, a copy or a move states each of its entries once, in the order in which
their members are first declared. The order in the document has no part in it, except that the first entry
without a member is the one that is refused.
-/

namespace SourceGen.Emit

open Spec Text

variable {cls : ClassDecl} {namespaceName field : String}

/-! ## Places of members -/

/-- A class declares a member with a name. -/
def Declares (cls : ClassDecl) (name : String) : Prop :=
  ∃ member ∈ cls.members, member.name = name

instance {name : String} : Decidable (Declares cls name) :=
  inferInstanceAs (Decidable (∃ member ∈ cls.members, member.name = name))

/-- Where a name is first declared among the members. -/
def memberPlace (cls : ClassDecl) (name : String) : Nat :=
  (cls.members.map (·.name)).idxOf name

theorem memberPosition?_of_declares {name : String} (h : Declares cls name) :
    memberPosition? cls name = some (memberPlace cls name) := by
  obtain ⟨member, hmember, hname⟩ := h
  have hfound : cls.members.findIdx? (·.name == name) = some (cls.members.findIdx (·.name == name)) :=
    List.findIdx?_eq_some_of_exists ⟨member, hmember, beq_iff_eq.mpr hname⟩
  rw [memberPosition?, hfound, memberPlace, List.idxOf, List.findIdx_map]
  rfl

/-- Declared names are told apart by their places, also where a name is declared twice. -/
theorem memberPlace_inj {first second : String} (h : Declares cls first) :
    memberPlace cls first = memberPlace cls second ↔ first = second :=
  List.idxOf_inj (List.mem_map.mpr h)

/-! ## Entries in order -/

/-- The entries of an init list, each once, as their members are first declared. -/
structure InPlace (cls : ClassDecl) (initList entries : Entries String) : Prop where
  perm : entries.Perm initList
  ordered : entries.Pairwise fun first second ↦ memberPlace cls first.1 < memberPlace cls second.1

/-- Only one order of the entries is that of the members. -/
theorem InPlace.unique {initList permuted entries others : Entries String}
    (h : InPlace cls initList entries) (hothers : InPlace cls permuted others)
    (hperm : permuted.Perm initList) : others = entries :=
  (hothers.perm.trans (hperm.trans h.perm.symm)).eq_of_pairwise
    (fun _ _ _ _ hlt hgt ↦ absurd hgt (Nat.lt_asymm hlt)) hothers.ordered h.ordered

theorem placeEntries_of_declares {entries : Entries String} (h : ∀ key ∈ entries.keys, Declares cls key) :
    placeEntries namespaceName cls field entries =
      .ok (entries.map fun entry ↦ (memberPlace cls entry.1, entry)) := by
  induction entries with
  | nil => rfl
  | cons entry rest ih =>
    obtain ⟨hentry, hrest⟩ := List.forall_mem_cons.mp h
    rw [placeEntries, memberPosition?_of_declares hentry, ih hrest]
    rfl

/-- Placed entries in the order in which they are stated. -/
def byPlace (placed : List (Nat × String × String)) : List (Nat × String × String) :=
  placed.mergeSort fun first second ↦ decide (first.1 ≤ second.1)

theorem pairwise_byPlace (placed : List (Nat × String × String)) :
    (byPlace placed).Pairwise fun first second ↦ first.1 ≤ second.1 := by
  refine (List.pairwise_mergeSort ?_ ?_ placed).imp of_decide_eq_true
  · intro first second third hfirst hsecond
    exact decide_eq_true (Nat.le_trans (of_decide_eq_true hfirst) (of_decide_eq_true hsecond))
  · intro first second
    simpa only [Bool.or_eq_true, decide_eq_true_eq] using Nat.le_total first.1 second.1

/-- Entries sorted by the places of distinct declared members are in place. -/
theorem inPlace_byPlace {entries : Entries String} (hnodup : entries.keys.Nodup)
    (h : ∀ key ∈ entries.keys, Declares cls key) :
    InPlace cls entries
      ((byPlace (entries.map fun entry ↦ (memberPlace cls entry.1, entry))).map Prod.snd) := by
  have hperm := List.mergeSort_perm (entries.map fun entry ↦ (memberPlace cls entry.1, entry))
    fun first second ↦ decide (first.1 ≤ second.1)
  have hentries : ((entries.map fun entry ↦ (memberPlace cls entry.1, entry)).map Prod.snd) = entries := by
    rw [List.map_map]
    exact List.map_id entries
  have hsnd := hentries ▸ hperm.map Prod.snd
  refine ⟨hsnd, List.pairwise_map.mpr ?_⟩
  -- Equal places would be those of one name, and no name has two entries.
  have hdistinct := List.pairwise_map.mp (List.pairwise_map.mp ((hsnd.map Prod.fst).nodup_iff.mpr hnodup))
  refine ((pairwise_byPlace _).and hdistinct).imp_of_mem ?_
  rintro first second hfirst hsecond ⟨hle, hne⟩
  obtain ⟨entry, hentry, rfl⟩ := List.mem_map.mp (hperm.mem_iff.mp hfirst)
  obtain ⟨other, -, rfl⟩ := List.mem_map.mp (hperm.mem_iff.mp hsecond)
  have hdeclared := h entry.1 (List.mem_map_of_mem hentry)
  exact Nat.lt_of_le_of_ne hle fun heq ↦ hne ((memberPlace_inj hdeclared).mp heq)

theorem exists_orderEntries_eq_ok {initList : OrderedMap String} (h : NamesMembers cls initList) :
    ∃ entries, orderEntries namespaceName cls field initList = .ok entries ∧
      InPlace cls initList.entries entries := by
  refine ⟨_, ?_, inPlace_byPlace initList.nodup h⟩
  rw [orderEntries, placeEntries_of_declares h]
  rfl

/-! ## Entries without a member -/

/-- The blame for an entry of an init list that names no member. -/
def strayEntry (namespaceName : String) (cls : ClassDecl) (field name : String) : GenError :=
  .malformedSpec ("api.namespaces." ++ namespaceName ++ ".classes." ++ cls.name ++ "." ++ field ++
      ".initlist." ++ name) ("'" ++ name ++ "' is not a member of " ++ cls.name)

theorem strayEntry_eq (namespaceName : String) (cls : ClassDecl) (field name : String) :
    strayEntry namespaceName cls field name =
      .malformedSpec (classKey namespaceName cls (field ++ ".initlist." ++ name))
        ("'" ++ name ++ "' is not a member of " ++ cls.name) := by
  unfold strayEntry classKey
  simp only [String.append_assoc]

theorem placeEntries_of_stray {before after : Entries String} {name value : String}
    (hbefore : ∀ key ∈ before.keys, Declares cls key) (hname : ¬ Declares cls name) :
    placeEntries namespaceName cls field (before ++ (name, value) :: after) =
      .error (strayEntry namespaceName cls field name) := by
  induction before with
  | nil =>
    rw [List.nil_append, placeEntries, memberPosition?_eq_none_iff.mpr hname, strayEntry_eq]
  | cons entry rest ih =>
    obtain ⟨hentry, hrest⟩ := List.forall_mem_cons.mp hbefore
    rw [List.cons_append, placeEntries, memberPosition?_of_declares hentry, ih hrest]
    rfl

/-- Among entries that do not all name members there is a first one that names none. -/
theorem exists_first_stray {entries : Entries String} (h : ¬ ∀ key ∈ entries.keys, Declares cls key) :
    ∃ (before : Entries String) (name value : String) (after : Entries String),
      entries = before ++ (name, value) :: after ∧ (∀ key ∈ before.keys, Declares cls key) ∧
        ¬ Declares cls name := by
  induction entries with
  | nil => exact absurd (List.forall_mem_nil _) h
  | cons entry rest ih =>
    by_cases hentry : Declares cls entry.1
    · have hrest : ¬ ∀ key ∈ Entries.keys rest, Declares cls key :=
        fun hrest ↦ h (List.forall_mem_cons.mpr ⟨hentry, hrest⟩)
      obtain ⟨before, name, value, after, rfl, hbefore, hname⟩ := ih hrest
      have hnamed := List.forall_mem_cons.mpr ⟨hentry, hbefore⟩
      exact ⟨entry :: before, name, value, after, rfl, hnamed, hname⟩
    · exact ⟨[], entry.1, entry.2, rest, rfl, List.forall_mem_nil _, hentry⟩

/-! ## Blocks with their init lists -/

/-- The init list that a class has in one of its fields, as text. -/
def initClause (namespaceName : String) (cls : ClassDecl) (field : String)
    (initList : OrderedMap String) : Except GenError String :=
  initListText <$> orderEntries namespaceName cls field initList

theorem initClause_of_orderEntries {initList : OrderedMap String} {entries : Entries String}
    (h : orderEntries namespaceName cls field initList = .ok entries) :
    initClause namespaceName cls field initList = .ok (clauseText entries) := by
  rw [initClause, h, ← initListText_eq]
  rfl

/-- The field of a class that holds a copy or a move. -/
def TransferKind.key : TransferKind → String
  | copy => "copy"
  | move => "move"

namespace SpecialBlock

/-- The field of a class that holds a block. -/
def key : SpecialBlock → String
  | construct _ => "init"
  | transfer kind _ => kind.key

def initList : SpecialBlock → OrderedMap String
  | construct init => init.initList
  | transfer _ spec => spec.initList

/-- The definitions of a block, whose init list may be refused. -/
def rendered (namespaceName : String) (cls : ClassDecl) (block : SpecialBlock) : Except GenError String :=
  (fun clause ↦ block.opening cls ++ clause ++ block.closing cls) <$>
    initClause namespaceName cls block.key block.initList

end SpecialBlock

section Definitions

variable (api : Api) (config : Config)

theorem map_text_singleton (block : SpecialBlock) (definition : Entries String → MemberDefinition)
    (h : ∀ entries, (definition entries).text cls api config = block.text cls entries) :
    List.map (·.text cls api config) <$> ((fun entries ↦ [definition entries]) <$>
        orderEntries namespaceName cls block.key block.initList) =
      [block].mapM (·.rendered namespaceName cls) := by
  rw [List.mapM_cons, SpecialBlock.rendered, initClause]
  cases orderEntries namespaceName cls block.key block.initList with
  | error error => rfl
  | ok entries =>
    have htext : (definition entries).text cls api config =
        block.opening cls ++ initListText entries ++ block.closing cls := by
      rw [h, SpecialBlock.text, initListText_eq]
    exact congrArg (fun text ↦ Except.ok [text]) htext

theorem map_text_constructDefinition :
    List.map (·.text cls api config) <$> constructDefinition namespaceName cls =
      (cls.init.map SpecialBlock.construct).toList.mapM (·.rendered namespaceName cls) := by
  rw [constructDefinition]
  cases cls.init with
  | none => rfl
  | some init =>
    exact map_text_singleton api config (.construct init) (.construct init) (constructText_eq cls init)

theorem map_text_transferDefinition (kind : TransferKind) (spec : Option Transfer) :
    List.map (·.text cls api config) <$> transferDefinition namespaceName cls kind kind.key spec =
      (spec.map (SpecialBlock.transfer kind)).toList.mapM (·.rendered namespaceName cls) := by
  cases spec with
  | none => rfl
  | some spec =>
    exact map_text_singleton api config (.transfer kind spec) (.transfer kind spec)
      (transferText_eq cls kind spec)

/-- A class defines its special blocks one after the other, each with the init list of its own field. -/
theorem map_text_specialDefinitions :
    List.map (·.text cls api config) <$> specialDefinitions namespaceName cls =
      (specialBlocks cls).mapM (·.rendered namespaceName cls) := by
  rw [specialBlocks, List.mapM_append, List.mapM_append, ← map_text_constructDefinition api config,
    ← map_text_transferDefinition api config .copy, ← map_text_transferDefinition api config .move,
    specialDefinitions]
  simp only [TransferKind.key]
  cases constructDefinition namespaceName cls with
  | error error => rfl
  | ok construct =>
    cases transferDefinition namespaceName cls .copy "copy" cls.copy with
    | error error => rfl
    | ok copy =>
      cases transferDefinition namespaceName cls .move "move" cls.move with
      | error error => rfl
      | ok move => simp [Functor.map, Except.map, bind, Except.bind, pure, Except.pure]

end Definitions

/-- The text of an init list whose keys all name members has a colon and its entries, each once and as a name
with its value in parentheses, by the places where the members are first declared. The entries in any other
order have the same text. Any other init list is refused at its first key that names no member. The special
definitions of a class are its blocks in their order, each with the init list of its own field behind the
signature of its constructor, and fail as the first of these does. -/
theorem initLists_state_members_in_order (namespaceName : String) (cls : ClassDecl) (api : Api)
    (config : Config) :
    (∀ (field : String) (initList : OrderedMap String),
      (NamesMembers cls initList → ∃ entries,
        InPlace cls initList.entries entries ∧
        initClause namespaceName cls field initList = .ok (clauseText entries) ∧
        ∀ permuted : OrderedMap String, permuted.entries.Perm initList.entries →
          initClause namespaceName cls field permuted = .ok (clauseText entries)) ∧
      (¬ NamesMembers cls initList →
        ∃ (before : Entries String) (name value : String) (after : Entries String),
          initList.entries = before ++ (name, value) :: after ∧
          (∀ key ∈ before.keys, Declares cls key) ∧ ¬ Declares cls name ∧
          initClause namespaceName cls field initList =
            .error (strayEntry namespaceName cls field name))) ∧
    List.map (·.text cls api config) <$> specialDefinitions namespaceName cls =
      (specialBlocks cls).mapM (·.rendered namespaceName cls) := by
  refine ⟨fun field initList ↦ ⟨fun hmembers ↦ ?_, fun hstray ↦ ?_⟩, map_text_specialDefinitions api config⟩
  · obtain ⟨entries, hentries, hplace⟩ := exists_orderEntries_eq_ok hmembers
    refine ⟨entries, hplace, initClause_of_orderEntries hentries, fun permuted hperm ↦ ?_⟩
    have hkeys : permuted.keys.Perm initList.keys := hperm.map Prod.fst
    have hpermuted : NamesMembers cls permuted := fun key hkey ↦ hmembers key (hkeys.mem_iff.mp hkey)
    obtain ⟨others, hothers, hplace'⟩ := exists_orderEntries_eq_ok hpermuted
    rw [initClause_of_orderEntries hothers, hplace.unique hplace' hperm]
  · obtain ⟨before, name, value, after, hsplit, hbefore, hname⟩ := exists_first_stray hstray
    refine ⟨before, name, value, after, hsplit, hbefore, hname, ?_⟩
    rw [initClause, orderEntries, hsplit, placeEntries_of_stray hbefore hname]
    rfl

example : initClause "_" { name := "Pair", members := ["b", "a", "b"].map ({ name := ·, type := "int" }) }
    "init" (.ofEntries [("a", "1"), ("b", "2")]) = .ok " : b(2), a(1)" := by
  cbv

end SourceGen.Emit
