import SourceGen.Proofs.Template.Reading
import SourceGen.Proofs.Text.Joining

/-!
# Passages of filled templates

Lines that stand together in a source stand together in the text that it is filled to. So a part of a long
text is known from the lines that make it, whatever the others are.
-/

namespace SourceGen.Template

open Text

/-! ## Pieces and their texts -/

/-- The pieces that a text without placeholders reads as. -/
def textPieces (text : String) : List Piece :=
  text.toList.map .char

theorem flatMap_fill_textPieces (values : Entries String) (text : String) :
    (textPieces text).flatMap (·.fill values) = text.toList := by
  simp [textPieces, List.flatMap_map, Piece.fill]

/-- What pieces are filled to. -/
def filled (values : Entries String) (pieces : List Piece) : String :=
  String.ofList (pieces.flatMap (·.fill values))

theorem filled_append (values : Entries String) (front back : List Piece) :
    filled values (front ++ back) = filled values front ++ filled values back := by
  rw [filled, List.flatMap_append, String.ofList_append]
  rfl

theorem filled_textPieces (values : Entries String) (text : String) :
    filled values (textPieces text) = text := by
  rw [filled, flatMap_fill_textPieces, String.ofList_toList]

theorem filled_slot (values : Entries String) (name : String) :
    filled values [.slot name] = (values.get? name).getD "" := by
  rw [filled, List.flatMap_singleton, Piece.fill, String.ofList_toList]

theorem fill_eq_filled {source : List String} {values : Entries String} {pieces : List Piece}
    (hread : readSource (join "\n" source) = .ok pieces) (hnodup : values.keys.Nodup)
    (hslots : ∀ name ∈ slotNames pieces, name ∈ values.keys) :
    Emit.fill source values = .ok (filled values pieces) :=
  fill_eq_ok hread hnodup hslots

/-- Values behind those of all slots have no part in a text. -/
theorem filled_append_values {values : Entries String} {pieces : List Piece}
    (h : ∀ name, .slot name ∈ pieces → name ∈ values.keys) (extra : Entries String) :
    filled (values ++ extra) pieces = filled values pieces := by
  have hfill : ∀ piece ∈ pieces, piece.fill (values ++ extra) = piece.fill values := by
    intro piece hpiece
    cases piece with
    | slot name =>
      obtain ⟨value, hvalue⟩ := Option.isSome_iff_exists.mp (Entries.isSome_get?_iff.mpr (h name hpiece))
      rw [Piece.fill, Piece.fill, Entries.get?_append, hvalue, Option.some_or]
    | char c => rfl
    | marker name => rfl
  rw [filled, filled, List.flatMap_def, List.map_congr_left hfill, List.flatMap_def]

/-- Pieces of a source without those of lines that only a marker stands on. -/
def tidied (pieces : List Piece) : List Piece :=
  (cutLines pieces).flatMap tidyLine

theorem readSource_eq_ok_iff {source : String} {kept : List Piece} :
    readSource source = .ok kept ↔ ∃ pieces, Spells source.toList pieces ∧ tidied pieces = kept := by
  simp only [← readPieces_eq_ok_iff]
  exact map_eq_ok

theorem mem_of_mem_tidied {piece : Piece} {pieces : List Piece} (h : piece ∈ tidied pieces) :
    piece ∈ pieces := by
  obtain ⟨line, hline, htidy⟩ := List.mem_flatMap.mp h
  rw [← flatten_cutLines pieces]
  exact List.mem_flatten.mpr ⟨line, hline, mem_of_mem_tidyLine htidy⟩

theorem tidied_of_not_isMarker {pieces : List Piece} (h : ∀ piece ∈ pieces, piece.isMarker = false) :
    tidied pieces = pieces := by
  have htidy : ∀ line ∈ cutLines pieces, tidyLine line = id line := by
    intro line hline
    refine tidyLine_of_not_isMarker fun piece hpiece ↦ h piece ?_
    rw [← flatten_cutLines pieces]
    exact List.mem_flatten.mpr ⟨line, hline, hpiece⟩
  rw [tidied, List.flatMap_def, List.map_congr_left htidy, List.map_id, flatten_cutLines]

theorem cutLines_append_newline (front back : List Piece) :
    cutLines (front ++ .char '\n' :: back) = cutLines (front ++ [.char '\n']) ++ cutLines back := by
  induction front with
  | nil => rfl
  | cons piece rest ih =>
    rw [List.cons_append, List.cons_append, cutLines, cutLines, ih]
    by_cases hpiece : piece = .char '\n'
    · rw [if_pos hpiece, if_pos hpiece, List.cons_append]
    · rw [if_neg hpiece, if_neg hpiece]
      cases hrest : cutLines (rest ++ [.char '\n']) with
      | nil =>
        have hflatten := flatten_cutLines (rest ++ [.char '\n'])
        rw [hrest] at hflatten
        simp at hflatten
      | cons line more => rfl

theorem tidied_append_newline (front back : List Piece) :
    tidied (front ++ .char '\n' :: back) = tidied (front ++ [.char '\n']) ++ tidied back := by
  rw [tidied, cutLines_append_newline, List.flatMap_append]
  rfl

/-- Lines without markers are kept between those before and behind them. -/
theorem tidied_passage {passage : List Piece} (h : ∀ piece ∈ passage, piece.isMarker = false)
    (front back : List Piece) : tidied (front ++ .char '\n' :: (passage ++ .char '\n' :: back)) =
      tidied (front ++ [.char '\n']) ++ (passage ++ .char '\n' :: tidied back) := by
  have hline : ∀ piece ∈ passage ++ [.char '\n'], piece.isMarker = false :=
    List.forall_mem_append.mpr ⟨h, List.forall_mem_singleton.mpr rfl⟩
  calc
    _ = tidied (front ++ [.char '\n']) ++ (tidied (passage ++ [.char '\n']) ++ tidied back) := by
      rw [tidied_append_newline, tidied_append_newline passage]
    _ = _ := by rw [tidied_of_not_isMarker hline, List.append_assoc, List.singleton_append]

/-! ## Lines -/

/-- A line without markers is filled to a text. -/
def FillsTo (values : Entries String) (line text : String) : Prop :=
  ∃ pieces, readPieces .text line.toList = .ok pieces ∧ (∀ piece ∈ pieces, piece.isMarker = false) ∧
    text.toList = pieces.flatMap (·.fill values)

section Lines

variable {values : Entries String}

theorem readPieces_of_not_mem {cs : List Char} (h : '$' ∉ cs) :
    readPieces .text cs = .ok (cs.map .char) := by
  induction cs with
  | nil => rfl
  | cons c rest ih =>
    rw [List.mem_cons, not_or] at h
    rw [readPieces, if_neg (Ne.symm h.1), ih h.2]
    rfl

/-- A line without placeholders stays as it is. -/
theorem FillsTo.plain {cs : List Char} {text : String} (h : '$' ∉ cs) (htext : text = String.ofList cs) :
    FillsTo values (String.ofList cs) text := by
  refine ⟨cs.map .char, ?_, by simp [Piece.isMarker], ?_⟩
  · rw [String.toList_ofList, readPieces_of_not_mem h]
  · simp [htext, List.flatMap_map, Piece.fill]

/-- A line with one slot. -/
theorem FillsTo.slot {line : String} (front name back : String)
    (h : readPieces .text line.toList = .ok (textPieces front ++ .slot name :: textPieces back)) :
    FillsTo values line (front ++ (values.get? name).getD "" ++ back) := by
  refine ⟨_, h, fun piece hpiece ↦ ?_, ?_⟩
  · simp only [textPieces, List.mem_append, List.mem_cons, List.mem_map] at hpiece
    rcases hpiece with ⟨c, -, rfl⟩ | rfl | ⟨c, -, rfl⟩ <;> rfl
  · rw [List.flatMap_append, List.flatMap_cons, flatMap_fill_textPieces, flatMap_fill_textPieces,
      Piece.fill, String.toList_append, String.toList_append, List.append_assoc]

/-- A line that ends with its only slot. -/
theorem FillsTo.slot_end {line : String} (front name : String)
    (h : readPieces .text line.toList = .ok (textPieces front ++ [.slot name])) :
    FillsTo values line (front ++ (values.get? name).getD "") := by
  have hslot : FillsTo values line (front ++ (values.get? name).getD "" ++ "") := .slot front name "" h
  rwa [String.append_empty] at hslot

/-- A line that is nothing but a slot. -/
theorem FillsTo.slot_alone {line : String} (name : String)
    (h : readPieces .text line.toList = .ok [.slot name]) :
    FillsTo values line ((values.get? name).getD "") := by
  have hslot : FillsTo values line ("" ++ (values.get? name).getD "") := .slot_end "" name h
  rwa [String.empty_append] at hslot

theorem exists_pieces_of_fillsTo {lines texts : List String}
    (h : List.Forall₂ (FillsTo values) lines texts) :
    ∃ pieces, readPieces .text (join "\n" lines).toList = .ok pieces ∧
      (∀ piece ∈ pieces, piece.isMarker = false) ∧
        (join "\n" texts).toList = pieces.flatMap (·.fill values) := by
  induction h with
  | nil => exact ⟨[], rfl, by simp, rfl⟩
  | @cons line text lines texts hline hlines ih =>
    obtain ⟨pieces, hread, hmarkers, hfill⟩ := hline
    cases hlines with
    | nil =>
      rw [join_singleton, join_singleton]
      exact ⟨pieces, hread, hmarkers, hfill⟩
    | @cons next text' lines texts hnext hrest =>
      obtain ⟨later, hread', hmarkers', hfill'⟩ := ih
      have hspells := (readPieces_eq_ok_iff.mp hread).append_newline (readPieces_eq_ok_iff.mp hread')
      refine ⟨pieces ++ .char '\n' :: later, ?_, ?_, ?_⟩
      · rw [join_cons_cons, String.toList_append, String.toList_append]
        exact hspells.readPieces
      · exact List.forall_mem_append.mpr ⟨hmarkers, List.forall_mem_cons.mpr ⟨rfl, hmarkers'⟩⟩
      · rw [join_cons_cons, String.toList_append, String.toList_append, List.flatMap_append,
          List.flatMap_cons, ← hfill, ← hfill']
        rfl

/-- Lines without markers are read to what stands between what the lines before and behind them are
read to. -/
theorem readSource_passage {front passage back : List String} {earlier pieces later : List Piece}
    (hfront : front ≠ []) (hpassage : passage ≠ []) (hback : back ≠ [])
    (hearlier : readPieces .text (join "\n" front).toList = .ok earlier)
    (hread : readPieces .text (join "\n" passage).toList = .ok pieces)
    (hlater : readPieces .text (join "\n" back).toList = .ok later)
    (hmarkers : ∀ piece ∈ pieces, piece.isMarker = false) :
    readSource (join "\n" (front ++ (passage ++ back))) =
      .ok (tidied (earlier ++ [.char '\n']) ++ (pieces ++ .char '\n' :: tidied later)) := by
  refine readSource_eq_ok_iff.mpr ⟨earlier ++ .char '\n' :: (pieces ++ .char '\n' :: later), ?_,
    tidied_passage hmarkers earlier later⟩
  rw [join_append hfront (List.append_ne_nil_of_left_ne_nil hpassage _), join_append hpassage hback]
  simp only [String.toList_append]
  exact (readPieces_eq_ok_iff.mp hearlier).append_newline
    ((readPieces_eq_ok_iff.mp hread).append_newline (readPieces_eq_ok_iff.mp hlater))

/-- Lines that neither begin nor end a source are filled where they stand. -/
theorem within_of_fillsTo {source texts : List String} {text : String}
    (hlines : ∀ line ∈ source, ReadsWithin values.keys line.toList) (hnodup : values.keys.Nodup)
    (hfill : Emit.fill source values = .ok text) (first count : Nat) (hfirst : 0 < first)
    (hlast : first + count < source.length)
    (h : List.Forall₂ (FillsTo values) ((source.drop first).take count) texts) :
    Within (join "\n" texts) text := by
  obtain ⟨pieces, hread, hmarkers, hpassage⟩ := exists_pieces_of_fillsTo h
  by_cases hblock : (source.drop first).take count = []
  · rw [hblock] at h
    cases h
    exact List.nil_infix
  have hbefore : source.take first ≠ [] := by
    rw [← List.length_pos_iff, List.length_take]
    omega
  have hafter : (source.drop first).drop count ≠ [] := by
    rw [← List.length_pos_iff, List.length_drop, List.length_drop]
    omega
  have hsource : source.take first ++
      ((source.drop first).take count ++ (source.drop first).drop count) = source := by
    rw [List.take_append_drop, List.take_append_drop]
  obtain ⟨earlier, hearlier, -⟩ := ReadsWithin.join_newline fun line hline ↦
    hlines line (List.mem_of_mem_take hline)
  obtain ⟨later, hlater, -⟩ := ReadsWithin.join_newline fun line hline ↦
    hlines line (List.mem_of_mem_drop (List.mem_of_mem_drop hline))
  have hpieces := hsource ▸ readSource_passage hbefore hblock hafter hearlier hread hlater hmarkers
  obtain ⟨read, hread', hslots⟩ := (ReadsWithin.join_newline hlines).readSource
  obtain rfl := Except.ok.inj (hpieces.symm.trans hread')
  rw [fill_eq_ok hpieces hnodup hslots] at hfill
  obtain rfl := Except.ok.inj hfill
  rw [Within, hpassage, String.toList_ofList, List.flatMap_append, List.flatMap_append]
  exact (List.prefix_append _ _).isInfix.trans (List.suffix_append _ _).isInfix

/-- Where a slot stands on one line only, and alone, the text is the same before and behind it whatever its
value. -/
theorem exists_fill_slot_alone {front back : List String} {line name : String} (hfront : front ≠ [])
    (hback : back ≠ []) (hlines : ∀ other ∈ front ++ back, ReadsWithin values.keys other.toList)
    (hline : readPieces .text line.toList = .ok [.slot name])
    (hnodup : (values.keys ++ [name]).Nodup) :
    ∃ before after, ∀ part, Emit.fill (front ++ line :: back) (values ++ [(name, part)]) =
      .ok (before ++ part ++ after) := by
  obtain ⟨hfronts, hbacks⟩ := List.forall_mem_append.mp hlines
  obtain ⟨earlier, hearlier, hslots⟩ := ReadsWithin.join_newline hfronts
  obtain ⟨later, hlater, hslots'⟩ := ReadsWithin.join_newline hbacks
  have hslot : readPieces .text (join "\n" [line]).toList = .ok [.slot name] := by rwa [join_singleton]
  have hread := readSource_passage hfront (List.cons_ne_nil line []) hback hearlier hslot hlater
    (List.forall_mem_singleton.mpr rfl)
  have hbefore : ∀ other, .slot other ∈ tidied (earlier ++ [.char '\n']) → other ∈ values.keys :=
    fun other hother ↦ hslots other (by simpa using mem_of_mem_tidied hother)
  have hafter : ∀ other, .slot other ∈ .char '\n' :: tidied later → other ∈ values.keys :=
    fun other hother ↦ hslots' other (mem_of_mem_tidied (by simpa using hother))
  refine ⟨filled values (tidied (earlier ++ [.char '\n'])), filled values (.char '\n' :: tidied later),
    fun part ↦ ?_⟩
  have hkeys : Entries.keys (values ++ [(name, part)]) = values.keys ++ [name] := List.map_append
  have hfresh : name ∉ values.keys := fun hmem ↦
    (List.nodup_append.mp hnodup).2.2 name hmem name (List.mem_singleton_self name) rfl
  have hpart : Entries.get? name (values ++ [(name, part)]) = some part := by
    rw [Entries.get?_append, Entries.get?_eq_none_iff.mpr hfresh, Option.none_or, Entries.get?_cons,
      if_pos rfl]
  have hnames : ∀ other ∈ slotNames (tidied (earlier ++ [.char '\n']) ++
      ([.slot name] ++ .char '\n' :: tidied later)), other ∈ Entries.keys (values ++ [(name, part)]) := by
    intro other hother
    rw [hkeys, List.mem_append]
    rcases List.mem_append.mp (mem_slotNames.mp hother) with hmem | hmem
    · exact .inl (hbefore other hmem)
    · rcases List.mem_cons.mp hmem with heq | hmem
      · exact .inr (List.mem_singleton.mpr (Piece.slot.inj heq))
      · exact .inl (hafter other hmem)
  rw [← List.singleton_append, fill_eq_filled hread (hkeys ▸ hnodup) hnames, filled_append, filled_append,
    filled_slot, hpart, filled_append_values hbefore, filled_append_values hafter, Option.getD_some,
    String.append_assoc]

end Lines

end SourceGen.Template
