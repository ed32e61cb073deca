import Mathlib.Tactic.ByContra
import SourceGen.Text.Pieces

/-!
# Joined texts

Each of the texts that are joined stands in the whole. Where a text ends in the middle of a line, the break
behind it closes the line, so its lines and those of what follows are the lines of both.
-/

namespace SourceGen.Text

/-! ## Texts within others -/

/-- A text stands somewhere in another. -/
def Within (part text : String) : Prop :=
  part.toList <:+: text.toList

theorem Within.trans {part text whole : String} (h : Within part text) (htext : Within text whole) :
    Within part whole :=
  List.IsInfix.trans h htext

theorem occursIn_iff {needle cs : List Char} : occursIn needle cs = true ↔ needle <:+: cs := by
  induction cs with
  | nil => rw [occursIn, List.isEmpty_iff, List.infix_nil]
  | cons c rest ih => rw [occursIn, Bool.or_eq_true, ih, List.isPrefixOf_iff_prefix, List.infix_cons_iff]

theorem contains_iff {text part : String} : contains text part = true ↔ Within part text :=
  occursIn_iff

@[simp] theorem join_singleton (separator piece : String) : join separator [piece] = piece :=
  String.intercalate_singleton

theorem join_cons_cons (separator first next : String) (rest : List String) :
    join separator (first :: next :: rest) = first ++ (separator ++ join separator (next :: rest)) := by
  rw [← String.toList_inj]
  simp only [join, String.toList_intercalate, String.toList_append, List.map_cons,
    List.intercalate_cons_cons, List.append_assoc]

theorem join_cons {separator first : String} {rest : List String} (h : rest ≠ []) :
    join separator (first :: rest) = first ++ (separator ++ join separator rest) := by
  obtain ⟨next, more, rfl⟩ := List.exists_cons_of_ne_nil h
  exact join_cons_cons separator first next more

/-- Each of the texts that are joined stands in the whole. -/
theorem within_join {separator piece : String} {pieces : List String} (h : piece ∈ pieces) :
    Within piece (join separator pieces) := by
  induction pieces with
  | nil => cases h
  | cons first rest ih =>
    cases rest with
    | nil =>
      obtain rfl := List.mem_singleton.mp h
      rw [join_singleton]
      exact List.infix_refl _
    | cons next rest =>
      rw [Within, join_cons_cons, String.toList_append, String.toList_append]
      rcases List.mem_cons.mp h with rfl | hrest
      · exact (List.prefix_append _ _).isInfix
      · exact List.IsInfix.trans (ih hrest)
          ((List.suffix_append _ _).trans (List.suffix_append _ _)).isInfix

/-- Two joined parts, each of at least one piece, have a separator between them. -/
theorem join_append {separator : String} {front back : List String} (hfront : front ≠ [])
    (hback : back ≠ []) : join separator (front ++ back) =
      join separator front ++ (separator ++ join separator back) := by
  induction front with
  | nil => exact absurd rfl hfront
  | cons first rest ih =>
    cases rest with
    | nil =>
      obtain ⟨next, more, rfl⟩ := List.exists_cons_of_ne_nil hback
      rw [List.singleton_append, join_cons_cons, join_singleton]
    | cons next rest =>
      rw [List.cons_append, List.cons_append, join_cons_cons, ← List.cons_append,
        ih (List.cons_ne_nil _ _), join_cons_cons]
      simp only [String.append_assoc]

/-- What is joined already may as well be joined with the rest. -/
theorem join_append_join {separator : String} {middle : List String} (hmiddle : middle ≠ [])
    (front back : List String) : join separator (front ++ (join separator middle :: back)) =
      join separator (front ++ (middle ++ back)) := by
  have hback : join separator (join separator middle :: back) = join separator (middle ++ back) := by
    cases back with
    | nil => rw [join_singleton, List.append_nil]
    | cons next rest => rw [join_cons_cons, join_append hmiddle (List.cons_ne_nil _ _)]
  by_cases hfront : front = []
  · rw [hfront, List.nil_append, List.nil_append, hback]
  · rw [join_append hfront (List.cons_ne_nil _ _), hback,
      join_append hfront (List.append_ne_nil_of_left_ne_nil hmiddle _)]

/-! ## Lines -/

theorem splitWhere_ne_nil (separator : Char → Bool) (cs : List Char) :
    splitWhere separator cs ≠ [] := by
  cases cs with
  | nil => exact List.cons_ne_nil _ _
  | cons c rest =>
    rw [splitWhere]
    split
    · exact List.cons_ne_nil _ _
    · split <;> exact List.cons_ne_nil _ _

theorem exists_splitWhere_eq (separator : Char → Bool) (cs : List Char) :
    ∃ pieces last, splitWhere separator cs = pieces ++ [last] :=
  ⟨_, _, (List.dropLast_concat_getLast (splitWhere_ne_nil separator cs)).symm⟩

theorem splitWhere_append {separator : Char → Bool} {mark : Char} (hmark : separator mark = true)
    (front back : List Char) : splitWhere separator (front ++ mark :: back) =
      splitWhere separator front ++ splitWhere separator back := by
  induction front with
  | nil => simp [splitWhere, hmark]
  | cons c rest ih =>
    rw [List.cons_append, splitWhere, splitWhere, ih]
    split
    · rfl
    · obtain ⟨piece, more, hrest⟩ := List.exists_cons_of_ne_nil (splitWhere_ne_nil separator rest)
      rw [hrest]
      rfl

theorem splitWhere_of_not_mem {mark : Char} {cs : List Char} (h : mark ∉ cs) :
    splitWhere (· == mark) cs = [cs] := by
  induction cs with
  | nil => rfl
  | cons c rest ih =>
    rw [List.mem_cons, not_or] at h
    rw [splitWhere, ih h.2, if_neg (by simpa using Ne.symm h.1)]

/-- Pieces that were joined come back. -/
theorem splitWhere_intercalate {mark : Char} {pieces : List (List Char)} (hne : pieces ≠ [])
    (h : ∀ piece ∈ pieces, mark ∉ piece) :
    splitWhere (· == mark) ([mark].intercalate pieces) = pieces := by
  induction pieces with
  | nil => exact absurd rfl hne
  | cons first rest ih =>
    obtain ⟨hfirst, hrest⟩ := List.forall_mem_cons.mp h
    cases rest with
    | nil => rw [List.intercalate_singleton, splitWhere_of_not_mem hfirst]
    | cons next more =>
      rw [List.intercalate_cons_cons, List.append_assoc, List.singleton_append,
        splitWhere_append (by simp), splitWhere_of_not_mem hfirst,
        ih (List.cons_ne_nil _ _) hrest]
      rfl

/-- The last piece of a text ends with the text. -/
theorem exists_splitWhere_concat (separator : Char → Bool) {last : Char}
    (hlast : separator last = false) (cs : List Char) :
    ∃ pieces piece, splitWhere separator (cs ++ [last]) = pieces ++ [piece ++ [last]] := by
  induction cs with
  | nil => exact ⟨[], [], by simp [splitWhere, hlast]⟩
  | cons c rest ih =>
    obtain ⟨pieces, piece, hrest⟩ := ih
    rw [List.cons_append, splitWhere, hrest]
    split
    · exact ⟨[] :: pieces, piece, rfl⟩
    · cases pieces with
      | nil => exact ⟨[], c :: piece, rfl⟩
      | cons first more => exact ⟨(c :: first) :: more, piece, rfl⟩

theorem eq_nil_of_splitWhere {separator : Char → Bool} {cs : List Char}
    (h : splitWhere separator cs = [[]]) : cs = [] := by
  cases cs with
  | nil => rfl
  | cons c rest =>
    obtain ⟨piece, more, hrest⟩ := List.exists_cons_of_ne_nil (splitWhere_ne_nil separator rest)
    rw [splitWhere, hrest] at h
    split at h <;> simp at h

/-- No separator stands within a piece. -/
theorem separator_eq_false_of_mem_splitWhere {separator : Char → Bool} {cs piece : List Char}
    (h : piece ∈ splitWhere separator cs) : ∀ c ∈ piece, separator c = false := by
  induction cs generalizing piece with
  | nil =>
    obtain rfl := List.mem_singleton.mp h
    exact List.forall_mem_nil _
  | cons c rest ih =>
    rw [splitWhere] at h
    split at h
    · rcases List.mem_cons.mp h with rfl | hrest
      · exact List.forall_mem_nil _
      · exact ih hrest
    · next hopen =>
      obtain ⟨first, more, hpieces⟩ := List.exists_cons_of_ne_nil (splitWhere_ne_nil separator rest)
      rw [hpieces] at h ih
      rcases List.mem_cons.mp h with rfl | hmore
      · exact List.forall_mem_cons.mpr ⟨Bool.eq_false_iff.mpr hopen, ih List.mem_cons_self⟩
      · exact ih (List.mem_cons_of_mem first hmore)

/-- A carriage return at the end of a line belongs to the break behind it. -/
def closedLine (line : List Char) : List Char :=
  if line.getLast? = some '\r' then line.dropLast else line

theorem lineList_eq {cs last : List Char} {pieces : List (List Char)}
    (h : splitWhere (· == '\n') cs = pieces ++ [last]) :
    lineList cs = pieces.map closedLine ++ if last = [] then [] else [last] := by
  simp only [lineList, h, List.dropLast_concat, List.getLast?_concat]
  cases last with
  | nil => rw [if_pos rfl, List.append_nil]; rfl
  | cons c rest => rfl

theorem newline_not_mem_of_mem_lines {text line : String} (h : line ∈ lines text) :
    '\n' ∉ line.toList := by
  obtain ⟨cs, hcs, rfl⟩ := List.mem_map.mp h
  obtain ⟨pieces, last, hpieces⟩ := exists_splitWhere_eq (· == '\n') text.toList
  have hpiece : ∀ piece ∈ pieces ++ [last], '\n' ∉ piece := by
    intro piece hmem hbreak
    rw [← hpieces] at hmem
    exact Bool.noConfusion (separator_eq_false_of_mem_splitWhere hmem '\n' hbreak)
  rw [lineList_eq hpieces] at hcs
  rw [String.toList_ofList]
  rcases List.mem_append.mp hcs with hclosed | hopen
  · obtain ⟨piece, hmem, rfl⟩ := List.mem_map.mp hclosed
    have hfree := hpiece piece (List.mem_append_left _ hmem)
    rw [closedLine]
    split
    · exact fun hbreak ↦ hfree (List.dropLast_subset piece hbreak)
    · exact hfree
  · split at hopen
    · cases hopen
    · exact List.mem_singleton.mp hopen ▸ hpiece last (List.mem_append_right _ List.mem_cons_self)

/-- A text that does not end in a line break ends with its last line. -/
theorem exists_lines_concat {text : String} {front : List Char} {last : Char}
    (htext : text.toList = front ++ [last]) (hlast : last ≠ '\n') :
    ∃ before line, lines text = before ++ [String.ofList (line ++ [last])] := by
  obtain ⟨pieces, piece, hpieces⟩ := exists_splitWhere_concat (· == '\n') (beq_false_of_ne hlast) front
  have hne : piece ++ [last] ≠ [] := List.append_ne_nil_of_right_ne_nil piece (List.cons_ne_nil last [])
  refine ⟨(pieces.map closedLine).map String.ofList, piece, ?_⟩
  rw [lines, htext, lineList_eq hpieces, if_neg hne, List.map_append, List.map_singleton]

/-- A text that begins with no line break begins with its first line. -/
theorem exists_lines_cons {text : String} {first : Char} {rest : List Char}
    (htext : text.toList = first :: rest) (hbreak : first ≠ '\n') (hreturn : first ≠ '\r') :
    ∃ line more, lines text = String.ofList (first :: line) :: more := by
  obtain ⟨piece, pieces, hrest⟩ := List.exists_cons_of_ne_nil (splitWhere_ne_nil (· == '\n') rest)
  have hpieces : splitWhere (· == '\n') (first :: rest) = (first :: piece) :: pieces := by
    rw [splitWhere, hrest, if_neg (by simpa using hbreak)]
  have hclosed : ∃ line, closedLine (first :: piece) = first :: line := by
    rw [closedLine]
    split
    · next hlast =>
      cases piece with
      | nil => exact absurd (Option.some.inj hlast) hreturn
      | cons c more => exact ⟨_, List.dropLast_cons_cons ..⟩
    · exact ⟨piece, rfl⟩
  obtain ⟨line, hline⟩ := hclosed
  rw [lines, htext]
  rcases List.eq_nil_or_concat pieces with rfl | ⟨before, last, rfl⟩
  · have hwhole : splitWhere (· == '\n') (first :: rest) = [] ++ [first :: piece] := hpieces
    rw [lineList_eq hwhole, if_neg (List.cons_ne_nil first piece)]
    exact ⟨piece, [], rfl⟩
  · rw [List.concat_eq_append, ← List.cons_append] at hpieces
    rw [lineList_eq hpieces, List.map_cons, hline]
    exact ⟨line, _, rfl⟩

theorem lineList_ne_nil {cs : List Char} (h : cs ≠ []) : lineList cs ≠ [] := by
  obtain ⟨pieces, last, hpieces⟩ := exists_splitWhere_eq (· == '\n') cs
  rw [lineList_eq hpieces]
  intro hnil
  obtain ⟨hbefore, hlast⟩ := List.append_eq_nil_iff.mp hnil
  have hpiece : last = [] := by
    by_contra hne
    rw [if_neg hne] at hlast
    exact List.cons_ne_nil _ _ hlast
  rw [List.map_eq_nil_iff.mp hbefore, hpiece] at hpieces
  exact h (eq_nil_of_splitWhere hpieces)

/-- A text ends with a character that does not end a line. -/
def EndsInLine (text : String) : Prop :=
  ∃ front last, text.toList = front ++ [last] ∧ last ≠ '\n' ∧ last ≠ '\r'

theorem EndsInLine.ne_empty {text : String} (h : EndsInLine text) : text ≠ "" := by
  rintro rfl
  obtain ⟨front, last, htext, -⟩ := h
  exact List.append_ne_nil_of_right_ne_nil front (List.cons_ne_nil last []) htext.symm

theorem EndsInLine.append {text : String} (h : EndsInLine text) (front : String) :
    EndsInLine (front ++ text) := by
  obtain ⟨before, last, htext, hlast⟩ := h
  exact ⟨front.toList ++ before, last, by rw [String.toList_append, htext, List.append_assoc], hlast⟩

theorem EndsInLine.join {separator : String} {texts : List String} (hne : texts ≠ [])
    (h : ∀ text ∈ texts, EndsInLine text) : EndsInLine (join separator texts) := by
  induction texts with
  | nil => exact absurd rfl hne
  | cons first rest ih =>
    cases rest with
    | nil =>
      rw [join_singleton]
      exact h first List.mem_cons_self
    | cons next more =>
      rw [join_cons_cons]
      have hrest := ih (List.cons_ne_nil _ _) fun text htext ↦ h text (List.mem_cons_of_mem first htext)
      exact (hrest.append separator).append first

theorem lines_append {front : String} (h : EndsInLine front) (back : String) :
    lines (front ++ ("\n" ++ back)) = lines front ++ lines back := by
  obtain ⟨before, last, hfront, hbreak, hreturn⟩ := h
  have hopen : (last == '\n') = false := beq_false_of_ne hbreak
  obtain ⟨pieces, piece, hpieces⟩ := exists_splitWhere_concat (· == '\n') hopen before
  obtain ⟨later, final, hlater⟩ := exists_splitWhere_eq (· == '\n') back.toList
  have hwhole : splitWhere (· == '\n') (before ++ [last] ++ '\n' :: back.toList) =
      (pieces ++ [piece ++ [last]] ++ later) ++ [final] := by
    rw [splitWhere_append (by rfl), hpieces, hlater, List.append_assoc _ later]
  have hclosed : closedLine (piece ++ [last]) = piece ++ [last] := by
    rw [closedLine, List.getLast?_concat, if_neg (by simpa using hreturn)]
  have hne : piece ++ [last] ≠ [] := List.append_ne_nil_of_right_ne_nil _ (List.cons_ne_nil _ _)
  have htext : (front ++ ("\n" ++ back)).toList = before ++ [last] ++ '\n' :: back.toList := by
    rw [String.toList_append, String.toList_append, hfront]
    rfl
  rw [lines, lines, lines, htext, hfront, lineList_eq hwhole, lineList_eq hpieces, lineList_eq hlater,
    if_neg hne]
  simp only [List.map_append, List.map_singleton, hclosed, List.append_assoc]

/-- A line break at the front closes an empty line. -/
theorem lines_newline_append (text : String) : lines ("\n" ++ text) = "" :: lines text := by
  obtain ⟨pieces, last, hpieces⟩ := exists_splitWhere_eq (· == '\n') text.toList
  have hwhole : splitWhere (· == '\n') ('\n' :: text.toList) = ([] :: pieces) ++ [last] := by
    rw [splitWhere, if_pos (by decide), hpieces, List.cons_append]
  have htext : ("\n" ++ text).toList = '\n' :: text.toList := by
    rw [String.toList_append]
    rfl
  rw [lines, lines, htext, lineList_eq hwhole, lineList_eq hpieces]
  rfl

/-- Texts that hold no line break and do not end in a carriage return are the lines of what they are joined
to. -/
theorem lines_join {texts : List String} (h : ∀ text ∈ texts, EndsInLine text ∧ '\n' ∉ text.toList) :
    lines (join "\n" texts) = texts := by
  have hline : ∀ text, EndsInLine text → '\n' ∉ text.toList → lines text = [text] := by
    intro text hends hbreak
    have hne : text.toList ≠ [] := fun hnil ↦ hends.ne_empty (String.toList_inj.mp hnil)
    have hpieces : splitWhere (· == '\n') text.toList = [] ++ [text.toList] := splitWhere_of_not_mem hbreak
    rw [lines, lineList_eq hpieces, if_neg hne, List.map_nil, List.nil_append, List.map_singleton,
      String.ofList_toList]
  induction texts with
  | nil => rfl
  | cons first rest ih =>
    obtain ⟨⟨hends, hbreak⟩, hrest⟩ := List.forall_mem_cons.mp h
    cases rest with
    | nil => rw [join_singleton, hline first hends hbreak]
    | cons next more => rw [join_cons_cons, lines_append hends, hline first hends hbreak, ih hrest]; rfl

theorem lines_ne_nil {text : String} (h : text ≠ "") : lines text ≠ [] := by
  rw [lines, Ne, List.map_eq_nil_iff]
  refine lineList_ne_nil fun hnil ↦ h ?_
  rw [← String.toList_inj, hnil]
  rfl

end SourceGen.Text
