import SourceGen.Emit.Classes
import SourceGen.Proofs.Text.Characters
import SourceGen.Proofs.Text.Joining

/-!
# Lines that are set in

The bodies of definitions and those of structs stand four blanks behind the braces around them. In the body of
a definition every line with text is set in, and an empty line is left empty. In the body of a struct the
labels stay at the margin as well.
-/

namespace SourceGen.Emit

open Text

/-- Lines with four blanks before each of them that does not stay at the margin. -/
def setInLines (margin texts : List String) : String :=
  join "\n" (texts.map fun line ↦ if line ∈ margin then line else "    " ++ line)

/-- A part of the body of a struct. -/
def setIn (text : String) : String :=
  setInLines ["", "public:", "private:"] (lines text)

/-- The lines of the body of a definition, without the blanks at their ends. Without any text it is four
blanks. -/
def bodyText (body : String) : String :=
  if trim body = "" then "    " else setInLines [""] ((lines (trim body)).map trimEnd)

/-- A body between braces. -/
def braces (content : String) : String :=
  "\n\x7b\n" ++ content ++ "\n\x7d"

/-! ## Structs -/

theorem indentBody_eq (part : String) : indentBody part = setIn part := by
  rw [indentBody, setIn, setInLines]
  congr 1
  apply List.map_congr_left
  intro line _
  simp [indentBodyLine, or_assoc]

theorem setInLines_append {margin front back : List String} (hfront : front ≠ []) (hback : back ≠ []) :
    setInLines margin (front ++ back) =
      setInLines margin front ++ ("\n" ++ setInLines margin back) := by
  rw [setInLines, List.map_append, join_append (mt List.map_eq_nil_iff.mp hfront)
    (mt List.map_eq_nil_iff.mp hback)]
  rfl

theorem newline_newline_append (text : String) : "\n\n" ++ text = "\n" ++ ("\n" ++ text) := by
  rw [← String.append_assoc]
  rfl

/-- A text that ends in the middle of a line, or an empty one, is set in apart from what stands on the lines
behind it. -/
theorem setIn_newline_append {front back : String} (hfront : front = "" ∨ EndsInLine front)
    (hback : back ≠ "") : setIn (front ++ ("\n" ++ back)) = setIn front ++ ("\n" ++ setIn back) := by
  rcases hfront with rfl | hfront
  · have hlines : lines ("\n" ++ back) = [""] ++ lines back := lines_newline_append back
    rw [String.empty_append, setIn, hlines, setInLines_append (List.cons_ne_nil "" []) (lines_ne_nil hback)]
    rfl
  · rw [setIn, lines_append hfront, setInLines_append (lines_ne_nil hfront.ne_empty) (lines_ne_nil hback)]
    rfl

theorem setIn_append {front back : String} (hfront : EndsInLine front) (hback : back ≠ "") :
    setIn (front ++ ("\n\n" ++ back)) = setIn front ++ ("\n\n" ++ setIn back) := by
  have hbreak : "\n" ++ back ≠ "" := fun hempty ↦ hback (String.append_eq_empty_iff.mp hempty).2
  have hempty : setIn ("\n" ++ back) = "\n" ++ setIn back := by
    have hset := setIn_newline_append (.inl rfl) hback
    rwa [String.empty_append, show setIn "" = "" from rfl, String.empty_append] at hset
  rw [newline_newline_append, setIn_newline_append (.inr hfront) hbreak, hempty, newline_newline_append]

theorem setIn_join {texts : List String} (h : ∀ text ∈ texts, EndsInLine text) :
    setIn (join "\n\n" texts) = join "\n\n" (texts.map setIn) := by
  induction texts with
  | nil => rfl
  | cons first rest ih =>
    obtain ⟨hfirst, hrest⟩ := List.forall_mem_cons.mp h
    cases rest with
    | nil => rw [List.map_singleton, join_singleton, join_singleton]
    | cons next more =>
      have hback : EndsInLine (join "\n\n" (next :: more)) := .join (List.cons_ne_nil next more) hrest
      rw [join_cons_cons, setIn_append hfirst hback.ne_empty, ih hrest]
      exact (join_cons_cons ..).symm

/-- The labels of a struct, which stay at the margin. -/
inductive IsLabel : String → Prop where
  | isPublic : IsLabel "public:"
  | isPrivate : IsLabel "private:"

theorem setIn_label_append {label back : String} (hlabel : IsLabel label) (hback : back ≠ "") :
    setIn (label ++ ("\n" ++ back)) = label ++ ("\n" ++ setIn back) := by
  have hends : EndsInLine label := by
    cases hlabel with
    | isPublic => exact ⟨"public".toList, ':', by decide +kernel, by decide, by decide⟩
    | isPrivate => exact ⟨"private".toList, ':', by decide +kernel, by decide, by decide⟩
  have hline : setIn label = label := by
    cases hlabel <;> decide +kernel
  rw [setIn_newline_append (.inr hends) hback, hline]

/-! ## Definitions -/

theorem isBlankText_iff_trimEnd_eq (line : String) : isBlankText line = true ↔ trimEnd line = "" := by
  have hchars : trimEndChars line.toList = [] ↔ ∀ c ∈ line.toList, isBlank c = true :=
    List.rdropWhile_eq_nil_iff
  rw [trimEnd, String.ofList_eq_empty_iff, hchars, isBlankText, List.all_eq_true]

theorem indentLine_eq (front line : String) :
    indentLine front line = if trimEnd line ∈ [""] then trimEnd line else front ++ trimEnd line := by
  rw [indentLine]
  simp only [isBlankText_iff_trimEnd_eq, List.mem_singleton]

/-- The first line of a trimmed text is not blank. -/
theorem trimEnd_first_ne_empty {text first : String} {rest : List String}
    (h : lines (trim text) = first :: rest) : trimEnd first ≠ "" := by
  have hne : trim text ≠ "" := by
    intro hempty
    rw [hempty] at h
    exact List.cons_ne_nil _ _ h.symm
  obtain ⟨c, cs, htext, hc⟩ := exists_trim_cons hne
  obtain ⟨line, more, hlines⟩ := exists_lines_cons htext (ne_of_isBlank_eq_false hc (by decide))
    (ne_of_isBlank_eq_false hc (by decide))
  obtain ⟨rfl, -⟩ := List.cons.inj (h.symm.trans hlines)
  rw [Ne, ← isBlankText_iff_trimEnd_eq, isBlankText, String.toList_ofList, List.all_cons, hc]
  exact Bool.false_ne_true

/-- The first line of a body is set in by what stands before it, and each later one by itself. -/
theorem blanks_append_reindent (body : String) : "    " ++ reindent body "    " = bodyText body := by
  by_cases hbody : trim body = ""
  · rw [bodyText, if_pos hbody, reindent, hbody]
    rfl
  · obtain ⟨first, rest, hlines⟩ := List.exists_cons_of_ne_nil (lines_ne_nil hbody)
    have hfirst : trimEnd first ∉ [""] := mt List.mem_singleton.mp (trimEnd_first_ne_empty hlines)
    have hlater : rest.map (indentLine "    ") = (rest.map trimEnd).map fun line ↦
        if line ∈ [""] then line else "    " ++ line := by
      rw [List.map_map]
      exact List.map_congr_left fun line _ ↦ indentLine_eq "    " line
    rw [bodyText, if_neg hbody, reindent, hlines, setInLines, List.map_cons, List.map_cons, if_neg hfirst,
      ← hlater]
    cases rest with
    | nil => rfl
    | cons next more => simp only [List.map_cons, join_cons_cons, String.append_assoc]

end SourceGen.Emit
