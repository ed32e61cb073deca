import SourceGen.Proofs.Text.Joining

/-!
# Physical lines

A preprocessor directive takes up the line it begins on, and the next one as well where a line ends in a
backslash. So it takes up lines that stand together exactly if all but the last of them end in a backslash
and the last does not. A line break that is inserted into one of them behind anything else cuts it short.
-/

namespace SourceGen.Text

/-- The lines of a text as they stand; a line break at the end opens an empty one. -/
def physicalLines (text : String) : List String :=
  (splitWhere (· == '\n') text.toList).map String.ofList

def EndsInBackslash (line : String) : Prop :=
  line.toList.getLast? = some '\\'

instance (line : String) : Decidable (EndsInBackslash line) :=
  inferInstanceAs (Decidable (_ = _))

/-- The lines that a directive at the front takes up. -/
def directiveLines : List String → List String
  | [] => []
  | line :: rest => if EndsInBackslash line then line :: directiveLines rest else [line]

/-- Every line but the last goes on in the next one. -/
def Continued (lines : List String) : Prop :=
  ∀ line ∈ lines.dropLast, EndsInBackslash line

/-- A directive takes up exactly the given lines, whatever follows. -/
structure Whole (lines : List String) : Prop where
  continued : Continued lines
  reaches : ∀ after, directiveLines (lines ++ after) = lines

/-! ## Lines of composed texts -/

theorem physicalLines_ne_nil (text : String) : physicalLines text ≠ [] := by
  rw [physicalLines, Ne, List.map_eq_nil_iff]
  exact splitWhere_ne_nil _ _

theorem physicalLines_of_not_mem {text : String} (h : '\n' ∉ text.toList) :
    physicalLines text = [text] := by
  rw [physicalLines, splitWhere_of_not_mem h, List.map_singleton, String.ofList_toList]

theorem physicalLines_append (front back : String) :
    physicalLines (front ++ ("\n" ++ back)) = physicalLines front ++ physicalLines back := by
  have htext : (front ++ ("\n" ++ back)).toList = front.toList ++ '\n' :: back.toList := by
    simp only [String.toList_append]
    rfl
  rw [physicalLines, htext, splitWhere_append (by rfl), List.map_append]
  rfl

theorem physicalLines_join {texts : List String} (h : texts ≠ []) :
    physicalLines (join "\n" texts) = texts.flatMap physicalLines := by
  induction texts with
  | nil => exact absurd rfl h
  | cons first rest ih =>
    cases rest with
    | nil => rw [join_singleton, List.flatMap_singleton]
    | cons next more =>
      rw [join_cons_cons, physicalLines_append, ih (List.cons_ne_nil _ _)]
      rfl

/-- A text that does not end in a line break ends with its last line. -/
theorem exists_physicalLines_concat {text : String} {front : List Char} {last : Char}
    (htext : text.toList = front ++ [last]) (hlast : last ≠ '\n') :
    ∃ lines line, physicalLines text = lines ++ [String.ofList (line ++ [last])] := by
  obtain ⟨pieces, piece, hpieces⟩ := exists_splitWhere_concat (· == '\n') (beq_false_of_ne hlast) front
  refine ⟨pieces.map String.ofList, piece, ?_⟩
  rw [physicalLines, htext, hpieces, List.map_append, List.map_singleton]

/-- Lines that stand between two others in a text are lines of it. -/
theorem exists_physicalLines_of_within {before passage after text : String}
    (h : Within (before ++ ("\n" ++ (passage ++ ("\n" ++ after)))) text) :
    ∃ front back, physicalLines text = front ++ physicalLines passage ++ back := by
  obtain ⟨front, back, htext⟩ := h
  refine ⟨physicalLines (String.ofList front ++ before), physicalLines (after ++ String.ofList back), ?_⟩
  rw [List.append_assoc, ← physicalLines_append, ← physicalLines_append]
  congr 1
  rw [← String.toList_inj, ← htext]
  simp

/-! ## Continued lines -/

/-- A directive takes up lines exactly if they are continued, where the last of them is not. -/
theorem whole_iff_continued {lines front : List String} {last : String} (hlines : lines = front ++ [last])
    (hlast : ¬ EndsInBackslash last) : Whole lines ↔ Continued lines := by
  refine ⟨Whole.continued, fun hcontinued ↦ ⟨hcontinued, fun after ↦ ?_⟩⟩
  rw [Continued, hlines, List.dropLast_concat] at hcontinued
  rw [hlines]
  clear hlines
  induction front with
  | nil => exact if_neg hlast
  | cons line rest ih =>
    obtain ⟨hline, hrest⟩ := List.forall_mem_cons.mp hcontinued
    simp only [List.cons_append, directiveLines, if_pos hline, ih hrest]

theorem continued_append {front back : List String} (hback : back ≠ []) :
    Continued (front ++ back) ↔ (∀ line ∈ front, EndsInBackslash line) ∧ Continued back := by
  rw [Continued, List.dropLast_append_of_ne_nil hback, List.forall_mem_append]
  rfl

theorem continued_of_not_mem {text : String} (h : '\n' ∉ text.toList) :
    Continued (physicalLines text) := by
  rw [physicalLines_of_not_mem h]
  exact fun _ hline ↦ (List.not_mem_nil hline).elim

/-- A text whose last line goes on goes on in every line if it does in all but the last. -/
theorem forall_endsInBackslash_iff {text : String} (h : EndsInBackslash text) :
    (∀ line ∈ physicalLines text, EndsInBackslash line) ↔ Continued (physicalLines text) := by
  obtain ⟨front, htext⟩ := List.getLast?_eq_some_iff.mp h
  obtain ⟨lines, line, hlines⟩ := exists_physicalLines_concat htext (by decide)
  have hlast : EndsInBackslash (String.ofList (line ++ ['\\'])) := by
    rw [EndsInBackslash, String.toList_ofList, List.getLast?_concat]
  rw [Continued, hlines, List.dropLast_concat, List.forall_mem_append, List.forall_mem_singleton]
  exact and_iff_left hlast

theorem getLast?_toList_append {text : String} {sign : Char} (h : text.toList.getLast? = some sign)
    (front : String) : (front ++ text).toList.getLast? = some sign := by
  rw [String.toList_append, List.getLast?_append, h, Option.some_or]

theorem EndsInBackslash.append {text : String} (h : EndsInBackslash text) (front : String) :
    EndsInBackslash (front ++ text) :=
  getLast?_toList_append h front

/-- What is inserted into a line behind a sign that is no backslash, and has no backslash itself, leaves the
line continued exactly if it has no line break. -/
theorem continued_insert_iff {front inserted back : String} {sign : Char}
    (hfront : front.toList.getLast? = some sign) (hsign : sign ≠ '\\') (hbefore : '\n' ∉ front.toList)
    (hback : '\n' ∉ back.toList) (hinserted : '\\' ∉ inserted.toList) :
    Continued (physicalLines (front ++ inserted ++ back)) ↔ '\n' ∉ inserted.toList := by
  obtain ⟨before, hfront⟩ := List.getLast?_eq_some_iff.mp hfront
  constructor
  · intro hcontinued hbreak
    obtain ⟨head, tail, hsplit, hhead⟩ := List.eq_append_cons_of_mem hbreak
    have htext : front ++ inserted ++ back =
        (front ++ String.ofList head) ++ ("\n" ++ (String.ofList tail ++ back)) := by
      rw [← String.toList_inj]
      simp [hsplit]
    obtain ⟨start, last, hlast, hne, hslash⟩ : ∃ start last,
        (front ++ String.ofList head).toList = start ++ [last] ∧ last ≠ '\n' ∧ last ≠ '\\' := by
      rcases List.eq_nil_or_concat head with rfl | ⟨inner, last, rfl⟩
      · refine ⟨before, sign, by simp [hfront], fun h ↦ hbefore ?_, hsign⟩
        simp [hfront, h]
      · refine ⟨front.toList ++ inner, last, by simp, ?_, ?_⟩
        · rintro rfl
          exact hhead (by simp)
        · rintro rfl
          exact hinserted (by simp [hsplit])
    obtain ⟨lines, line, hlines⟩ := exists_physicalLines_concat hlast hne
    rw [htext, physicalLines_append, continued_append (physicalLines_ne_nil _), hlines] at hcontinued
    have hends := hcontinued.1 _ (List.mem_append_right _ (List.mem_singleton_self _))
    rw [EndsInBackslash, String.toList_ofList, List.getLast?_concat, Option.some.injEq] at hends
    exact hslash hends
  · intro hbreak
    refine continued_of_not_mem ?_
    simp [hbefore, hback, hbreak]

end SourceGen.Text
