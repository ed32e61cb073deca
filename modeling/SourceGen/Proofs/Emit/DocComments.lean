import SourceGen.Emit.Functions
import SourceGen.Proofs.Spec.Sites
import SourceGen.Proofs.Text.Characters
import SourceGen.Proofs.Text.PhysicalLines
import SourceGen.Validation.Rules

/-!
# Comments before declarations

Every line of a documentation comment opens a comment of its own, and the declaration begins on the line
behind them. A line that ends in a backslash goes on in the next one. So the last of the commented lines may
take the first line of the declaration with it, and it does exactly if the commented text ends in a backslash
once it is trimmed.
-/

namespace SourceGen.Emit

open Spec Text Validation

/-! ## Lines of a comment -/

/-- A line of a text in a comment. -/
def docLine (line : String) : String :=
  trimEnd ("/// " ++ trimEnd line)

def IsDocLine (line : String) : Prop :=
  "///".toList <+: line.toList

instance {line : String} : Decidable (IsDocLine line) :=
  inferInstanceAs (Decidable (_ <+: _))

theorem docComment_eq (text : String) :
    docComment text = join "\n" ((lines (trim text)).map docLine) := rfl

/-- A line without text is the bare mark of a comment. -/
theorem docLine_eq (line : String) :
    docLine line = if trimEnd line = "" then "///" else "/// " ++ trimEnd line := by
  split
  · next hempty =>
    rw [docLine, hempty]
    decide
  · next hne =>
    obtain ⟨front, c, hline, hc⟩ := exists_trimEnd_concat hne
    have hwhole : ("/// " ++ trimEnd line).toList = "/// ".toList ++ front ++ [c] := by
      rw [String.toList_append, hline, List.append_assoc]
    exact trimEnd_of_concat hwhole hc

theorem isDocLine_docLine (line : String) : IsDocLine (docLine line) := by
  rw [docLine_eq]
  split
  · exact List.prefix_refl _
  · rw [IsDocLine, String.toList_append]
    exact ⟨" ".toList ++ (trimEnd line).toList, rfl⟩

/-- The mark of a comment takes nothing off the end of its line and adds nothing to it. -/
theorem endsInBackslash_docLine (line : String) :
    EndsInBackslash (docLine line) ↔ EndsInBackslash (trimEnd line) := by
  rw [docLine_eq]
  split
  · next hempty =>
    rw [hempty]
    decide
  · next hne =>
    obtain ⟨front, c, hline, -⟩ := exists_trimEnd_concat hne
    rw [EndsInBackslash, EndsInBackslash, String.toList_append, hline, ← List.append_assoc,
      List.getLast?_concat, List.getLast?_concat]

theorem mem_toList_docLine {c : Char} (hc : c ∉ "/// ".toList) (line : String) :
    c ∈ (docLine line).toList ↔ c ∈ (trimEnd line).toList := by
  rw [docLine_eq]
  split
  · next hempty =>
    rw [hempty]
    exact iff_of_false (fun hmem ↦ hc (List.mem_append_left " ".toList hmem)) List.not_mem_nil
  · rw [String.toList_append, List.mem_append]
    exact or_iff_right hc

theorem endsInLine_docLine (line : String) : EndsInLine (docLine line) := by
  rw [docLine_eq]
  split
  · exact ⟨"//".toList, '/', rfl, by decide, by decide⟩
  · next hne =>
    obtain ⟨front, c, hline, hc⟩ := exists_trimEnd_concat hne
    have hends : EndsInLine (trimEnd line) :=
      ⟨front, c, hline, ne_of_isBlank_eq_false hc (by decide), ne_of_isBlank_eq_false hc (by decide)⟩
    exact hends.append "/// "

theorem endsInLine_docComment (text : String) : docComment text = "" ∨ EndsInLine (docComment text) := by
  rw [docComment_eq]
  cases hlines : lines (trim text) with
  | nil => exact .inl rfl
  | cons first rest =>
    right
    apply EndsInLine.join
    · exact List.cons_ne_nil _ _
    · exact List.forall_mem_map.mpr fun line _ ↦ endsInLine_docLine line

theorem newline_not_mem_docLine {text line : String} (h : line ∈ lines text) :
    '\n' ∉ (docLine line).toList := by
  rw [mem_toList_docLine (by decide)]
  intro hmem
  rw [trimEnd, String.toList_ofList] at hmem
  exact newline_not_mem_of_mem_lines h ((List.rdropWhile_prefix isBlank _).subset hmem)

/-- The lines of a comment are those of the text, each in a comment of its own. -/
theorem lines_docComment (text : String) : lines (docComment text) = (lines (trim text)).map docLine := by
  rw [docComment_eq]
  apply lines_join
  intro line hline
  obtain ⟨inner, hinner, rfl⟩ := List.mem_map.mp hline
  exact ⟨endsInLine_docLine inner, newline_not_mem_docLine hinner⟩

theorem physicalLines_docComment {text : String} (h : trim text ≠ "") :
    physicalLines (docComment text) = (lines (trim text)).map docLine := by
  have hlines : (lines (trim text)).map docLine ≠ [] := mt List.map_eq_nil_iff.mp (lines_ne_nil h)
  rw [docComment_eq, physicalLines_join hlines, List.flatMap_map, List.map_eq_flatMap]
  apply List.flatMap_congr
  intro line hline
  exact physicalLines_of_not_mem (newline_not_mem_docLine hline)

/-- The last line of a comment ends as the trimmed text does, whose end is not trimmed again. -/
theorem exists_last_docLine {text : String} (h : trim text ≠ "") :
    ∃ comment last, (lines (trim text)).map docLine = comment ++ [last] ∧
      (EndsInBackslash last ↔ EndsInBackslash (trim text)) := by
  obtain ⟨front, c, htext, hc⟩ := exists_trim_concat h
  obtain ⟨before, line, hlines⟩ := exists_lines_concat htext (ne_of_isBlank_eq_false hc (by decide))
  refine ⟨before.map docLine, docLine (String.ofList (line ++ [c])), ?_, ?_⟩
  · rw [hlines, List.map_append, List.map_singleton]
  · rw [endsInBackslash_docLine, trimEnd_of_concat String.toList_ofList hc, EndsInBackslash,
      EndsInBackslash, String.toList_ofList, htext, List.getLast?_concat, List.getLast?_concat]

/-! ## What a comment leaves -/

/-- The lines of a text without its comments and without empty lines. A comment takes up the next line as
well if its own ends in a backslash; `open_` tells whether one does before the first line. -/
def uncommented (open_ : Bool) : List String → List String
  | [] => []
  | line :: rest =>
    if open_ || line.isEmpty || decide (IsDocLine line) then
      uncommented (decide (EndsInBackslash line)) rest
    else line :: uncommented false rest

/-- Whatever stands behind a comment is left as it is. -/
def LeavesRest (comment : String) : Prop :=
  ∀ rest, uncommented false (physicalLines (comment ++ ("\n" ++ rest))) =
    uncommented false (physicalLines rest)

/-- Lines of a comment are taken away, and what follows is open if the last of them ends in a backslash. -/
theorem uncommented_append {comment : List String} {last : String}
    (h : ∀ line ∈ comment ++ [last], IsDocLine line) (open_ : Bool) (rest : List String) :
    uncommented open_ (comment ++ [last] ++ rest) = uncommented (decide (EndsInBackslash last)) rest := by
  have hstep : ∀ line open_ rest, IsDocLine line →
      uncommented open_ (line :: rest) = uncommented (decide (EndsInBackslash line)) rest := by
    intro line open_ rest hline
    rw [uncommented, decide_eq_true hline, Bool.or_true, if_pos rfl]
  induction comment generalizing open_ with
  | nil => exact hstep last open_ rest (h last (List.mem_singleton_self last))
  | cons first more ih =>
    obtain ⟨hfirst, hmore⟩ := List.forall_mem_cons.mp h
    rw [List.cons_append, List.cons_append, hstep first open_ _ hfirst, ih hmore]

/-- A comment leaves alone what follows it unless the trimmed text ends in a backslash. -/
theorem leavesRest_docComment_iff (text : String) :
    LeavesRest (docComment text) ↔ ¬ EndsInBackslash (trim text) := by
  by_cases htext : trim text = ""
  · have hcomment : docComment text = "" := by
      rw [docComment_eq, htext]
      rfl
    have hline : physicalLines "" = [""] := rfl
    rw [htext]
    refine iff_of_true (fun rest ↦ ?_) (by decide)
    rw [physicalLines_append, hcomment, hline, List.singleton_append, uncommented]
    rfl
  obtain ⟨comment, last, hlines, hlast⟩ := exists_last_docLine htext
  have hcommented : ∀ line ∈ comment ++ [last], IsDocLine line := by
    rw [← hlines]
    exact List.forall_mem_map.mpr fun line _ ↦ isDocLine_docLine line
  have hopen : ∀ rest, uncommented false (physicalLines (docComment text ++ ("\n" ++ rest))) =
      uncommented (decide (EndsInBackslash (trim text))) (physicalLines rest) := by
    intro rest
    rw [physicalLines_append, physicalLines_docComment htext, hlines, uncommented_append hcommented,
      decide_eq_decide.mpr hlast]
  constructor
  · intro hleaves hends
    have hword := hleaves "int"
    rw [hopen, decide_eq_true hends] at hword
    exact absurd hword (by decide)
  · intro hends rest
    rw [hopen, decide_eq_false hends]

/-! ## Declarations -/

/-- A declaration without the comment before it. -/
def bareDeclaration (function : FunctionDecl) (api : Api) : String :=
  templateHead function.usedTemplate ++ function.outType api.defaultOut ++ " " ++ function.ident ++ " (" ++
    renderArguments function.args true ++ ");"

theorem functionDeclaration_eq (function : FunctionDecl) (api : Api) :
    functionDeclaration function api =
      docComment function.comment ++ ("\n" ++ bareDeclaration function api) := by
  simp only [functionDeclaration, bareDeclaration, String.append_assoc]

/-- Before every declaration stand the lines of its comment, each with the mark of a comment, and the
declaration begins on a line of its own. No line of the comment goes on in the next exactly if none of the
commented text ends in a backslash where it is trimmed, and none is broken again exactly if none of the text
holds a carriage return there. The comment leaves the declaration alone exactly if the trimmed text does not
end in a backslash. -/
theorem comment_harmless_iff (function : FunctionDecl) (api : Api) :
    functionDeclaration function api =
        docComment function.comment ++ ("\n" ++ bareDeclaration function api) ∧
      physicalLines (functionDeclaration function api) =
          physicalLines (docComment function.comment) ++ physicalLines (bareDeclaration function api) ∧
        (∀ line ∈ lines (docComment function.comment), IsDocLine line) ∧
          ((∀ line ∈ lines (docComment function.comment), ¬ EndsInBackslash line) ↔
            ∀ line ∈ lines (trim function.comment), ¬ EndsInBackslash (trimEnd line)) ∧
          ((∀ line ∈ lines (docComment function.comment), '\r' ∉ line.toList) ↔
            ∀ line ∈ lines (trim function.comment), '\r' ∉ (trimEnd line).toList) ∧
          (LeavesRest (docComment function.comment) ↔ ¬ EndsInBackslash (trim function.comment)) := by
  have hparts := functionDeclaration_eq function api
  rw [lines_docComment, List.forall_mem_map, List.forall_mem_map, List.forall_mem_map]
  refine ⟨hparts, ?_, fun line _ ↦ isDocLine_docLine line, ?_, ?_, leavesRest_docComment_iff _⟩
  · rw [hparts, physicalLines_append]
  · simp only [endsInBackslash_docLine]
  · simp only [mem_toList_docLine (show '\r' ∉ "/// ".toList by decide)]

/-- A function that is described by a path with a backslash at its end. -/
def pathFunction : FunctionDecl :=
  { name := some "f", description := some "in C:\\temp\\", out := .body "return 1;" }

/-- Validation accepts the function, and its comment takes the declaration with it. -/
theorem path_comment_takes_declaration :
    (validate { api := some { namespaces := .ofEntries [("g", .full [pathFunction] [])] } }).ok = true ∧
      lines (docComment pathFunction.comment) = ["/// in C:\\temp\\"] ∧
        physicalLines (functionDeclaration pathFunction {}) =
            ["/// in C:\\temp\\", bareDeclaration pathFunction {}] ∧
          uncommented false (physicalLines (functionDeclaration pathFunction {})) = [] :=
  ⟨by decide +kernel, by decide +kernel, by decide +kernel, by decide +kernel⟩

end SourceGen.Emit
