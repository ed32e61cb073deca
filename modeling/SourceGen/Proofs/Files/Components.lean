import Mathlib.Data.List.Basic
import SourceGen.Files.Path
import SourceGen.Proofs.Text.Joining

/-!
# Components of paths

The components of a path are told by the pieces between its slashes, of which only the first can name the
root or the place itself. What is left of a path when a front of it is taken off begins with a piece that
names something, so that it neither begins at the root nor at a dot, and its components are those that were
not taken off.
-/

namespace SourceGen.Files

open Text

/-! ## Pieces -/

/-- The components of pieces that do not stand at the front of a path. -/
def namedComponents (pieces : List (List Char)) : List Component :=
  (pieces.filter (!isVoid ·)).map componentOf

theorem namedComponents_cons_of_void {piece : List Char} (h : isVoid piece = true)
    (rest : List (List Char)) : namedComponents (piece :: rest) = namedComponents rest := by
  simp [namedComponents, h]

theorem namedComponents_cons_of_named {piece : List Char} (h : isVoid piece = false)
    (rest : List (List Char)) :
    namedComponents (piece :: rest) = componentOf piece :: namedComponents rest := by
  simp [namedComponents, h]

theorem namedComponents_append (front back : List (List Char)) :
    namedComponents (front ++ back) = namedComponents front ++ namedComponents back := by
  simp [namedComponents]

/-- Different pieces are different components. -/
theorem componentOf_injective : Function.Injective componentOf := by
  intro first second h
  simp only [componentOf, beq_iff_eq] at h
  split at h <;> split at h
  · next hfirst hsecond => rw [hfirst, hsecond]
  · cases h
  · cases h
  · exact String.ofList_injective (Component.name.inj h)

theorem namedComponents_dropNamed (count : Nat) (pieces : List (List Char)) :
    namedComponents (dropNamed count pieces) = (namedComponents pieces).drop count := by
  induction pieces generalizing count with
  | nil => cases count <;> rfl
  | cons piece rest ih =>
    cases count with
    | zero => rfl
    | succ count =>
      rw [dropNamed]
      split
      · next hvoid => rw [ih, namedComponents_cons_of_void hvoid]
      · next hnamed =>
        rw [ih, namedComponents_cons_of_named (Bool.not_eq_true _ ▸ hnamed), List.drop_succ_cons]

theorem filter_dropWhile_isVoid (pieces : List (List Char)) :
    (pieces.dropWhile isVoid).filter (!isVoid ·) = pieces.filter (!isVoid ·) := by
  induction pieces with
  | nil => rfl
  | cons piece rest ih =>
    by_cases hvoid : isVoid piece = true
    · rw [List.dropWhile_cons_of_pos hvoid, ih, List.filter_cons_of_neg (by simp [hvoid])]
    · rw [List.dropWhile_cons_of_neg hvoid]

theorem namedComponents_dropVoidEnds (pieces : List (List Char)) :
    namedComponents (dropVoidEnds pieces) = namedComponents pieces := by
  rw [namedComponents, dropVoidEnds, List.filter_reverse, filter_dropWhile_isVoid, List.filter_reverse,
    List.reverse_reverse, filter_dropWhile_isVoid]
  rfl

theorem dropNamed_suffix (count : Nat) (pieces : List (List Char)) : dropNamed count pieces <:+ pieces := by
  induction pieces generalizing count with
  | nil => cases count <;> exact List.suffix_refl _
  | cons piece rest ih =>
    cases count with
    | zero => exact List.suffix_refl _
    | succ count =>
      rw [dropNamed]
      split <;> exact (ih _).trans (List.suffix_cons piece rest)

/-- Void pieces are taken off the front before they are taken off the end. -/
theorem dropVoidEnds_isPrefix (pieces : List (List Char)) :
    dropVoidEnds pieces <+: pieces.dropWhile isVoid := by
  rw [← List.reverse_suffix, dropVoidEnds, List.reverse_reverse]
  exact List.dropWhile_suffix isVoid

theorem isVoid_of_mem_head?_dropVoidEnds {pieces : List (List Char)} {piece : List Char}
    (h : piece ∈ (dropVoidEnds pieces).head?) : isVoid piece = false := by
  obtain ⟨dropped, hdropped⟩ := dropVoidEnds_isPrefix pieces
  have hstop := List.head?_dropWhile_not isVoid pieces
  rw [← hdropped, List.head?_append, Option.mem_def.mp h] at hstop
  exact hstop

theorem mem_of_mem_dropVoidEnds {pieces : List (List Char)} {piece : List Char}
    (h : piece ∈ dropVoidEnds pieces) : piece ∈ pieces :=
  (List.dropWhile_suffix isVoid).mem ((dropVoidEnds_isPrefix pieces).mem h)

/-! ## Paths -/

theorem slash_not_mem_of_mem_pathPieces {path : String} {piece : List Char} (h : piece ∈ pathPieces path) :
    '/' ∉ piece :=
  fun hmem ↦ Bool.noConfusion (separator_eq_false_of_mem_splitWhere h '/' hmem)

theorem isRooted_iff {path : String} :
    isRooted path = true ↔ ∃ first rest, pathPieces path = [] :: first :: rest := by
  rw [isRooted, pathPieces]
  cases path.toList with
  | nil => simp [splitWhere]
  | cons c rest =>
    obtain ⟨piece, more, hpieces⟩ := List.exists_cons_of_ne_nil (splitWhere_ne_nil (· == '/') rest)
    by_cases hc : c = '/'
    · simp [splitWhere, hc, hpieces]
    · simp [splitWhere, hc, hpieces]

/-- A dot at the front of a path names the place itself, and an empty piece before others the root. -/
theorem pathFront_of_pieces {path : String} {first : List Char} {rest : List (List Char)}
    (h : pathPieces path = first :: rest) : pathFront path =
      if first = ['.'] then ([.here], rest)
      else if first = [] ∧ rest ≠ [] then ([.root], rest) else ([], first :: rest) := by
  have hrooted : isRooted path = true ↔ first = [] ∧ rest ≠ [] := by
    rw [isRooted_iff, h]
    constructor
    · rintro ⟨next, more, heq⟩
      obtain ⟨rfl, rfl⟩ := List.cons.inj heq
      exact ⟨rfl, List.cons_ne_nil _ _⟩
    · rintro ⟨rfl, hrest⟩
      obtain ⟨next, more, rfl⟩ := List.exists_cons_of_ne_nil hrest
      exact ⟨next, more, rfl⟩
  rw [pathFront, h]
  split
  · next heq =>
    obtain ⟨rfl, rfl⟩ := List.cons.inj heq
    rfl
  · next hdot =>
    have hfirst : first ≠ ['.'] := fun heq ↦ hdot rest (by rw [heq])
    rw [if_neg hfirst]
    exact if_congr hrooted rfl rfl

theorem components_eq (path : String) :
    components path = (pathFront path).1 ++ namedComponents (pathFront path).2 := rfl

theorem exists_pathPieces_eq (path : String) : ∃ first rest, pathPieces path = first :: rest :=
  List.exists_cons_of_ne_nil (splitWhere_ne_nil _ _)

theorem length_pathFront_le (path : String) : (pathFront path).1.length ≤ 1 := by
  obtain ⟨first, rest, h⟩ := exists_pathPieces_eq path
  rw [pathFront_of_pieces h]
  split_ifs <;> simp

theorem slash_not_mem_of_mem_pathFront {path : String} {piece : List Char}
    (h : piece ∈ (pathFront path).2) : '/' ∉ piece := by
  obtain ⟨first, rest, hpieces⟩ := exists_pathPieces_eq path
  have hrest : ∀ piece ∈ first :: rest, '/' ∉ piece := fun piece hmem ↦
    slash_not_mem_of_mem_pathPieces (hpieces ▸ hmem)
  rw [pathFront_of_pieces hpieces] at h
  split_ifs at h
  · exact hrest piece (List.mem_cons_of_mem first h)
  · exact hrest piece (List.mem_cons_of_mem first h)
  · exact hrest piece h

/-- A path that is not empty has a component. -/
theorem components_ne_nil {path : String} (h : path ≠ "") : components path ≠ [] := by
  obtain ⟨first, rest, hpieces⟩ := exists_pathPieces_eq path
  rw [components_eq, pathFront_of_pieces hpieces]
  split_ifs with hdot hroot
  · exact List.cons_ne_nil _ _
  · exact List.cons_ne_nil _ _
  · have hfirst : first ≠ [] := by
      rintro rfl
      by_cases hrest : rest = []
      · rw [hrest] at hpieces
        exact h (String.toList_inj.mp (eq_nil_of_splitWhere hpieces))
      · exact hroot ⟨rfl, hrest⟩
    rw [List.nil_append, namedComponents_cons_of_named (by simp [isVoid, hfirst, hdot])]
    exact List.cons_ne_nil _ _

/-- Pieces that are joined behind one that names something are no more and no less than themselves. -/
theorem components_intercalate {pieces : List (List Char)} (hslash : ∀ piece ∈ pieces, '/' ∉ piece)
    (hfirst : ∀ piece ∈ pieces.head?, isVoid piece = false) :
    components (String.ofList (['/'].intercalate pieces)) = namedComponents pieces := by
  cases pieces with
  | nil => rfl
  | cons first rest =>
    have hpieces : pathPieces (String.ofList (['/'].intercalate (first :: rest))) = first :: rest := by
      rw [pathPieces, String.toList_ofList, splitWhere_intercalate (List.cons_ne_nil _ _) hslash]
    have hnamed := hfirst first rfl
    have hdot : first ≠ ['.'] := by
      rintro rfl
      cases hnamed
    have hroot : ¬ (first = [] ∧ rest ≠ []) := by
      rintro ⟨rfl, -⟩
      cases hnamed
    rw [components_eq, pathFront_of_pieces hpieces, if_neg hdot, if_neg hroot]
    rfl

/-! ## Fronts taken off -/

theorem stripFront?_of_isPrefix {path front : String} (h : components front <+: components path) :
    stripFront? path front = some (String.ofList (['/'].intercalate (dropVoidEnds
      (dropNamed ((components front).length - (pathFront path).1.length) (pathFront path).2)))) := by
  rw [stripFront?, if_pos (List.isPrefixOf_iff_prefix.mpr h)]

theorem stripFront?_of_not_isPrefix {path front : String} (h : ¬ components front <+: components path) :
    stripFront? path front = none := by
  rw [stripFront?, if_neg (mt List.isPrefixOf_iff_prefix.mp h)]

/-- What is left of a path follows the components that were taken off. -/
theorem exists_stripFront?_eq {path front : String} (hne : front ≠ "")
    (h : components front <+: components path) :
    ∃ rest, stripFront? path front = some rest ∧ components front ++ components rest = components path := by
  refine ⟨_, stripFront?_of_isPrefix h, ?_⟩
  have htaken : (pathFront path).1.length ≤ (components front).length :=
    Nat.le_trans (length_pathFront_le path) (List.length_pos_iff.mpr (components_ne_nil hne))
  rw [components_intercalate, namedComponents_dropVoidEnds, namedComponents_dropNamed]
  · have hrest : (components path).drop (components front).length =
        (namedComponents (pathFront path).2).drop
          ((components front).length - (pathFront path).1.length) := by
      rw [components_eq path, List.drop_append, List.drop_eq_nil_of_le htaken, List.nil_append]
    rw [← hrest]
    exact List.prefix_iff_eq_append.mp h
  · intro piece hpiece
    exact slash_not_mem_of_mem_pathFront ((dropNamed_suffix _ _).mem (mem_of_mem_dropVoidEnds hpiece))
  · intro piece hpiece
    exact isVoid_of_mem_head?_dropVoidEnds hpiece

/-! ## Texts that end inside a component -/

/-- The components of pieces at the front of a path that goes on behind them. -/
def frontComponents : List (List Char) → List Component
  | [] => []
  | first :: rest =>
    (if first = ['.'] then [.here] else if first = [] then [.root] else [componentOf first]) ++
      namedComponents rest

theorem components_of_append {path : String} {outer inner : List (List Char)}
    (h : pathPieces path = outer ++ inner) (hinner : inner ≠ [])
    (hfirst : outer = [] → ∀ piece ∈ inner.head?, isVoid piece = false) :
    components path = frontComponents outer ++ namedComponents inner := by
  cases outer with
  | nil =>
    obtain ⟨piece, rest, rfl⟩ := List.exists_cons_of_ne_nil hinner
    have hnamed := hfirst rfl piece rfl
    simp only [isVoid, Bool.or_eq_false_iff, beq_eq_false_iff_ne] at hnamed
    rw [components_eq, pathFront_of_pieces h, if_neg hnamed.2, if_neg fun hroot ↦ hnamed.1 hroot.1]
    rfl
  | cons first rest =>
    have hrest : rest ++ inner ≠ [] := List.append_ne_nil_of_right_ne_nil rest hinner
    rw [components_eq, pathFront_of_pieces h, frontComponents, List.append_assoc, ← namedComponents_append]
    split_ifs with hdot hroot hempty hempty
    · rfl
    · rfl
    · exact absurd hroot.1 hempty
    · exact absurd ⟨hempty, hrest⟩ hroot
    · rw [namedComponents_cons_of_named (by simp [isVoid, hempty, hdot])]
      rfl

theorem components_eq_frontComponents {path : String} (h : path ≠ "") :
    components path = frontComponents (pathPieces path) := by
  obtain ⟨first, rest, hpieces⟩ := exists_pathPieces_eq path
  rw [components_eq, pathFront_of_pieces hpieces, hpieces, frontComponents]
  split_ifs with hdot hroot hempty hempty
  · rfl
  · rfl
  · exact absurd hroot.1 hempty
  · -- The one path whose only piece is empty is the empty path.
    by_cases hrest : rest = []
    · rw [hempty, hrest] at hpieces
      exact absurd (String.toList_inj.mp (eq_nil_of_splitWhere hpieces)) h
    · exact absurd ⟨hempty, hrest⟩ hroot
  · rw [List.nil_append, namedComponents_cons_of_named (by simp [isVoid, hempty, hdot])]
    rfl

/-- A piece goes to the end of a path or to the next slash. -/
theorem exists_splitWhere_append {piece after : List Char} (hpiece : '/' ∉ piece)
    (hafter : after = [] ∨ ∃ inner, after = '/' :: inner) :
    ∃ inner, splitWhere (· == '/') (piece ++ after) = piece :: inner := by
  rcases hafter with rfl | ⟨inner, rfl⟩
  · exact ⟨[], by rw [List.append_nil, splitWhere_of_not_mem hpiece]⟩
  · exact ⟨_, by rw [splitWhere_append rfl, splitWhere_of_not_mem hpiece, List.singleton_append]⟩

theorem componentOf_ne_here (piece : List Char) : componentOf piece ≠ .here := by
  rw [componentOf]
  split <;> exact Component.noConfusion

/-- A text is the front of a path and ends inside a component of it, `part` of which stands before the end
and `more` behind it. -/
structure EndsInside (front path : String) (part more : List Char) : Prop where
  split : ∃ before after, front.toList = before ++ part ∧ path.toList = before ++ (part ++ more ++ after) ∧
    (before = [] ∨ ∃ outer, before = outer ++ ['/']) ∧ (after = [] ∨ ∃ inner, after = '/' :: inner)
  part_ne_nil : part ≠ []
  more_ne_nil : more ≠ []
  slash_not_mem : '/' ∉ part ++ more

namespace EndsInside

variable {front path : String} {part more : List Char}

theorem exists_pathPieces (h : EndsInside front path part more) : ∃ outer inner,
    pathPieces front = outer ++ [part] ∧ pathPieces path = outer ++ (part ++ more) :: inner := by
  obtain ⟨before, after, hfront, hpath, hbefore, hafter⟩ := h.split
  have hpart : '/' ∉ part := fun hmem ↦ h.slash_not_mem (List.mem_append_left more hmem)
  obtain ⟨inner, hinner⟩ := exists_splitWhere_append h.slash_not_mem hafter
  rw [pathPieces, pathPieces, hfront, hpath]
  rcases hbefore with rfl | ⟨outer, rfl⟩
  · exact ⟨[], inner, splitWhere_of_not_mem hpart, hinner⟩
  · refine ⟨splitWhere (· == '/') outer, inner, ?_, ?_⟩
    · rw [List.append_assoc, List.singleton_append, splitWhere_append rfl, splitWhere_of_not_mem hpart]
    · rw [List.append_assoc, List.singleton_append, splitWhere_append rfl, hinner]

theorem isVoid_component (h : EndsInside front path part more) : isVoid (part ++ more) = false := by
  obtain ⟨c, rest, rfl⟩ := List.exists_cons_of_ne_nil h.part_ne_nil
  obtain ⟨d, rest', rfl⟩ := List.exists_cons_of_ne_nil h.more_ne_nil
  simp [isVoid]

theorem front_ne_empty (h : EndsInside front path part more) : front ≠ "" := by
  obtain ⟨before, after, hfront, -⟩ := h.split
  rintro rfl
  exact h.part_ne_nil (List.append_eq_nil_iff.mp hfront.symm).2

/-- The component in which the text ends, among those of the path. -/
theorem components_eq (h : EndsInside front path part more) {outer inner : List (List Char)}
    (hpath : pathPieces path = outer ++ (part ++ more) :: inner) : components path =
      frontComponents outer ++ componentOf (part ++ more) :: namedComponents inner := by
  rw [components_of_append hpath (List.cons_ne_nil _ _) fun _ piece hpiece ↦ ?_,
    namedComponents_cons_of_named h.isVoid_component]
  obtain rfl := Option.mem_some.mp hpiece
  exact h.isVoid_component

theorem mem_components (h : EndsInside front path part more) :
    componentOf (part ++ more) ∈ components path := by
  obtain ⟨outer, inner, -, hpath⟩ := h.exists_pathPieces
  rw [h.components_eq hpath]
  exact List.mem_append_right _ List.mem_cons_self

/-- The part before the end is the last component of the text, unless it is a lone dot. -/
theorem components_front (h : EndsInside front path part more) (hdot : part ≠ ['.'])
    {outer : List (List Char)} (hfront : pathPieces front = outer ++ [part]) :
    components front = frontComponents outer ++ [componentOf part] := by
  have hnamed : isVoid part = false := by simp [isVoid, h.part_ne_nil, hdot]
  rw [components_of_append hfront (List.cons_ne_nil _ _) fun _ piece hpiece ↦ ?_,
    namedComponents_cons_of_named hnamed]
  · rfl
  · obtain rfl := Option.mem_some.mp hpiece
    exact hnamed

/-- Only a text that ends in a lone dot, which behind a slash names nothing, has its components in front of
the component in which it ends. -/
theorem of_isPrefix (h : EndsInside front path part more) (hbegins : components front <+: components path) :
    part = ['.'] ∧ ∃ inner, components path = components front ++ componentOf (part ++ more) :: inner := by
  obtain ⟨outer, inner, hfront, hpath⟩ := h.exists_pathPieces
  rw [h.components_eq hpath] at hbegins ⊢
  by_cases hdot : part = ['.']
  · refine ⟨hdot, _, congrArg (· ++ _) ?_⟩
    subst hdot
    by_cases houter : outer = []
    · -- A lone dot at the front of a path is a component, and the one that it would have to be is longer.
      subst houter
      have hhere : components front = [.here] := by
        rw [Files.components_eq, pathFront_of_pieces hfront]
        rfl
      rw [hhere, frontComponents, List.nil_append, List.cons_prefix_cons] at hbegins
      exact absurd hbegins.1.symm (componentOf_ne_here _)
    · rw [components_of_append hfront (List.cons_ne_nil _ _) fun hnil ↦ absurd hnil houter]
      exact (List.append_nil _).symm
  · rw [h.components_front hdot hfront, List.prefix_append_right_inj, List.cons_prefix_cons] at hbegins
    have hsame := componentOf_injective hbegins.1
    exact absurd (List.self_eq_append_right.mp hsame) h.more_ne_nil

/-- What stands behind the text in the path does not begin with the component in which it ends. -/
theorem head?_components_ne (h : EndsInside front path part more) {rest : String}
    (hrest : front ++ rest = path) : (components rest).head? ≠ some (componentOf (part ++ more)) := by
  obtain ⟨before, after, hfront, hpath, -, hafter⟩ := h.split
  have hmore : '/' ∉ more := fun hmem ↦ h.slash_not_mem (List.mem_append_right part hmem)
  obtain ⟨inner, hinner⟩ := exists_splitWhere_append hmore hafter
  have hpieces : pathPieces rest = more :: inner := by
    rw [← hrest, String.toList_append, hfront, List.append_assoc, List.append_assoc part,
      List.append_cancel_left_eq, List.append_cancel_left_eq] at hpath
    rw [pathPieces, hpath, hinner]
  rw [Files.components_eq, pathFront_of_pieces hpieces]
  split_ifs with hdot hroot
  · exact fun heq ↦ componentOf_ne_here _ (Option.some.inj heq).symm
  · exact absurd hroot.1 h.more_ne_nil
  · rw [List.nil_append, namedComponents_cons_of_named (by simp [isVoid, h.more_ne_nil, hdot])]
    intro heq
    have hsame := componentOf_injective (Option.some.inj heq)
    exact h.part_ne_nil (List.self_eq_append_left.mp hsame)

end EndsInside

end SourceGen.Files
