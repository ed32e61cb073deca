import Mathlib.Data.List.Forall2
import Mathlib.Data.List.Induction
import Mathlib.Data.List.Infix
import SourceGen.Proofs.Text.Characters
import SourceGen.Proofs.Text.Joining
import SourceGen.Spec.Parameters

/-!
# Cutting parameter lists

A parameter list falls into pieces at its commas outside of brackets, and its parameters are those pieces
without the blanks around them. So the parameters that were joined come back, as long as the brackets of
each pair up and its own commas stand within them, and joining what a list was cut into gives the list
back but for blanks.
-/

namespace SourceGen.Spec

open Text

/-! ## Trimmed texts -/

/-- A text with no blank at either end. -/
structure IsTrimmed (cs : List Char) : Prop where
  front : ∀ c ∈ cs.head?, isBlank c = false
  back : ∀ c ∈ cs.getLast?, isBlank c = false

/-- A text is another with blanks around it, and that one has none at its ends. -/
def Surrounds (whole core : List Char) : Prop :=
  IsTrimmed core ∧ ∃ before after, Blank before ∧ Blank after ∧ whole = before ++ core ++ after

theorem dropWhile_append_of_blank {before cs : List Char} (hbefore : Blank before)
    (hcs : ∀ c ∈ cs.head?, isBlank c = false) : (before ++ cs).dropWhile isBlank = cs := by
  rw [List.dropWhile_append_of_pos hbefore]
  cases cs with
  | nil => rfl
  | cons c rest => exact List.dropWhile_cons_of_neg (by rw [hcs c rfl]; exact Bool.false_ne_true)

/-- Trimming takes the blanks away that surround a text, and only these. -/
theorem surrounds_trimChars (cs : List Char) : Surrounds cs (trimChars cs) := by
  have hmiddle : cs.dropWhile isBlank =
      trimChars cs ++ ((cs.dropWhile isBlank).reverse.takeWhile isBlank).reverse := by
    rw [trimChars, trimEndChars, dropEndWhile, ← List.reverse_append, List.takeWhile_append_dropWhile,
      List.reverse_reverse]
  refine ⟨⟨fun c hc ↦ ?_, fun c hc ↦ ?_⟩, cs.takeWhile isBlank,
    ((cs.dropWhile isBlank).reverse.takeWhile isBlank).reverse, fun c ↦ List.mem_takeWhile_imp,
    fun c hc ↦ List.mem_takeWhile_imp (List.mem_reverse.mp hc), ?_⟩
  · have hfront : c ∈ (cs.dropWhile isBlank).head? := by
      rw [hmiddle, List.head?_append, Option.mem_def.mp hc]
      rfl
    exact eq_false_of_mem_head?_dropWhile hfront
  · rw [trimChars, trimEndChars, dropEndWhile, List.getLast?_reverse] at hc
    exact eq_false_of_mem_head?_dropWhile hc
  · rw [List.append_assoc, ← hmiddle, List.takeWhile_append_dropWhile]

theorem Surrounds.trimChars_eq {whole core : List Char} (h : Surrounds whole core) :
    trimChars whole = core := by
  obtain ⟨hcore, before, after, hbefore, hafter, rfl⟩ := h
  have hback : (core ++ after).reverse.dropWhile isBlank = core.reverse := by
    rw [List.reverse_append]
    refine dropWhile_append_of_blank (fun c hc ↦ hafter c (List.mem_reverse.mp hc)) fun c hc ↦ ?_
    rw [List.head?_reverse] at hc
    exact hcore.back c hc
  cases core with
  | nil =>
    have hblank : Blank (before ++ [] ++ after) :=
      List.forall_mem_append.mpr ⟨(List.append_nil before).symm ▸ hbefore, hafter⟩
    rw [trimChars, List.dropWhile_eq_nil_iff.mpr hblank]
    rfl
  | cons c rest =>
    have hfront : (before ++ (c :: rest ++ after)).dropWhile isBlank = c :: rest ++ after :=
      dropWhile_append_of_blank hbefore fun first hfirst ↦ hcore.front first hfirst
    rw [trimChars, List.append_assoc, hfront, trimEndChars, dropEndWhile, hback, List.reverse_reverse]

/-! ## Pieces between top-level commas -/

/-- No comma of a text stands outside of brackets, where `depth` of them are open before it. -/
def HidesCommas (depth : Nat) (cs : List Char) : Prop :=
  ∀ front back, cs = front ++ ',' :: back → 0 < front.foldl depthAfter depth

/-- A text falls into pieces at its commas outside of brackets, where `depth` of them are open before it. -/
inductive FallsInto : Nat → List Char → List (List Char) → Prop where
  | last {depth : Nat} {piece : List Char} (hidden : HidesCommas depth piece) :
    FallsInto depth piece [piece]
  | comma {depth : Nat} {piece rest : List Char} {more : List (List Char)} (hidden : HidesCommas depth piece)
    (closed : piece.foldl depthAfter depth = 0) (next : FallsInto 0 rest more) :
    FallsInto depth (piece ++ ',' :: rest) (piece :: more)

theorem hidesCommas_nil (depth : Nat) : HidesCommas depth [] := by
  intro front back h
  simp at h

theorem hidesCommas_cons {depth : Nat} {c : Char} {rest : List Char} :
    HidesCommas depth (c :: rest) ↔ ¬ (c = ',' ∧ depth = 0) ∧ HidesCommas (depthAfter depth c) rest := by
  constructor
  · refine fun h ↦ ⟨?_, fun front back hrest ↦ h (c :: front) back (by rw [hrest, List.cons_append])⟩
    rintro ⟨rfl, rfl⟩
    exact absurd (h [] rest rfl) (Nat.lt_irrefl 0)
  · rintro ⟨hc, hrest⟩ front back h
    cases front with
    | nil =>
      obtain ⟨rfl, -⟩ := List.cons.inj h
      exact Nat.pos_of_ne_zero fun hdepth ↦ hc ⟨rfl, hdepth⟩
    | cons first front =>
      obtain ⟨rfl, hback⟩ := List.cons.inj h
      exact hrest front back hback

/-- What stands in front of a comma or within brackets belongs to the first piece. -/
theorem FallsInto.cons {depth : Nat} {c : Char} {rest piece : List Char} {more : List (List Char)}
    (hc : ¬ (c = ',' ∧ depth = 0)) (h : FallsInto (depthAfter depth c) rest (piece :: more)) :
    FallsInto depth (c :: rest) ((c :: piece) :: more) := by
  cases h with
  | last hidden => exact .last (hidesCommas_cons.mpr ⟨hc, hidden⟩)
  | comma hidden closed next => exact .comma (hidesCommas_cons.mpr ⟨hc, hidden⟩) closed next

theorem FallsInto.ne_nil {depth : Nat} {cs : List Char} {pieces : List (List Char)}
    (h : FallsInto depth cs pieces) : pieces ≠ [] := by
  cases h <;> exact List.cons_ne_nil _ _

theorem fallsInto_splitTopLevel (depth : Nat) (cs : List Char) :
    FallsInto depth cs (splitTopLevel depth cs) := by
  induction cs generalizing depth with
  | nil => exact .last (hidesCommas_nil depth)
  | cons c rest ih =>
    rw [splitTopLevel]
    split
    · next hcomma =>
      obtain ⟨rfl, rfl⟩ := hcomma
      have hempty : FallsInto 0 ([] ++ ',' :: rest) ([] :: splitTopLevel 0 rest) :=
        .comma (hidesCommas_nil 0) rfl (ih 0)
      exact hempty
    · next hcomma =>
      have hrest := ih (depthAfter depth c)
      obtain ⟨piece, more, hpieces⟩ := List.exists_cons_of_ne_nil hrest.ne_nil
      rw [hpieces] at hrest ⊢
      exact hrest.cons hcomma

theorem splitTopLevel_cons {depth : Nat} {c : Char} {rest piece : List Char} {more : List (List Char)}
    (hc : ¬ (c = ',' ∧ depth = 0)) (h : splitTopLevel (depthAfter depth c) rest = piece :: more) :
    splitTopLevel depth (c :: rest) = (c :: piece) :: more := by
  rw [splitTopLevel, if_neg hc, h]

theorem splitTopLevel_of_hidesCommas {depth : Nat} {piece : List Char} (h : HidesCommas depth piece) :
    splitTopLevel depth piece = [piece] := by
  induction piece generalizing depth with
  | nil => rfl
  | cons c rest ih =>
    obtain ⟨hc, hrest⟩ := hidesCommas_cons.mp h
    exact splitTopLevel_cons hc (ih hrest)

theorem splitTopLevel_append {depth : Nat} {piece : List Char} (h : HidesCommas depth piece)
    (hclosed : piece.foldl depthAfter depth = 0) (rest : List Char) :
    splitTopLevel depth (piece ++ ',' :: rest) = piece :: splitTopLevel 0 rest := by
  induction piece generalizing depth with
  | nil =>
    obtain rfl : depth = 0 := hclosed
    rw [List.nil_append, splitTopLevel, if_pos ⟨rfl, rfl⟩]
  | cons c front ih =>
    obtain ⟨hc, hfront⟩ := hidesCommas_cons.mp h
    exact splitTopLevel_cons hc (ih hfront hclosed)

/-- There is only one way to cut a list at its top-level commas. -/
theorem FallsInto.splitTopLevel_eq {depth : Nat} {cs : List Char} {pieces : List (List Char)}
    (h : FallsInto depth cs pieces) : splitTopLevel depth cs = pieces := by
  induction h with
  | last hidden => exact splitTopLevel_of_hidesCommas hidden
  | comma hidden closed _ ih => rw [splitTopLevel_append hidden closed, ih]

theorem FallsInto.intercalate_eq {depth : Nat} {cs : List Char} {pieces : List (List Char)}
    (h : FallsInto depth cs pieces) : [','].intercalate pieces = cs := by
  induction h with
  | last => exact List.intercalate_singleton
  | @comma depth piece rest more _ _ next ih =>
    obtain ⟨first, others, rfl⟩ := List.exists_cons_of_ne_nil next.ne_nil
    rw [List.intercalate_cons_cons, ih]
    simp

/-! ## Brackets that pair up -/

def isOpening (c : Char) : Bool :=
  c == '<' || c == '('

def isClosing (c : Char) : Bool :=
  c == '>' || c == ')'

/-- The opening brackets of a text less its closing ones. -/
def balance (cs : List Char) : Int :=
  cs.countP isOpening - cs.countP isClosing

/-- A trimmed text whose brackets pair up and whose commas stand within them. -/
structure IsParameter (cs : List Char) : Prop where
  trimmed : IsTrimmed cs
  opened : ∀ front, front <+: cs → 0 ≤ balance front
  closed : balance cs = 0
  sheltered : ∀ front, front ++ [','] <+: cs → 0 < balance front

theorem isTrimmed_iff {cs : List Char} :
    IsTrimmed cs ↔ cs.head?.any isBlank = false ∧ cs.getLast?.any isBlank = false := by
  have hend : ∀ c? : Option Char, c?.any isBlank = false ↔ ∀ c ∈ c?, isBlank c = false := by
    intro c?
    cases c? <;> simp
  rw [hend, hend]
  exact ⟨fun h ↦ ⟨h.front, h.back⟩, fun h ↦ ⟨h.1, h.2⟩⟩

theorem isParameter_iff {cs : List Char} : IsParameter cs ↔ IsTrimmed cs ∧ balance cs = 0 ∧
    ∀ front ∈ cs.inits, 0 ≤ balance front ∧ (front ++ [','] <+: cs → 0 < balance front) := by
  simp only [List.mem_inits]
  constructor
  · exact fun h ↦ ⟨h.trimmed, h.closed, fun front hfront ↦ ⟨h.opened front hfront, h.sheltered front⟩⟩
  · rintro ⟨htrimmed, hclosed, hfronts⟩
    exact ⟨htrimmed, fun front hfront ↦ (hfronts front hfront).1, hclosed,
      fun front hcomma ↦ (hfronts front ((List.prefix_append front [',']).trans hcomma)).2 hcomma⟩

instance {cs : List Char} : Decidable (IsTrimmed cs) := decidable_of_iff' _ isTrimmed_iff

instance {cs : List Char} : Decidable (IsParameter cs) := decidable_of_iff' _ isParameter_iff

theorem balance_concat (cs : List Char) (c : Char) : balance (cs ++ [c]) =
    if c = '<' ∨ c = '(' then balance cs + 1 else if c = '>' ∨ c = ')' then balance cs - 1
      else balance cs := by
  have hopening : isOpening c = true ↔ c = '<' ∨ c = '(' := by simp [isOpening]
  have hclosing : isClosing c = true ↔ c = '>' ∨ c = ')' := by simp [isClosing]
  simp only [balance, List.countP_append, List.countP_singleton, hopening, hclosing]
  by_cases hopen : c = '<' ∨ c = '('
  · have hclose : ¬ (c = '>' ∨ c = ')') := by
      rcases hopen with rfl | rfl <;> decide
    simp only [if_pos hopen, if_neg hclose]
    omega
  · simp only [if_neg hopen]
    split <;> omega

/-- As long as no bracket is closed too early, none of them is ignored. -/
theorem foldl_depthAfter_eq_balance {cs : List Char} (h : ∀ front, front <+: cs → 0 ≤ balance front) :
    ((cs.foldl depthAfter 0 : Nat) : Int) = balance cs := by
  induction cs using List.reverseRecOn with
  | nil => rfl
  | append_singleton cs c ih =>
    have hcs := ih fun front hfront ↦ h front (hfront.trans (List.prefix_append cs [c]))
    have hnonneg := h _ (List.prefix_refl _)
    rw [balance_concat] at hnonneg ⊢
    rw [List.foldl_concat, depthAfter]
    split_ifs at hnonneg ⊢ <;> omega

theorem IsParameter.hidesCommas {cs : List Char} (h : IsParameter cs) : HidesCommas 0 cs := by
  intro front back hcs
  have hwithin : front <+: cs := ⟨',' :: back, hcs.symm⟩
  have hdepth := foldl_depthAfter_eq_balance fun inner hinner ↦ h.opened inner (hinner.trans hwithin)
  have hopen := h.sheltered front ⟨back, by rw [hcs, List.append_assoc, List.singleton_append]⟩
  omega

theorem IsParameter.foldl_depthAfter {cs : List Char} (h : IsParameter cs) : cs.foldl depthAfter 0 = 0 := by
  have hdepth := foldl_depthAfter_eq_balance h.opened
  have hclosed := h.closed
  omega

/-! ## Parameters joined and cut -/

/-- Joined parameters fall apart where they were joined; the blank behind a comma stays with what follows. -/
theorem fallsInto_intercalate {first : List Char} {rest : List (List Char)}
    (h : ∀ param ∈ first :: rest, IsParameter param) :
    FallsInto 0 ([',', ' '].intercalate (first :: rest)) (first :: rest.map (' ' :: ·)) := by
  induction rest generalizing first with
  | nil =>
    rw [List.intercalate_singleton]
    exact .last (h first List.mem_cons_self).hidesCommas
  | cons next rest ih =>
    obtain ⟨hfirst, hrest⟩ := List.forall_mem_cons.mp h
    have hnext : FallsInto 0 (' ' :: [',', ' '].intercalate (next :: rest))
        ((' ' :: next) :: rest.map (' ' :: ·)) := (ih hrest).cons (by decide)
    rw [List.intercalate_cons_cons, List.append_assoc]
    exact .comma hfirst.hidesCommas hfirst.foldl_depthAfter hnext

theorem map_trimChars_spaced {first : List Char} {rest : List (List Char)}
    (h : ∀ param ∈ first :: rest, IsTrimmed param) :
    (first :: rest.map (' ' :: ·)).map trimChars = first :: rest := by
  have hfirst : Surrounds first first :=
    ⟨h first List.mem_cons_self, [], [], blank_nil, blank_nil, (List.append_nil first).symm⟩
  have hrest : ∀ param ∈ rest, (trimChars ∘ (' ' :: ·)) param = id param := fun param hparam ↦
    Surrounds.trimChars_eq ⟨h param (List.mem_cons_of_mem first hparam), [' '], [],
      blank_cons.mpr ⟨by decide, blank_nil⟩, blank_nil, (List.append_nil _).symm⟩
  rw [List.map_cons, hfirst.trimChars_eq, List.map_map, List.map_congr_left hrest, List.map_id]

/-- A blank list has no parameters, though it falls into one piece. -/
theorem parameterList_eq (template : List Char) : parameterList template =
    if (splitTopLevel 0 template).map trimChars = [[]] then []
    else (splitTopLevel 0 template).map trimChars := by
  rw [parameterList]
  split
  · next hblank => rw [if_pos hblank]
  · next hne => rw [if_neg hne]

theorem parameterList_intercalate {params : List (List Char)} (h : ∀ param ∈ params, IsParameter param)
    (hne : params ≠ [[]]) : parameterList ([',', ' '].intercalate params) = params := by
  cases params with
  | nil => rfl
  | cons first rest =>
    have hpieces := (fallsInto_intercalate h).splitTopLevel_eq
    have htrimmed := map_trimChars_spaced fun param hparam ↦ (h param hparam).trimmed
    rw [parameterList_eq, hpieces, htrimmed, if_neg hne]

theorem map_ofList_toList (texts : List String) : (texts.map String.toList).map String.ofList = texts := by
  rw [List.map_map]
  exact (List.map_congr_left fun _ _ ↦ String.ofList_toList).trans (List.map_id texts)

theorem map_toList_ofList (pieces : List (List Char)) :
    (pieces.map String.ofList).map String.toList = pieces := by
  rw [List.map_map]
  exact (List.map_congr_left fun _ _ ↦ String.toList_ofList).trans (List.map_id pieces)

/-- Parameters that were joined come back from the list, and every list is what its parameters are joined to
but for the blanks at its ends and around its top-level commas. -/
theorem parameters_join_and_back :
    (∀ params : List String, (∀ param ∈ params, IsParameter param.toList) → params ≠ [""] →
      parameters (join ", " params) = params) ∧
    ∀ template : String, ∃ pieces cores : List (List Char),
      FallsInto 0 template.toList pieces ∧ [','].intercalate pieces = template.toList ∧
      List.Forall₂ Surrounds pieces cores ∧
      (join "," (parameters template)).toList = [','].intercalate cores ∧
      parameters template = if cores = [[]] then [] else cores.map String.ofList := by
  constructor
  · intro params h hne
    have hchars : ∀ param ∈ params.map String.toList, IsParameter param := List.forall_mem_map.mpr h
    have hne' : params.map String.toList ≠ [[]] := by
      intro hmap
      rw [← map_ofList_toList params, hmap] at hne
      exact hne rfl
    rw [parameters, join, String.toList_intercalate]
    exact (congrArg _ (parameterList_intercalate hchars hne')).trans (map_ofList_toList params)
  · intro template
    have hcut := fallsInto_splitTopLevel 0 template.toList
    have hcores : List.Forall₂ Surrounds (splitTopLevel 0 template.toList)
        ((splitTopLevel 0 template.toList).map trimChars) :=
      List.forall₂_map_right_iff.mpr (List.forall₂_same.mpr fun piece _ ↦ surrounds_trimChars piece)
    have hparams : parameters template =
        if (splitTopLevel 0 template.toList).map trimChars = [[]] then []
        else ((splitTopLevel 0 template.toList).map trimChars).map String.ofList := by
      rw [parameters, parameterList_eq]
      split <;> rfl
    refine ⟨_, _, hcut, hcut.intercalate_eq, hcores, ?_, hparams⟩
    rw [hparams, join, String.toList_intercalate]
    split
    · next hblank =>
      rw [hblank]
      rfl
    · rw [map_toList_ofList]
      rfl

theorem parameters_join_pair :
    (∀ param ∈ ["typename T", "typename U = std::pair<T, T>", ""], IsParameter param.toList) ∧
      parameters "typename T, typename U = std::pair<T, T>, " =
        ["typename T", "typename U = std::pair<T, T>", ""] := by
  have hparams : ∀ param ∈ ["typename T", "typename U = std::pair<T, T>", ""],
      IsParameter param.toList := by decide +kernel
  have hjoin : join ", " ["typename T", "typename U = std::pair<T, T>", ""] =
      "typename T, typename U = std::pair<T, T>, " := by decide +kernel
  exact ⟨hparams, hjoin ▸ parameters_join_and_back.1 _ hparams (by decide)⟩

end SourceGen.Spec
