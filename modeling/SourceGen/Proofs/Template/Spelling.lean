import SourceGen.Proofs.Outcome
import SourceGen.Proofs.Text.Characters
import SourceGen.Template.Source

/-!
# How pieces are spelled

What the reader of templates accepts, said without its modes: a source spells the pieces that it is read
as, and it spells no others. From a piece at the front one can tell the characters it is written with.
-/

namespace SourceGen.Template

open Text

/-! ## Placeholders -/

theorem placeholder_eq_some_iff {written : List Char} {piece : Piece} :
    placeholder written = some piece ↔ ∃ name, isIdentifier name = true ∧
      ((written = name.toList ∧ piece = .slot name) ∨
        (written = '#' :: name.toList ∧ piece = .marker name)) := by
  constructor
  · intro h
    unfold placeholder at h
    split at h
    · next name =>
      simp only [Option.ite_none_right_eq_some, Option.some.injEq] at h
      obtain ⟨hname, rfl⟩ := h
      exact ⟨String.ofList name, by rwa [isIdentifier, String.toList_ofList],
        .inr ⟨by rw [String.toList_ofList], rfl⟩⟩
    · simp only [Option.ite_none_right_eq_some, Option.some.injEq] at h
      obtain ⟨hname, rfl⟩ := h
      exact ⟨String.ofList written, by rwa [isIdentifier, String.toList_ofList],
        .inl ⟨by rw [String.toList_ofList], rfl⟩⟩
  · rintro ⟨name, hname, ⟨rfl, rfl⟩ | ⟨rfl, rfl⟩⟩ <;> rw [isIdentifier] at hname
    · unfold placeholder
      split
      · next rest hrest =>
        rw [hrest] at hname
        cases hname
      · rw [if_pos hname, String.ofList_toList]
    · simp [placeholder, hname]

/-- Between its braces a placeholder has no sign but the number sign of a marker. -/
theorem not_mem_of_placeholder {written : List Char} {piece : Piece}
    (h : placeholder written = some piece) {c : Char} (hchar : isIdentifierChar c = false)
    (hmark : c ≠ '#') : c ∉ written := by
  obtain ⟨name, hname, ⟨rfl, -⟩ | ⟨rfl, -⟩⟩ := placeholder_eq_some_iff.mp h
  · exact not_mem_of_isIdentifierChars hname hchar
  · simp [hmark, not_mem_of_isIdentifierChars hname hchar]

/-! ## Spelling -/

/-- Characters written so that they read as pieces. -/
inductive Spells : List Char → List Piece → Prop where
  | done : Spells [] []
  | plain {c : Char} {rest : List Char} {pieces : List Piece} (hc : c ≠ '$')
    (h : Spells rest pieces) : Spells (c :: rest) (.char c :: pieces)
  | escape {rest : List Char} {pieces : List Piece} (h : Spells rest pieces) :
    Spells ('$' :: '$' :: rest) (.char '$' :: pieces)
  | lone {rest : List Char} {pieces : List Piece} (hnext : ∀ c ∈ rest.head?, c ≠ '$' ∧ c ≠ '{')
    (h : Spells rest pieces) : Spells ('$' :: rest) (.char '$' :: pieces)
  | placeholder {written rest : List Char} {piece : Piece} {pieces : List Piece}
    (hpiece : placeholder written = some piece) (h : Spells rest pieces) :
    Spells ('$' :: '{' :: (written ++ '}' :: rest)) (piece :: pieces)

/-- What the reader has taken in without a piece of it being done. -/
def Mode.pending : Mode → List Char
  | .text => []
  | .dollar => ['$']
  | .braces read => '$' :: '{' :: read.reverse

theorem spells_of_readPieces {mode : Mode} {cs : List Char} {pieces : List Piece}
    (h : readPieces mode cs = .ok pieces) : Spells (mode.pending ++ cs) pieces := by
  -- In every mode, what is pending stands in front of what is left to read.
  induction mode, cs using readPieces.induct generalizing pieces with
  | case1 =>
    cases h
    exact .done
  | case2 rest ih =>
    simp only [readPieces, if_true] at h
    exact ih h
  | case3 c rest hc ih =>
    simp only [readPieces, if_neg hc] at h
    obtain ⟨later, hlater, rfl⟩ := map_eq_ok.mp h
    exact .plain hc (ih hlater)
  | case4 =>
    cases h
    exact .lone (by simp) .done
  | case5 rest ih =>
    simp only [readPieces, if_true] at h
    obtain ⟨later, hlater, rfl⟩ := map_eq_ok.mp h
    exact .escape (ih hlater)
  | case6 rest hd ih =>
    simp only [readPieces, if_neg hd, if_true] at h
    exact ih h
  | case7 c rest hd hb ih =>
    simp only [readPieces, if_neg hd, if_neg hb] at h
    obtain ⟨later, hlater, rfl⟩ := map_eq_ok.mp h
    exact .lone (by simp [hd, hb]) (.plain hd (ih hlater))
  | case8 read => cases h
  | case9 read rest piece hpiece ih =>
    simp only [readPieces, if_true, hpiece] at h
    obtain ⟨later, hlater, rfl⟩ := map_eq_ok.mp h
    exact .placeholder hpiece (ih hlater)
  | case10 read rest hpiece =>
    simp only [readPieces, if_true, hpiece] at h
    cases h
  | case11 read c rest hc ih =>
    simp only [readPieces, if_neg hc] at h
    simpa [Mode.pending] using ih h

theorem readPieces_braces {read written : List Char} (h : '}' ∉ written) (rest : List Char) :
    readPieces (.braces read) (written ++ '}' :: rest) =
      readPieces (.braces (written.reverse ++ read)) ('}' :: rest) := by
  induction written generalizing read with
  | nil => rfl
  | cons c more ih =>
    rw [List.mem_cons, not_or] at h
    obtain ⟨hc, hmore⟩ := h
    rw [List.cons_append, readPieces, if_neg (Ne.symm hc), ih hmore, List.reverse_cons,
      List.append_assoc, List.singleton_append]

theorem Spells.readPieces {cs : List Char} {pieces : List Piece} (h : Spells cs pieces) :
    readPieces .text cs = .ok pieces := by
  induction h with
  | done => rfl
  | plain hc _ ih =>
    rw [Template.readPieces, if_neg hc, ih]
    rfl
  | escape _ ih =>
    simp only [Template.readPieces, if_true, ih]
    rfl
  | @lone rest _ hnext _ ih =>
    -- The reader takes the next character in together with the dollar sign.
    cases rest with
    | nil =>
      cases ih
      rfl
    | cons c rest =>
      obtain ⟨hdollar, hbrace⟩ := hnext c rfl
      rw [Template.readPieces, if_neg hdollar] at ih
      obtain ⟨later, hlater, rfl⟩ := map_eq_ok.mp ih
      simp only [Template.readPieces, if_true, if_neg hdollar, if_neg hbrace, hlater]
      rfl
  | placeholder hpiece _ ih =>
    have hfree := not_mem_of_placeholder hpiece (c := '}') (by decide) (by decide)
    simp only [Template.readPieces, if_true, if_neg (show '{' ≠ '$' by decide),
      readPieces_braces hfree, List.append_nil, List.reverse_reverse, hpiece, ih]
    rfl

theorem readPieces_eq_ok_iff {cs : List Char} {pieces : List Piece} :
    readPieces .text cs = .ok pieces ↔ Spells cs pieces :=
  ⟨spells_of_readPieces, Spells.readPieces⟩

theorem Spells.unique {cs : List Char} {pieces pieces' : List Piece} (h : Spells cs pieces)
    (h' : Spells cs pieces') : pieces = pieces' :=
  Except.ok.inj (h.readPieces.symm.trans h'.readPieces)

/-- Behind a text that reads by itself, a line break starts afresh. -/
theorem Spells.append_newline {cs rest : List Char} {pieces later : List Piece}
    (h : Spells cs pieces) (hrest : Spells rest later) :
    Spells (cs ++ '\n' :: rest) (pieces ++ .char '\n' :: later) := by
  induction h with
  | done => exact .plain (by decide) hrest
  | plain hc _ ih => exact .plain hc ih
  | escape _ ih => exact .escape ih
  | @lone following _ hnext _ ih =>
    refine .lone ?_ ih
    cases following with
    | nil => simp
    | cons c more => exact hnext
  | placeholder hpiece _ ih => simpa using Spells.placeholder hpiece ih

/-! ## Pieces at the front -/

theorem Spells.of_blank {blanks rest : List Char} {pieces : List Piece} (hblanks : Blank blanks)
    (h : Spells rest pieces) : Spells (blanks ++ rest) (blanks.map .char ++ pieces) := by
  induction blanks with
  | nil => exact h
  | cons c more ih =>
    obtain ⟨hc, hmore⟩ := blank_cons.mp hblanks
    have hdollar : c ≠ '$' := by
      rintro rfl
      revert hc
      decide
    exact .plain hdollar (ih hmore)

theorem Spells.exists_of_blank {blanks cs : List Char} {pieces : List Piece} (hblanks : Blank blanks)
    (h : Spells cs (blanks.map .char ++ pieces)) : ∃ rest, cs = blanks ++ rest ∧ Spells rest pieces := by
  induction blanks generalizing cs with
  | nil => exact ⟨cs, rfl, h⟩
  | cons c more ih =>
    obtain ⟨hc, hmore⟩ := blank_cons.mp hblanks
    have hblank : Text.isBlank '$' = false := by decide
    cases h with
    | plain _ hrest =>
      obtain ⟨rest, rfl, hspells⟩ := ih hmore hrest
      exact ⟨rest, rfl, hspells⟩
    | escape _ => simp [hblank] at hc
    | lone _ _ => simp [hblank] at hc
    | placeholder hpiece _ => simp [placeholder_eq_some_iff] at hpiece

theorem Spells.exists_of_marker {cs : List Char} {name : String} {pieces : List Piece}
    (h : Spells cs (.marker name :: pieces)) : isIdentifier name = true ∧
      ∃ rest, cs = '$' :: '{' :: '#' :: (name.toList ++ '}' :: rest) ∧ Spells rest pieces := by
  cases h with
  | placeholder hpiece hrest =>
    obtain ⟨name', hname, ⟨-, heq⟩ | ⟨rfl, heq⟩⟩ := placeholder_eq_some_iff.mp hpiece
    · cases heq
    · cases heq
      exact ⟨hname, _, rfl, hrest⟩

end SourceGen.Template
