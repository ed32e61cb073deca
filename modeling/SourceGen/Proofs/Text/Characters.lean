import Mathlib.Data.List.DropRight
import Mathlib.Data.List.TakeWhile
import SourceGen.Text.Blank
import SourceGen.Text.Identifier

/-!
# Kinds of characters

Blanks and the characters of identifiers have nothing in common, and none of the signs that the grammars
of names and templates use is among either.
-/

namespace SourceGen.Text

/-- What is dropped from the front of a list ends where it must. -/
theorem eq_false_of_mem_head?_dropWhile {α : Type} {p : α → Bool} {items : List α} {item : α}
    (h : item ∈ (items.dropWhile p).head?) : p item = false := by
  have hstop := List.head?_dropWhile_not p items
  rwa [Option.mem_def.mp h] at hstop

/-! ## Blanks -/

def Blank (cs : List Char) : Prop :=
  ∀ c ∈ cs, isBlank c = true

@[simp] theorem blank_nil : Blank [] := fun _ h ↦ absurd h List.not_mem_nil

@[simp] theorem blank_cons {c : Char} {cs : List Char} :
    Blank (c :: cs) ↔ isBlank c = true ∧ Blank cs :=
  List.forall_mem_cons

theorem blank_append {cs : List Char} {c : Char} (hcs : Blank cs) (hc : isBlank c = true) :
    Blank (cs ++ [c]) :=
  List.forall_mem_append.mpr ⟨hcs, List.forall_mem_singleton.mpr hc⟩

/-- Trimming a text takes nothing but blanks away. -/
theorem isBlank_or_mem_trimChars {c : Char} {cs : List Char} (h : c ∈ cs) :
    isBlank c = true ∨ c ∈ trimChars cs := by
  have hsides : ∀ {p : Char → Bool} {cs : List Char}, c ∈ cs → p c = true ∨ c ∈ cs.dropWhile p := by
    intro p cs hmem
    have hwhole : cs.takeWhile p ++ cs.dropWhile p = cs := List.takeWhile_append_dropWhile
    rw [← hwhole, List.mem_append] at hmem
    exact hmem.imp_left fun htake ↦ List.mem_takeWhile_imp htake
  rcases hsides h with hblank | hfront
  · exact .inl hblank
  · exact (hsides (List.mem_reverse.mpr hfront)).imp_right List.mem_reverse.mpr

theorem mem_of_mem_trimChars {c : Char} {cs : List Char} (h : c ∈ trimChars cs) : c ∈ cs := by
  rw [trimChars, trimEndChars, dropEndWhile, List.mem_reverse] at h
  have hfront := List.mem_reverse.mp ((List.dropWhile_sublist isBlank).mem h)
  exact (List.dropWhile_sublist isBlank).mem hfront

theorem ne_of_isBlank_eq_false {c blank : Char} (hc : isBlank c = false) (hblank : isBlank blank = true) :
    c ≠ blank := by
  rintro rfl
  exact Bool.false_ne_true (hc.symm.trans hblank)

/-- A text that ends with no blank loses nothing at its end. -/
theorem trimEnd_of_concat {text : String} {front : List Char} {c : Char}
    (htext : text.toList = front ++ [c]) (hc : isBlank c = false) : trimEnd text = text := by
  have hkept : trimEndChars (front ++ [c]) = front ++ [c] :=
    List.rdropWhile_concat_neg _ _ _ (by rw [hc]; exact Bool.false_ne_true)
  rw [← String.toList_inj, trimEnd, String.toList_ofList, htext, hkept]

/-- What is left of characters when blanks are taken off their end does not end with one. -/
theorem exists_trimEndChars_concat {cs : List Char} (h : trimEndChars cs ≠ []) :
    ∃ front c, trimEndChars cs = front ++ [c] ∧ isBlank c = false := by
  have hlast : ¬ isBlank ((trimEndChars cs).getLast h) = true := List.rdropWhile_last_not _ _ h
  exact ⟨_, _, (List.dropLast_concat_getLast h).symm, Bool.eq_false_iff.mpr hlast⟩

theorem exists_trimEnd_concat {text : String} (h : trimEnd text ≠ "") :
    ∃ front c, (trimEnd text).toList = front ++ [c] ∧ isBlank c = false := by
  rw [trimEnd, Ne, String.ofList_eq_empty_iff] at h
  rw [trimEnd, String.toList_ofList]
  exact exists_trimEndChars_concat h

theorem exists_trim_concat {text : String} (h : trim text ≠ "") :
    ∃ front c, (trim text).toList = front ++ [c] ∧ isBlank c = false := by
  rw [trim, Ne, String.ofList_eq_empty_iff] at h
  rw [trim, String.toList_ofList]
  exact exists_trimEndChars_concat h

/-- What is left of a text when blanks are taken off both its ends does not begin with one. -/
theorem exists_trim_cons {text : String} (h : trim text ≠ "") :
    ∃ c rest, (trim text).toList = c :: rest ∧ isBlank c = false := by
  rw [trim, Ne, String.ofList_eq_empty_iff] at h
  rw [trim, String.toList_ofList]
  obtain ⟨c, rest, hchars⟩ := List.exists_cons_of_ne_nil h
  have hfront : trimChars text.toList <+: text.toList.dropWhile isBlank := List.rdropWhile_prefix isBlank _
  rw [hchars] at hfront
  obtain ⟨after, hafter⟩ := hfront
  have hhead : c ∈ (text.toList.dropWhile isBlank).head? := hafter ▸ Option.mem_some_self c
  exact ⟨c, rest, hchars, eq_false_of_mem_head?_dropWhile hhead⟩

/-! ## Identifiers -/

theorem isIdentifierChar_of_isIdentifierStart {c : Char} (h : isIdentifierStart c = true) :
    isIdentifierChar c = true := by
  simp only [isIdentifierStart, isIdentifierChar, Char.isAlphanum, Bool.or_eq_true] at h ⊢
  rcases h with h | h
  · exact .inl (.inl h)
  · exact .inr h

theorem isIdentifierChar_of_mem {name : List Char} (hname : isIdentifierChars name = true) {c : Char}
    (hc : c ∈ name) : isIdentifierChar c = true := by
  cases name with
  | nil => cases hname
  | cons first rest =>
    simp only [isIdentifierChars, Bool.and_eq_true, List.all_eq_true] at hname
    rcases List.mem_cons.mp hc with rfl | hrest
    · exact isIdentifierChar_of_isIdentifierStart hname.1
    · exact hname.2 c hrest

theorem isIdentifierChars_append {name : List Char} {c : Char} (hname : isIdentifierChars name = true)
    (hc : isIdentifierChar c = true) : isIdentifierChars (name ++ [c]) = true := by
  cases name with
  | nil => cases hname
  | cons first rest =>
    simp only [isIdentifierChars, Bool.and_eq_true] at hname
    simp [isIdentifierChars, hname, hc]

/-- A sign that is no character of identifiers does not occur in one. -/
theorem not_mem_of_isIdentifierChars {name : List Char} (hname : isIdentifierChars name = true)
    {c : Char} (hc : isIdentifierChar c = false) : c ∉ name := by
  intro hmem
  rw [isIdentifierChar_of_mem hname hmem] at hc
  cases hc

theorem toNat_of_between {low c high : Char}
    (h : (decide (low.val ≤ c.val) && decide (c.val ≤ high.val)) = true) :
    low.toNat ≤ c.toNat ∧ c.toNat ≤ high.toNat := by
  rw [Bool.and_eq_true] at h
  exact ⟨of_decide_eq_true h.1, of_decide_eq_true h.2⟩

theorem toNat_of_isIdentifierChar {c : Char} (h : isIdentifierChar c = true) :
    (48 ≤ c.toNat ∧ c.toNat ≤ 57) ∨ (65 ≤ c.toNat ∧ c.toNat ≤ 90) ∨ c.toNat = 95 ∨
      (97 ≤ c.toNat ∧ c.toNat ≤ 122) := by
  have hupper : c.isUpper = true → 65 ≤ c.toNat ∧ c.toNat ≤ 90 := fun h ↦ of_decide_eq_true h
  have hlower : c.isLower = true → 97 ≤ c.toNat ∧ c.toNat ≤ 122 := toNat_of_between
  have hdigit : c.isDigit = true → 48 ≤ c.toNat ∧ c.toNat ≤ 57 := toNat_of_between
  have hkind : (((c.isUpper || c.isLower) || c.isDigit) || c == '_') = true := h
  simp only [Bool.or_eq_true, beq_iff_eq] at hkind
  rcases hkind with ((h | h) | h) | rfl
  · exact .inr (.inl (hupper h))
  · exact .inr (.inr (.inr (hlower h)))
  · exact .inl (hdigit h)
  · exact .inr (.inr (.inl rfl))

theorem isBlank_of_isIdentifierChar {c : Char} (h : isIdentifierChar c = true) : isBlank c = false := by
  have hrange := toNat_of_isIdentifierChar h
  simp only [isBlank, Bool.or_eq_false_iff, Bool.and_eq_false_iff, decide_eq_false_iff_not,
    beq_eq_false_iff_ne]
  omega

theorem isIdentifierChar_of_isBlank {c : Char} (h : isBlank c = true) : isIdentifierChar c = false := by
  cases hchar : isIdentifierChar c with
  | false => rfl
  | true =>
    rw [isBlank_of_isIdentifierChar hchar] at h
    cases h

theorem isBlank_of_isIdentifierStart {c : Char} (h : isIdentifierStart c = true) : isBlank c = false :=
  isBlank_of_isIdentifierChar (isIdentifierChar_of_isIdentifierStart h)

theorem ne_colon_of_isIdentifierStart {c : Char} (h : isIdentifierStart c = true) : c ≠ ':' := by
  rintro rfl
  revert h
  decide

end SourceGen.Text
