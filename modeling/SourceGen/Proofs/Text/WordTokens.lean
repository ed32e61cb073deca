import Mathlib.Data.List.SplitBy
import SourceGen.Proofs.Text.Characters
import SourceGen.Text.Word

/-!
# Word tokens

A text falls into its longest runs of word characters and into its other characters, each alone. To replace
a word is to replace the runs that are that word. When words give way to a word, the tokens of the new text
are those of the old one with the words replaced, so that further replacements find what they would have
found at first.
-/

namespace SourceGen.Text

/-! ## Tokens -/

/-- The longest runs of word characters of a text, and its other characters one by one. -/
def wordTokens (cs : List Char) : List (List Char) :=
  cs.splitBy fun first second ↦ isWordChar first && isWordChar second

/-- One word character or more, and nothing else. -/
structure IsWord (cs : List Char) : Prop where
  nonempty : cs ≠ []
  chars : ∀ c ∈ cs, isWordChar c = true

/-- A text goes on with no word character. -/
def EndsWord (rest : List Char) : Prop :=
  ∀ c ∈ rest.head?, isWordChar c = false

theorem endsWord_nil : EndsWord [] := fun _ h ↦ nomatch h

theorem endsWord_cons {c : Char} {rest : List Char} : EndsWord (c :: rest) ↔ isWordChar c = false := by
  simp [EndsWord]

theorem wordTokens_cons_of_not_word {c : Char} (hc : isWordChar c = false) (rest : List Char) :
    wordTokens (c :: rest) = [c] :: wordTokens rest := by
  have hsplit : [c].splitBy (fun first second ↦ isWordChar first && isWordChar second) = [[c]] := rfl
  rw [wordTokens, ← List.singleton_append, List.splitBy_append (by simp [hc]), hsplit]
  rfl

theorem wordTokens_append_of_isWord {word rest : List Char} (hword : IsWord word) (hrest : EndsWord rest) :
    wordTokens (word ++ rest) = word :: wordTokens rest := by
  have hchain : word.IsChain fun first second ↦ (isWordChar first && isWordChar second) = true :=
    (List.pairwise_iff_forall_sublist.mpr fun {first second} h ↦ by
      rw [hword.chars first (h.mem (by simp)), hword.chars second (h.mem (by simp))]
      rfl).isChain
  have hcut : ∀ first ∈ word.getLast?, ∀ second ∈ rest.head?,
      (isWordChar first && isWordChar second) = false :=
    fun first _ second hsecond ↦ by rw [hrest second hsecond, Bool.and_false]
  rw [wordTokens, List.splitBy_append hcut, List.splitBy_of_isChain hword.nonempty hchain]
  rfl

/-- A text is read token by token. -/
theorem wordTokens_induction {motive : List Char → Prop} (nil : motive [])
    (other : ∀ c rest, isWordChar c = false → motive rest → motive (c :: rest))
    (word : ∀ word rest, IsWord word → EndsWord rest → motive rest → motive (word ++ rest))
    (cs : List Char) : motive cs := by
  induction hlength : cs.length using Nat.strong_induction_on generalizing cs with
  | _ length ih =>
    cases cs with
    | nil => exact nil
    | cons c rest =>
      cases hc : isWordChar c with
      | false => exact other c rest hc (ih rest.length (by simp [← hlength]) rest rfl)
      | true =>
        have hends : EndsWord ((c :: rest).dropWhile isWordChar) :=
          fun _ ↦ eq_false_of_mem_head?_dropWhile
        have hshorter : ((c :: rest).dropWhile isWordChar).length < length := by
          rw [List.dropWhile_cons_of_pos hc, ← hlength]
          exact Nat.lt_succ_of_le (List.dropWhile_sublist isWordChar).length_le
        rw [← List.takeWhile_append_dropWhile (p := isWordChar) (l := c :: rest)]
        exact word _ _ ⟨by simp [hc], fun _ ↦ List.mem_takeWhile_imp⟩ hends (ih _ hshorter _ rfl)

/-! ## Words replaced -/

/-- A token that is one of the names gives way to `value`. -/
def renameWord (names : List (List Char)) (value token : List Char) : List Char :=
  if token ∈ names then value else token

/-- Every token that is one of the names gives way to `value`, all of them at once. -/
def renameWords (names : List (List Char)) (value cs : List Char) : List Char :=
  (wordTokens cs).flatMap (renameWord names value)

section Rename

variable {names more : List (List Char)} {name value cs : List Char}

theorem renameWord_of_not_mem {token : List Char} (h : token ∉ names) :
    renameWord names value token = token :=
  if_neg h

/-- Names that are words leave the other characters alone. -/
theorem renameWord_of_not_word (hnames : ∀ name ∈ names, IsWord name) {c : Char}
    (hc : isWordChar c = false) : renameWord names value [c] = [c] := by
  refine renameWord_of_not_mem fun hmem ↦ ?_
  rw [(hnames _ hmem).chars c List.mem_cons_self] at hc
  cases hc

theorem renameWords_cons_of_not_word (hnames : ∀ name ∈ names, IsWord name) {c : Char}
    (hc : isWordChar c = false) (rest : List Char) :
    renameWords names value (c :: rest) = c :: renameWords names value rest := by
  rw [renameWords, wordTokens_cons_of_not_word hc, List.flatMap_cons, renameWord_of_not_word hnames hc]
  rfl

theorem renameWords_append_of_isWord {word rest : List Char} (hword : IsWord word) (hrest : EndsWord rest) :
    renameWords names value (word ++ rest) = renameWord names value word ++ renameWords names value rest := by
  rw [renameWords, wordTokens_append_of_isWord hword hrest, List.flatMap_cons]
  rfl

@[simp] theorem renameWords_none : renameWords [] value cs = cs := by
  have hkept : renameWord [] value = id := funext fun _ ↦ renameWord_of_not_mem List.not_mem_nil
  rw [renameWords, hkept, List.flatMap_id, wordTokens, List.flatten_splitBy]

theorem IsWord.renameWord {token : List Char} (hvalue : IsWord value) (htoken : IsWord token) :
    IsWord (renameWord names value token) := by
  rw [Text.renameWord]
  split
  · exact hvalue
  · exact htoken

/-- Where no word begins, none begins after the replacement. -/
theorem EndsWord.renameWords (hnames : ∀ name ∈ names, IsWord name) (h : EndsWord cs) :
    EndsWord (renameWords names value cs) := by
  cases cs with
  | nil => exact endsWord_nil
  | cons c rest =>
    have hc := endsWord_cons.mp h
    rw [renameWords_cons_of_not_word hnames hc]
    exact endsWord_cons.mpr hc

/-- A word that stands for words makes or breaks no token beside it. -/
theorem wordTokens_renameWords (hnames : ∀ name ∈ names, IsWord name) (hvalue : IsWord value)
    (cs : List Char) : wordTokens (renameWords names value cs) =
      (wordTokens cs).map (renameWord names value) := by
  induction cs using wordTokens_induction with
  | nil => rfl
  | other c rest hc ih =>
    rw [renameWords_cons_of_not_word hnames hc, wordTokens_cons_of_not_word hc, ih,
      wordTokens_cons_of_not_word hc, List.map_cons, renameWord_of_not_word hnames hc]
  | word word rest hword hrest ih =>
    rw [renameWords_append_of_isWord hword hrest,
      wordTokens_append_of_isWord (hvalue.renameWord hword) (hrest.renameWords hnames), ih,
      wordTokens_append_of_isWord hword hrest, List.map_cons]

/-- One replacement after the other is the replacement of all names at once, as long as the word that is put
in is not looked for afterwards. -/
theorem renameWords_renameWords (hnames : ∀ name ∈ names, IsWord name) (hvalue : IsWord value)
    (hfresh : value ∉ more) (cs : List Char) :
    renameWords more value (renameWords names value cs) = renameWords (names ++ more) value cs := by
  have htoken : ∀ token, renameWord more value (renameWord names value token) =
      renameWord (names ++ more) value token := by
    intro token
    by_cases hmem : token ∈ names
    · rw [renameWord, renameWord, if_pos hmem, if_neg hfresh, renameWord,
        if_pos (List.mem_append_left more hmem)]
    · rw [renameWord_of_not_mem hmem, renameWord, renameWord]
      simp only [List.mem_append, hmem, false_or]
  rw [renameWords, wordTokens_renameWords hnames hvalue, List.flatMap_map]
  simp only [htoken]
  rfl

theorem renameWords_congr (h : ∀ token, token ∈ names ↔ token ∈ more) :
    renameWords names value cs = renameWords more value cs := by
  have htoken : renameWord names value = renameWord more value := by
    funext token
    exact if_congr (h token) rfl rfl
  rw [renameWords, htoken, renameWords]

end Rename

/-! ## Occurrences -/

section Occurrences

variable {name value : List Char}

/-- What stands at the front of a text up to its first other character is told by the text. -/
theorem IsWord.eq_of_append {word rest after : List Char} (hname : IsWord name) (hword : IsWord word)
    (hrest : EndsWord rest) (hafter : EndsWord after) (h : word ++ rest = name ++ after) : word = name := by
  have htake : ∀ {front back : List Char}, IsWord front → EndsWord back →
      (front ++ back).takeWhile isWordChar = front := by
    intro front back hfront hback
    have hnone : back.takeWhile isWordChar = [] := by
      cases back with
      | nil => rfl
      | cons c back =>
        exact List.takeWhile_cons_of_neg (by rw [endsWord_cons.mp hback]; exact Bool.false_ne_true)
    rw [List.takeWhile_append_of_pos hfront.chars, hnone, List.append_nil]
  rw [← htake hword hrest, h, htake hname hafter]

theorem isBoundary_word_iff {before : Option Char} (hbefore : before.any isWordChar = true)
    {cs : List Char} : isBoundary before cs.head? = true ↔ EndsWord cs := by
  rw [isBoundary, hbefore]
  cases cs with
  | nil => simp [endsWord_nil]
  | cons c rest => simp [endsWord_cons]

/-- Behind another character a name stands between boundaries where it is the whole of a word. -/
theorem wordAt_iff (hname : IsWord name) {before : Option Char} (hbefore : before.any isWordChar = false)
    {cs : List Char} : wordAt name before cs = true ↔ ∃ after, cs = name ++ after ∧ EndsWord after := by
  have hlast : (name.getLast?.or before).any isWordChar = true := by
    rw [List.getLast?_eq_some_getLast hname.nonempty]
    exact hname.chars _ (List.getLast_mem hname.nonempty)
  have hfirst : ∀ after, isBoundary before (name ++ after).head? = true := by
    intro after
    obtain ⟨c, more, rfl⟩ := List.exists_cons_of_ne_nil hname.nonempty
    rw [isBoundary, hbefore, List.cons_append, List.head?_cons, Option.any_some,
      hname.chars c List.mem_cons_self]
    rfl
  rw [wordAt, Bool.and_eq_true, Bool.and_eq_true, List.isPrefixOf_iff_prefix, isBoundary_word_iff hlast]
  constructor
  · rintro ⟨⟨⟨after, rfl⟩, -⟩, hafter⟩
    rw [List.drop_left] at hafter
    exact ⟨after, rfl, hafter⟩
  · rintro ⟨after, rfl, hafter⟩
    rw [List.drop_left]
    exact ⟨⟨List.prefix_append name after, hfirst after⟩, hafter⟩

/-- Within a word no name stands between boundaries. -/
theorem wordAt_within {before c : Char} (hbefore : isWordChar before = true) (hc : isWordChar c = true)
    (rest : List Char) : wordAt name (some before) (c :: rest) = false := by
  have hinside : isBoundary (some before) (c :: rest).head? = false := by
    simp [isBoundary, hbefore, hc]
  rw [wordAt, hinside, Bool.and_false, Bool.false_and]

/-! ## Replacing -/

/-- The rest of an occurrence is passed over. -/
theorem replaceWordFrom_skip (passed rest : List Char) (before : Option Char) :
    replaceWordFrom name value before passed.length (passed ++ rest) =
      replaceWordFrom name value (passed.getLast?.or before) 0 rest := by
  induction passed generalizing before with
  | nil => rfl
  | cons c passed ih =>
    rw [List.length_cons, List.cons_append, replaceWordFrom, ih, List.getLast?_cons]
    cases passed.getLast? <;> rfl

/-- Within a word nothing is replaced. -/
theorem replaceWordFrom_within {passed : List Char} (rest : List Char)
    (hpassed : ∀ c ∈ passed, isWordChar c = true) {before : Char} (hbefore : isWordChar before = true) :
    replaceWordFrom name value (some before) 0 (passed ++ rest) =
      passed ++ replaceWordFrom name value (passed.getLast?.or (some before)) 0 rest := by
  induction passed generalizing before with
  | nil => rfl
  | cons c passed ih =>
    obtain ⟨hc, hpassed⟩ := List.forall_mem_cons.mp hpassed
    rw [List.cons_append, replaceWordFrom, wordAt_within hbefore hc, if_neg Bool.false_ne_true, ih hpassed hc,
      List.getLast?_cons]
    cases passed.getLast? <;> rfl

theorem replaceWordFrom_of_not_word (hname : IsWord name) {c : Char} (hc : isWordChar c = false)
    (before : Option Char) (rest : List Char) :
    replaceWordFrom name value before 0 (c :: rest) = c :: replaceWordFrom name value (some c) 0 rest := by
  have hnone : wordAt name before (c :: rest) = false := by
    obtain ⟨first, more, rfl⟩ := List.exists_cons_of_ne_nil hname.nonempty
    have hfirst : (first == c) = false := by
      refine beq_false_of_ne ?_
      rintro rfl
      rw [hname.chars first List.mem_cons_self] at hc
      cases hc
    rw [wordAt, List.isPrefixOf_cons_cons, hfirst]
    rfl
  rw [replaceWordFrom, hnone, if_neg Bool.false_ne_true]

theorem replaceWordFrom_of_isWord (hname : IsWord name) {word rest : List Char} (hword : IsWord word)
    (hrest : EndsWord rest) {before : Option Char} (hbefore : before.any isWordChar = false) :
    replaceWordFrom name value before 0 (word ++ rest) =
      renameWord [name] value word ++ replaceWordFrom name value word.getLast? 0 rest := by
  obtain ⟨c, more, rfl⟩ := List.exists_cons_of_ne_nil hword.nonempty
  obtain ⟨hc, hmore⟩ := List.forall_mem_cons.mp hword.chars
  have hlast : (c :: more).getLast? = more.getLast?.or (some c) := by
    rw [List.getLast?_cons]
    cases more.getLast? <;> rfl
  rw [List.cons_append, replaceWordFrom, hlast]
  by_cases heq : c :: more = name
  · have hat : wordAt name before (c :: (more ++ rest)) = true :=
      (wordAt_iff hname hbefore).mpr ⟨rest, by rw [← heq, List.cons_append], hrest⟩
    subst heq
    rw [if_pos hat, renameWord, if_pos (List.mem_singleton.mpr rfl)]
    simp only [List.length_cons, replaceWordFrom_skip]
  · have hat : wordAt name before (c :: (more ++ rest)) = false := by
      rw [Bool.eq_false_iff]
      intro h
      obtain ⟨after, hsplit, hafter⟩ := (wordAt_iff hname hbefore).mp h
      exact heq (hname.eq_of_append hword hrest hafter hsplit)
    rw [hat, if_neg Bool.false_ne_true, replaceWordFrom_within rest hmore hc,
      renameWord_of_not_mem fun hmem ↦ heq (List.mem_singleton.mp hmem)]
    rfl

/-- Replacing goes through a text token by token, where it does not begin within a word. -/
theorem replaceWordFrom_eq (hname : IsWord name) (cs : List Char) {before : Option Char}
    (hbefore : before.any isWordChar = true → EndsWord cs) :
    replaceWordFrom name value before 0 cs = renameWords [name] value cs := by
  have hnames := List.forall_mem_singleton.mpr hname
  induction cs using wordTokens_induction generalizing before with
  | nil =>
    obtain ⟨c, more, rfl⟩ := List.exists_cons_of_ne_nil hname.nonempty
    rfl
  | other c rest hc ih =>
    have hrest : (some c).any isWordChar = true → EndsWord rest :=
      fun h ↦ absurd (hc ▸ h) Bool.false_ne_true
    rw [replaceWordFrom_of_not_word hname hc, ih hrest, renameWords_cons_of_not_word hnames hc]
  | word word rest hword hrest ih =>
    have hopen : before.any isWordChar = false := by
      obtain ⟨c, more, rfl⟩ := List.exists_cons_of_ne_nil hword.nonempty
      rw [Bool.eq_false_iff]
      intro h
      rw [List.cons_append, endsWord_cons, hword.chars c List.mem_cons_self] at hbefore
      cases hbefore h
    rw [replaceWordFrom_of_isWord hname hword hrest hopen, ih fun _ ↦ hrest,
      renameWords_append_of_isWord hword hrest]

/-- A word is replaced where it is a token. -/
theorem replaceWord_eq_renameWords (hname : IsWord name) (cs : List Char) :
    replaceWord name value cs = renameWords [name] value cs :=
  replaceWordFrom_eq hname cs fun h ↦ nomatch h

end Occurrences

end SourceGen.Text
