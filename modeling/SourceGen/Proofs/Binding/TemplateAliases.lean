import SourceGen.Binding.Types
import SourceGen.Proofs.Text.WordTokens

/-!
# One alias for the template parameters

The parameters of a template are looked for one after the other, and each time in what the others have left.
As long as the alias is a word and no parameter bears its name, this is the replacement of all their names
at once: no alias that was put in is part of a longer word or stands for another parameter.
-/

namespace SourceGen.Binding

open Spec Text

/-- Every word of a text that is one of the names gives way to `value`, all of them at once. -/
def substituteWords (names : List String) (value text : String) : String :=
  String.ofList (renameWords (names.map String.toList) value.toList text.toList)

/-- A word that is not looked for itself is left alone where it was put in. -/
theorem substituteWords_substituteWords {names : List String} {value : String}
    (hnames : ∀ name ∈ names, IsWord name.toList) (hvalue : IsWord value.toList) (hfresh : value ∉ names)
    (text : String) :
    substituteWords names value (substituteWords names value text) = substituteWords names value text := by
  have hwords : ∀ name ∈ names.map String.toList, IsWord name := List.forall_mem_map.mpr hnames
  have hunlisted : value.toList ∉ names.map String.toList := by
    intro hmem
    obtain ⟨name, hname, heq⟩ := List.mem_map.mp hmem
    exact hfresh (String.toList_inj.mp heq ▸ hname)
  have htwice : ∀ token, token ∈ names.map String.toList ++ names.map String.toList ↔
      token ∈ names.map String.toList := fun token ↦ by rw [List.mem_append, or_self]
  simp only [substituteWords, String.toList_ofList]
  rw [renameWords_renameWords hwords hvalue hunlisted, renameWords_congr htwice]

theorem isWord_of_isIdentifierChars {cs : List Char} (h : isIdentifierChars cs = true) : IsWord cs where
  nonempty := by
    rintro rfl
    cases h
  chars c hc := by
    have hchar := isIdentifierChar_of_mem h hc
    rw [isIdentifierChar] at hchar
    rw [isWordChar, hchar, Bool.true_or]

/-- A replacement without a dollar sign cites nothing. -/
theorem expand_of_not_mem {replacement : List Char} (h : '$' ∉ replacement) (found : List Char) :
    expand found replacement = replacement := by
  rw [expand]
  induction replacement with
  | nil => rfl
  | cons c rest ih =>
    rw [List.mem_cons, not_or] at h
    rw [expandFrom, if_neg (Ne.symm h.1), ih h.2]

section Clean

variable {params : List String} {aliasText : String}

/-- The name of one parameter gives way to the alias. -/
def replaceParameter (aliasText : String) (cs : List Char) (param : String) : List Char :=
  replaceWord (parameterNameChars param.toList)
    (expand (parameterNameChars param.toList) aliasText.toList) cs

theorem cleanTemplates_eq_foldl (params : List String) (aliasText text : String) :
    cleanTemplates params aliasText text =
      String.ofList (params.foldl (replaceParameter aliasText) text.toList) := rfl

/-- One more parameter after some whose names have been replaced is one more name among theirs. -/
theorem replaceParameter_renameWords {param : String} (hparam : IsWord (parameterNameChars param.toList))
    (halias : IsWord aliasText.toList) (hplain : '$' ∉ aliasText.toList)
    (hfresh : parameterNameChars param.toList ≠ aliasText.toList)
    {names : List (List Char)} (hnames : ∀ name ∈ names, IsWord name) (cs : List Char) :
    replaceParameter aliasText (renameWords names aliasText.toList cs) param =
      renameWords (names ++ [parameterNameChars param.toList]) aliasText.toList cs := by
  have hunlisted : aliasText.toList ∉ [parameterNameChars param.toList] :=
    fun hmem ↦ hfresh (List.mem_singleton.mp hmem).symm
  rw [replaceParameter, expand_of_not_mem hplain, replaceWord_eq_renameWords hparam,
    renameWords_renameWords hnames halias hunlisted]

/-- The parameters one after the other are all of their names at once. -/
theorem foldl_replaceParameter (hparams : ∀ param ∈ params, IsWord (parameterNameChars param.toList))
    (halias : IsWord aliasText.toList) (hplain : '$' ∉ aliasText.toList)
    (hfresh : ∀ param ∈ params, parameterNameChars param.toList ≠ aliasText.toList)
    {names : List (List Char)} (hnames : ∀ name ∈ names, IsWord name) (cs : List Char) :
    params.foldl (replaceParameter aliasText) (renameWords names aliasText.toList cs) =
      renameWords (names ++ params.map (parameterNameChars ·.toList)) aliasText.toList cs := by
  induction params generalizing names with
  | nil => rw [List.map_nil, List.append_nil, List.foldl_nil]
  | cons param rest ih =>
    obtain ⟨hparam, hrest⟩ := List.forall_mem_cons.mp hparams
    obtain ⟨hother, hfresh⟩ := List.forall_mem_cons.mp hfresh
    have hnames' := List.forall_mem_append.mpr ⟨hnames, List.forall_mem_singleton.mpr hparam⟩
    rw [List.foldl_cons, replaceParameter_renameWords hparam halias hplain hother hnames,
      ih hrest hfresh hnames', List.append_assoc]
    rfl

theorem cleanTemplates_eq (hparams : ∀ param ∈ params, isIdentifier (parameterName param) = true)
    (halias : isIdentifier aliasText = true) (hfresh : aliasText ∉ params.map parameterName) (text : String) :
    cleanTemplates params aliasText text = substituteWords (params.map parameterName) aliasText text := by
  have hchars : ∀ param, (parameterName param).toList = parameterNameChars param.toList :=
    fun _ ↦ String.toList_ofList
  have hwords : ∀ param ∈ params, IsWord (parameterNameChars param.toList) := by
    intro param hparam
    rw [← hchars]
    exact isWord_of_isIdentifierChars (hparams param hparam)
  have hplain : '$' ∉ aliasText.toList := not_mem_of_isIdentifierChars halias (by decide)
  have hothers : ∀ param ∈ params, parameterNameChars param.toList ≠ aliasText.toList := by
    intro param hparam heq
    rw [← hchars, String.toList_inj] at heq
    exact hfresh (List.mem_map.mpr ⟨param, hparam, heq⟩)
  have hfold := foldl_replaceParameter hwords (isWord_of_isIdentifierChars halias) hplain hothers
    (List.forall_mem_nil _) text.toList
  rw [renameWords_none, List.nil_append] at hfold
  rw [cleanTemplates_eq_foldl, hfold, substituteWords, List.map_map]
  simp only [Function.comp_def, hchars]

/-- Where identifiers are the names of the parameters and another identifier is the alias, every word of a
text that is one of the names gives way to the alias, all at once, and nothing else changes. The order and
the repetition of the parameters have no part in it, and a cleaned text stays as it is. -/
theorem cleanTemplates_substitutes_words
    (hparams : ∀ param ∈ params, isIdentifier (parameterName param) = true)
    (halias : isIdentifier aliasText = true) (hfresh : aliasText ∉ params.map parameterName) (text : String) :
    cleanTemplates params aliasText text = substituteWords (params.map parameterName) aliasText text ∧
      (∀ others : List String,
        (∀ name, name ∈ others.map parameterName ↔ name ∈ params.map parameterName) →
          cleanTemplates others aliasText text = cleanTemplates params aliasText text) ∧
      cleanTemplates params aliasText (cleanTemplates params aliasText text) =
        cleanTemplates params aliasText text := by
  have hclean := cleanTemplates_eq hparams halias hfresh
  refine ⟨hclean text, fun others hothers ↦ ?_, ?_⟩
  · have hidentifiers : ∀ param ∈ others, isIdentifier (parameterName param) = true := by
      intro param hparam
      obtain ⟨same, hsame, hname⟩ := List.mem_map.mp ((hothers _).mp (List.mem_map_of_mem hparam))
      exact hname ▸ hparams same hsame
    have htokens : ∀ token, token ∈ (others.map parameterName).map String.toList ↔
        token ∈ (params.map parameterName).map String.toList := by
      intro token
      simp only [List.mem_map (f := String.toList), hothers]
    rw [cleanTemplates_eq hidentifiers halias (fun hmem ↦ hfresh ((hothers _).mp hmem)), hclean,
      substituteWords, renameWords_congr htokens, substituteWords]
  · have hwords : ∀ name ∈ params.map parameterName, IsWord name.toList :=
      List.forall_mem_map.mpr fun param hparam ↦ isWord_of_isIdentifierChars (hparams param hparam)
    rw [hclean, hclean, substituteWords_substituteWords hwords (isWord_of_isIdentifierChars halias) hfresh]

end Clean

/-- The parameters of a tensor, one of them stated twice. -/
def tensorParameters : List String := ["typename T", "size_t N = 8", "typename T"]

theorem cleanTemplates_substitutes_tensor :
    (∀ param ∈ tensorParameters, isIdentifier (parameterName param) = true) ∧
      isIdentifier "PybindT" = true ∧ "PybindT" ∉ tensorParameters.map parameterName ∧
      cleanTemplates tensorParameters "PybindT" "const Tensor<T, N>& TN" =
        "const Tensor<PybindT, PybindT>& TN" ∧
      cleanTemplates ["size_t N", "T"] "PybindT" "const Tensor<T, N>& TN" =
        "const Tensor<PybindT, PybindT>& TN" ∧
      cleanTemplates tensorParameters "PybindT" "const Tensor<PybindT, PybindT>& TN" =
        "const Tensor<PybindT, PybindT>& TN" := by
  have hparams : ∀ param ∈ tensorParameters, isIdentifier (parameterName param) = true := by
    decide +kernel
  have halias : isIdentifier "PybindT" = true := by decide +kernel
  have hfresh : "PybindT" ∉ tensorParameters.map parameterName := by decide +kernel
  have hnames : ["size_t N", "T"].map parameterName = ["N", "T"] := by decide +kernel
  have hnames' : tensorParameters.map parameterName = ["T", "N", "T"] := by decide +kernel
  have hwords : substituteWords (tensorParameters.map parameterName) "PybindT" "const Tensor<T, N>& TN" =
      "const Tensor<PybindT, PybindT>& TN" := by decide +kernel
  obtain ⟨hclean, horder, hagain⟩ :=
    cleanTemplates_substitutes_words hparams halias hfresh "const Tensor<T, N>& TN"
  have hresult := hclean.trans hwords
  refine ⟨hparams, halias, hfresh, hresult, ?_, ?_⟩
  · exact (horder ["size_t N", "T"] fun name ↦ by rw [hnames, hnames']; grind).trans hresult
  · exact (congrArg (cleanTemplates tensorParameters "PybindT") hresult).symm.trans (hagain.trans hresult)

end SourceGen.Binding
