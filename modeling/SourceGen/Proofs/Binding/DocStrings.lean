import SourceGen.Proofs.Binding.Grouping
import SourceGen.Proofs.Spec.Sites
import SourceGen.Proofs.Text.Joining
import SourceGen.Validation.Rules

/-!
# Documentation strings

What is told of a bound function is the last argument of its definition: the lines of a description, each in
a literal of its own. A reader of such literals gets the lines back, unless a line holds a carriage return,
which ends a line of the source. Of a blank description there is no line, and then there is no argument.
-/

namespace SourceGen.Binding

open Spec Text Validation

/-! ## Reading literals -/

/-- What a character stands for behind a backslash. -/
def escaped? : Char → Option Char
  | '\\' => some '\\'
  | '"' => some '"'
  | '\'' => some '\''
  | '?' => some '?'
  | 'a' => some '\x07'
  | 'b' => some '\x08'
  | 'f' => some '\x0c'
  | 'n' => some '\n'
  | 'r' => some '\r'
  | 't' => some '\t'
  | 'v' => some '\x0b'
  | _ => none

/-- Where a reader of literals is: between two of them, or within one of which it has read something, and
then maybe behind a backslash. -/
inductive LiteralPlace where
  | between
  | within (read : List Char)
  | behind (read : List Char)

/-- What may stand between two literals. -/
def isGap (c : Char) : Bool :=
  c == ' ' || c == '\t' || c == '\n' || c == '\r'

/-- A literal ends in the line on which it begins. -/
def breaksLine (c : Char) : Bool :=
  c == '\n' || c == '\r'

/-- The values of a sequence of literals, if it is one. -/
def readLiterals : LiteralPlace → List Char → Option (List (List Char))
  | .between, [] => some []
  | .within _, [] => none
  | .behind _, [] => none
  | .between, c :: rest =>
    if c == '"' then readLiterals (.within []) rest
    else if isGap c then readLiterals .between rest
    else none
  | .within read, c :: rest =>
    if c == '"' then (readLiterals .between rest).map (read :: ·)
    else if c == '\\' then readLiterals (.behind read) rest
    else if breaksLine c then none
    else readLiterals (.within (read ++ [c])) rest
  | .behind read, c :: rest =>
    (escaped? c).bind fun value ↦ readLiterals (.within (read ++ [value])) rest

def literalValues (text : String) : Option (List String) :=
  (readLiterals .between text.toList).map (·.map String.ofList)

/-- A line that a literal can hold as it is. -/
def IsUnbroken (line : List Char) : Prop :=
  ∀ c ∈ line, breaksLine c = false

instance {line : List Char} : Decidable (IsUnbroken line) :=
  inferInstanceAs (Decidable (∀ c ∈ line, _))

/-- A character in a literal is read as itself, where it does not break the line. -/
theorem readLiterals_literalChar {c : Char} (read rest : List Char) :
    readLiterals (.within read) (literalChar c ++ rest) =
      if breaksLine c then none else readLiterals (.within (read ++ [c])) rest := by
  unfold literalChar
  split
  · next hslash =>
    subst hslash
    rfl
  · next hslash =>
    split
    · next hquote =>
      subst hquote
      rfl
    · next hquote =>
      rw [List.singleton_append, readLiterals, if_neg (by simpa using hquote), if_neg (by simpa using hslash)]

/-- The characters of a literal are read back up to its end, unless one of them breaks the line. -/
theorem readLiterals_flatMap (line read rest : List Char) :
    readLiterals (.within read) (line.flatMap literalChar ++ '"' :: rest) =
      if IsUnbroken line then (readLiterals .between rest).map ((read ++ line) :: ·) else none := by
  induction line generalizing read with
  | nil =>
    have hunbroken : IsUnbroken [] := List.forall_mem_nil _
    rw [if_pos hunbroken, List.append_nil]
    rfl
  | cons c more ih =>
    have hsplit : IsUnbroken (c :: more) ↔ breaksLine c = false ∧ IsUnbroken more := List.forall_mem_cons
    rw [List.flatMap_cons, List.append_assoc, readLiterals_literalChar, ih, List.append_assoc]
    cases hbreaks : breaksLine c with
    | true => simp [hsplit, hbreaks]
    | false => simp [hsplit, hbreaks]

theorem readLiterals_literal (line : String) (rest : List Char) :
    readLiterals .between ((literal line).toList ++ rest) =
      if IsUnbroken line.toList then (readLiterals .between rest).map (line.toList :: ·) else none := by
  have htext : (literal line).toList ++ rest = '"' :: (line.toList.flatMap literalChar ++ '"' :: rest) := by
    simp [literal, substituteChars]
  rw [htext]
  exact readLiterals_flatMap line.toList [] rest

/-- Lines are read back from their literals, which stand on lines of their own. -/
theorem readLiterals_join (texts : List String) :
    readLiterals .between (join "\n" (texts.map literal)).toList =
      if ∀ text ∈ texts, IsUnbroken text.toList then some (texts.map String.toList) else none := by
  induction texts with
  | nil => rfl
  | cons first rest ih =>
    have hchars : (join "\n" ((first :: rest).map literal)).toList = (literal first).toList ++
        if rest = [] then [] else '\n' :: (join "\n" (rest.map literal)).toList := by
      cases rest with
      | nil => simp
      | cons next more =>
        rw [List.map_cons, List.map_cons, join_cons_cons, String.toList_append, String.toList_append]
        rfl
    have hnext : readLiterals .between
        (if rest = [] then [] else '\n' :: (join "\n" (rest.map literal)).toList) =
          readLiterals .between (join "\n" (rest.map literal)).toList := by
      split
      · next hnil =>
        rw [hnil]
        rfl
      · rfl
    rw [hchars, readLiterals_literal, hnext, ih]
    by_cases hfirst : IsUnbroken first.toList
    · simp [hfirst, apply_ite]
    · simp [hfirst]

theorem literalValues_join (texts : List String) : literalValues (join "\n" (texts.map literal)) =
    if ∀ text ∈ texts, IsUnbroken text.toList then some texts else none := by
  rw [literalValues, readLiterals_join]
  split
  · simp [Function.comp_def]
  · rfl

/-! ## Descriptions -/

theorem isUnbroken_line_iff {text line : String} (h : line ∈ lines text) :
    IsUnbroken line.toList ↔ '\r' ∉ line.toList := by
  have hnewline := newline_not_mem_of_mem_lines h
  constructor
  · intro hunbroken hreturn
    exact absurd (hunbroken '\r' hreturn) (by decide)
  · intro hreturn c hc
    rw [breaksLine, Bool.or_eq_false_iff]
    exact ⟨beq_false_of_ne (ne_of_mem_of_not_mem hc hnewline),
      beq_false_of_ne (ne_of_mem_of_not_mem hc hreturn)⟩

theorem lines_trim_eq_nil_iff {description : String} :
    lines (trim description) = [] ↔ isBlankText description = true := by
  rw [← isEmpty_trim, String.isEmpty_iff]
  constructor
  · intro hnil
    by_contra hne
    exact lines_ne_nil hne hnil
  · intro hempty
    rw [hempty]
    rfl

/-- A sequence of literals, at least one, that reads as the lines of a trimmed description. -/
structure Documents (argument description : String) : Prop where
  present : literalValues argument ≠ some []
  values : literalValues argument = some (lines (trim description))

/-- What stands for a description documents it exactly if the description is not blank and none of its lines
holds a carriage return. -/
theorem documents_docString_iff (description : String) :
    Documents (docString description) description ↔
      isBlankText description = false ∧ ∀ line ∈ lines (trim description), '\r' ∉ line.toList := by
  have hunbroken : (∀ line ∈ lines (trim description), IsUnbroken line.toList) ↔
      ∀ line ∈ lines (trim description), '\r' ∉ line.toList :=
    forall₂_congr fun _ hline ↦ isUnbroken_line_iff hline
  have hread : literalValues (docString description) =
      if ∀ line ∈ lines (trim description), IsUnbroken line.toList then some (lines (trim description))
      else none :=
    literalValues_join (lines (trim description))
  rw [← hunbroken, ← Bool.not_eq_true, ← lines_trim_eq_nil_iff]
  constructor
  · intro h
    refine ⟨fun hnil ↦ h.present (h.values.trans (congrArg some hnil)), ?_⟩
    by_contra hbroken
    rw [if_neg hbroken] at hread
    cases hread.symm.trans h.values
  · rintro ⟨hne, hlines⟩
    rw [if_pos hlines] at hread
    exact ⟨fun hnil ↦ hne (Option.some.inj (hread.symm.trans hnil)), hread⟩

theorem docString_eq_empty_iff (description : String) :
    docString description = "" ↔ isBlankText description = true := by
  rw [← lines_trim_eq_nil_iff]
  constructor
  · intro hempty
    rw [List.eq_nil_iff_forall_not_mem]
    intro line hline
    have hwithin : Within (literal line) (docString description) := within_join (List.mem_map_of_mem hline)
    rw [hempty, Within, String.toList_empty, List.infix_nil, String.toList_eq_nil_iff] at hwithin
    have hchars := congrArg String.toList hwithin
    simp [literal] at hchars
  · intro hnil
    rw [docString, hnil]
    rfl

/-! ## Definitions -/

theorem callOf_append_ne_empty (callee : String) (arguments : List String) (rest : String) :
    callOf callee arguments ++ rest ≠ "" := by
  intro hempty
  have hcall : callOf callee arguments = "" := (String.append_eq_empty_iff.mp hempty).1
  exact absurd (String.append_eq_empty_iff.mp hcall).2 (by decide)

/-- Of the arguments of a definition, only the description may be missing. -/
theorem forall_arguments_ne_empty_iff (method : Method) :
    (∀ argument ∈ method.arguments, argument ≠ "") ↔ isBlankText method.description = false := by
  have hname : quoted method.name ≠ "" :=
    fun hempty ↦ absurd (String.append_eq_empty_iff.mp hempty).2 (by decide)
  have hlambda : method.lambda ≠ "" := by
    rw [Method.lambda, String.append_assoc, String.append_assoc]
    exact callOf_append_ne_empty _ _ _
  have hkeywords : ∀ argument ∈ method.keywords.map Keyword.argument, argument ≠ "" := by
    intro argument hargument
    obtain ⟨keyword, -, rfl⟩ := List.mem_map.mp hargument
    exact callOf_append_ne_empty _ _ _
  rw [Method.arguments, List.forall_mem_cons, List.forall_mem_cons, List.forall_mem_append,
    List.forall_mem_singleton, ← Bool.not_eq_true, ← docString_eq_empty_iff]
  exact ⟨fun h ↦ h.2.2.2, fun h ↦ ⟨hname, hlambda, hkeywords, h⟩⟩

/-- A definition is given its arguments between commas, the last of which stands for the description. None of
them is missing exactly if the description is not blank, and the last is a sequence of literals that reads as
the lines of the description exactly if none of these lines holds a carriage return either. -/
theorem definition_documented_iff (receiver : String) (method : Method) :
    (Statement.define receiver method).text = receiver ++ ".def(" ++ join ", " method.arguments ++ ");" ∧
      method.arguments.getLast? = some (docString method.description) ∧
        ((∀ argument ∈ method.arguments, argument ≠ "") ↔ isBlankText method.description = false) ∧
          (Documents (docString method.description) method.description ↔
            isBlankText method.description = false ∧
              ∀ line ∈ lines (trim method.description), '\r' ∉ line.toList) := by
  refine ⟨?_, ?_, forall_arguments_ne_empty_iff method, documents_docString_iff method.description⟩
  · rw [← method.text_eq_join]
    rfl
  · rw [Method.arguments, ← List.cons_append, ← List.cons_append, List.getLast?_concat]

/-- A function of which nothing is told. -/
def untoldApi : Api :=
  { namespaces := .ofEntries [("g", .full
      [{ name := some "f", description := some " ", out := .typed (some "double") "return 1;" }] [])] }

def untoldMethod : Method :=
  { name := "f", params := [], body := .call "g::f" [], keywords := [], description := " " }

def untoldBinder : Binder :=
  { used := [("m_g", "f")], blocks := [[.define "m_g" untoldMethod]] }

def untoldUnit : SourceFile :=
  unitOf untoldApi {} "g" untoldBinder

/-- Validation accepts a function with a blank description, and its definition ends with an argument that is
missing. -/
theorem untold_argument_missing :
    (validate { api := some untoldApi }).ok = true ∧
      (Binding.files untoldApi {}).result = .ok
          [(bindingHeader, { content := headerText untoldApi {} }), (unitFile "g", untoldUnit)] ∧
        IsUnit untoldApi {} "g" untoldUnit untoldApi.namespaces.entries untoldBinder ∧
          .define "m_g" untoldMethod ∈ untoldBinder.statements ∧
            (Statement.define "m_g" untoldMethod).text =
                "m_g.def(\"f\", []() \x7b return g::f(); \x7d, );" ∧
              ¬ Documents (docString " ") " " := by
  have hgroups : (groups untoldApi).entries = [("g", untoldApi.namespaces.entries)] := by decide +kernel
  have hbound : (bindGroup (groupNamed untoldApi {} "g") untoldApi.namespaces.entries).result =
      .ok untoldBinder := by decide +kernel
  have hnone : literalValues (docString " ") = some [] := by decide +kernel
  exact ⟨by decide +kernel, result_files_of_groups_eq hgroups hbound, isUnit_of_groups_eq hgroups hbound,
    by decide, by decide +kernel, fun hdocuments ↦ hdocuments.present hnone⟩

end SourceGen.Binding
