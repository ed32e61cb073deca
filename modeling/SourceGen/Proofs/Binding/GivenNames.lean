import Mathlib.Data.List.Induction
import Mathlib.Data.List.Nodup
import SourceGen.Binding.Names

/-!
# Names that are given out

A name is spelled by what was asked for and by how often it was asked for before in its scope, so nothing
that is asked for in another scope has a part in it. Two different requests are spelled alike exactly where
one asks for a name that repetitions of another have reached: the decimal digits behind a name may be begun
by the digits that belong to a longer name, but then that longer name was reached earlier.
-/

namespace SourceGen.Binding

/-! ## Occurrences -/

section Occurrences

variable {α : Type} [BEq α]

/-- The items of a list, each with the number of times that it stood before. -/
def occurrences (before : List α) : List α → List (α × Nat)
  | [] => []
  | item :: rest => (item, before.count item) :: occurrences (before ++ [item]) rest

theorem map_fst_occurrences (before items : List α) :
    (occurrences before items).map Prod.fst = items := by
  induction items generalizing before with
  | nil => rfl
  | cons item rest ih => rw [occurrences, List.map_cons, ih]

/-- An item stands where it stood, with the number of those before. -/
theorem getElem?_occurrences (before front back : List α) (item : α) :
    (occurrences before (front ++ item :: back))[front.length]? =
      some (item, (before ++ front).count item) := by
  induction front generalizing before with
  | nil => rw [List.append_nil]; rfl
  | cons first rest ih =>
    rw [List.cons_append, occurrences, List.length_cons, List.getElem?_cons_succ, ih, List.append_assoc]
    rfl

variable [LawfulBEq α]

/-- The occurrences of an item are numbered on from those before. -/
theorem mem_occurrences {before items : List α} {item : α} {number : Nat} :
    (item, number) ∈ occurrences before items ↔
      before.count item ≤ number ∧ number < before.count item + items.count item := by
  induction items generalizing before with
  | nil =>
    simp only [occurrences, List.not_mem_nil, List.count_nil, false_iff]
    omega
  | cons first rest ih =>
    rw [occurrences, List.mem_cons, ih, List.count_append, Prod.mk.injEq]
    by_cases hfirst : first = item
    · subst hfirst
      simp only [List.count_cons_self, List.count_nil, true_and]
      omega
    · simp only [List.count_cons_of_ne hfirst, List.count_nil, Ne.symm hfirst, false_and, false_or]
      omega

theorem nodup_occurrences (before items : List α) : (occurrences before items).Nodup := by
  induction items generalizing before with
  | nil => exact List.nodup_nil
  | cons item rest ih =>
    refine List.nodup_cons.mpr ⟨fun hmem ↦ ?_, ih _⟩
    have hbound := (mem_occurrences.mp hmem).1
    rw [List.count_append, List.count_singleton_self] at hbound
    omega

/-- Leaving out other items does not change how often an item stood before. -/
theorem occurrences_filter (p : α → Bool) (before items : List α) :
    occurrences (before.filter p) (items.filter p) =
      (occurrences before items).filter fun occurrence ↦ p occurrence.1 := by
  induction items generalizing before with
  | nil => rfl
  | cons item rest ih =>
    have hrest := ih (before ++ [item])
    cases hitem : p item with
    | false =>
      rw [List.filter_append, List.filter_cons_of_neg (by simp [hitem]), List.filter_nil,
        List.append_nil] at hrest
      rw [occurrences, List.filter_cons_of_neg (by simp [hitem]), hrest,
        List.filter_cons_of_neg (by simp [hitem])]
    | true =>
      rw [List.filter_append, List.filter_cons_of_pos hitem, List.filter_nil] at hrest
      rw [List.filter_cons_of_pos hitem, occurrences, occurrences, List.count_filter hitem, hrest,
        List.filter_cons_of_pos (by simpa using hitem)]

end Occurrences

/-! ## Decimal numerals -/

/-- What a numeral begins with is the numeral of a smaller number. -/
theorem exists_lt_of_toDigits_eq_append {n : Nat} {front back : List Char} (hfront : front ≠ [])
    (hback : back ≠ []) (h : Nat.toDigits 10 n = front ++ back) :
    ∃ m < n, front = Nat.toDigits 10 m := by
  induction back using List.reverseRecOn generalizing n with
  | nil => exact absurd rfl hback
  | append_singleton middle last ih =>
    have hten : 10 ≤ n := by
      by_contra hlt
      rw [Nat.toDigits_of_lt_base (Nat.lt_of_not_le hlt)] at h
      have hlength := congrArg List.length h
      have hpos := List.length_pos_of_ne_nil hfront
      simp only [List.length_append, List.length_singleton] at hlength
      omega
    rw [Nat.toDigits_of_base_le (by decide) hten, ← List.append_assoc] at h
    obtain ⟨hdigits, -⟩ := List.append_inj' h rfl
    have hless : n / 10 < n := by omega
    by_cases hmiddle : middle = []
    · exact ⟨n / 10, hless, by rw [hdigits, hmiddle, List.append_nil]⟩
    · obtain ⟨m, hm, heq⟩ := ih hmiddle hdigits
      exact ⟨m, Nat.lt_trans hm hless, heq⟩

/-! ## Spelling -/

/-- How the occurrence of a name with a given number is spelled. -/
def spelled (name : String) : Nat → String
  | 0 => name
  | again + 1 => name ++ toString again

/-- Where two numbered names are spelled alike and the first is the shorter, the second is one of the names
that the first has been given before. -/
theorem exists_lt_of_spelled_eq {name other : String} {again again' : Nat} {digits : List Char}
    (hother : other.toList = name.toList ++ digits) (hne : name ≠ other)
    (h : Nat.toDigits 10 again = digits ++ Nat.toDigits 10 again') :
    ∃ earlier < again, other = name ++ toString earlier := by
  have hdigits : digits ≠ [] := by
    rintro rfl
    rw [List.append_nil] at hother
    exact hne (String.toList_inj.mp hother.symm)
  obtain ⟨earlier, hless, heq⟩ := exists_lt_of_toDigits_eq_append hdigits Nat.toDigits_ne_nil h
  refine ⟨earlier, hless, String.toList_inj.mp ?_⟩
  rw [hother, heq, String.toList_append, Nat.toString_eq_repr, Nat.toList_repr]

/-- Two occurrences are spelled alike only if one of the names was given out for the other. -/
theorem spelled_inj {name other : String} {number number' : Nat}
    (hname : ∀ again, again < number → name ++ toString again ≠ other)
    (hother : ∀ again, again < number' → other ++ toString again ≠ name)
    (h : spelled name number = spelled other number') : name = other ∧ number = number' := by
  cases number with
  | zero =>
    cases number' with
    | zero => exact ⟨h, rfl⟩
    | succ again' => exact absurd h.symm (hother again' (Nat.lt_succ_self again'))
  | succ again =>
    cases number' with
    | zero => exact absurd h (hname again (Nat.lt_succ_self again))
    | succ again' =>
      have hchars : name.toList ++ Nat.toDigits 10 again = other.toList ++ Nat.toDigits 10 again' := by
        simpa [spelled] using congrArg String.toList h
      by_cases hsame : name = other
      · subst hsame
        have hdigits := congrArg (Nat.ofDigitChars 10 · 0) (List.append_cancel_left hchars)
        simp only [Nat.ofDigitChars_ten_toDigits] at hdigits
        exact ⟨rfl, congrArg _ hdigits⟩
      · -- One name is the longer, and what it has more are the first digits of the other's number.
        rcases List.append_eq_append_iff.mp hchars with ⟨digits, hlonger, hsplit⟩ | ⟨digits, hlonger, hsplit⟩
        · obtain ⟨earlier, hless, heq⟩ := exists_lt_of_spelled_eq hlonger hsame hsplit
          exact absurd heq.symm (hname earlier (Nat.lt_succ_of_lt hless))
        · obtain ⟨earlier, hless, heq⟩ := exists_lt_of_spelled_eq hlonger (Ne.symm hsame) hsplit
          exact absurd heq.symm (hother earlier (Nat.lt_succ_of_lt hless))

/-! ## Names by scope -/

theorem nameFor_eq_spelled (used : UsedNames) (scope name : String) :
    used.nameFor scope name = spelled name (used.count (scope, name)) := by
  rw [UsedNames.nameFor]
  cases used.count (scope, name) <;> rfl

theorem assignAll_eq_map_spelled (used : UsedNames) (requests : List (String × String)) :
    used.assignAll requests =
      (occurrences used requests).map fun occurrence ↦ spelled occurrence.1.2 occurrence.2 := by
  induction requests generalizing used with
  | nil => rfl
  | cons request rest ih =>
    calc
      _ = used.nameFor request.1 request.2 :: (used ++ [request]).assignAll rest := rfl
      _ = _ := by rw [nameFor_eq_spelled, ih, occurrences, List.map_cons]

/-- The names that are given out for the requests in a scope, in their order. -/
def givenIn (scope : String) (requests : List (String × String)) : List String :=
  ((requests.zip (UsedNames.assignAll [] requests)).filter fun given ↦ given.1.1 = scope).map Prod.snd

/-- The requests of a scope, each with the number of times that it was made before. -/
def requestsIn (scope : String) (requests : List (String × String)) :
    List ((String × String) × Nat) :=
  (occurrences [] requests).filter fun occurrence ↦ occurrence.1.1 = scope

theorem givenIn_eq_map_spelled (scope : String) (requests : List (String × String)) :
    givenIn scope requests =
      (requestsIn scope requests).map fun occurrence ↦ spelled occurrence.1.2 occurrence.2 := by
  have hzip : requests.zip (UsedNames.assignAll [] requests) = (occurrences [] requests).map
      fun occurrence ↦ (occurrence.1, spelled occurrence.1.2 occurrence.2) := by
    calc
      _ = ((occurrences [] requests).map Prod.fst).zip ((occurrences [] requests).map
          fun occurrence ↦ spelled occurrence.1.2 occurrence.2) := by
        rw [map_fst_occurrences, assignAll_eq_map_spelled]
      _ = _ := List.zip_map' ..
  rw [givenIn, hzip, List.filter_map, List.map_map]
  rfl

theorem mem_requestsIn {scope other name : String} {requests : List (String × String)} {number : Nat} :
    ((other, name), number) ∈ requestsIn scope requests ↔
      other = scope ∧ number < requests.count (other, name) := by
  rw [requestsIn, List.mem_filter, mem_occurrences, List.count_nil, Nat.zero_add, decide_eq_true_iff]
  exact ⟨fun h ↦ ⟨h.2, h.1.2⟩, fun h ↦ ⟨⟨Nat.zero_le _, h.2⟩, h.1⟩⟩

/-- What is asked for in other scopes has no part in the names of a scope. -/
theorem givenIn_filter (scope : String) (requests : List (String × String)) :
    givenIn scope (requests.filter fun request ↦ request.1 = scope) = givenIn scope requests := by
  have hrequests : requestsIn scope (requests.filter fun request ↦ request.1 = scope) =
      requestsIn scope requests := by
    have hfilter := occurrences_filter (fun request ↦ decide (request.1 = scope)) [] requests
    rw [List.filter_nil] at hfilter
    rw [requestsIn, hfilter, List.filter_filter, requestsIn]
    simp only [Bool.and_self]
  rw [givenIn_eq_map_spelled, hrequests, ← givenIn_eq_map_spelled]

/-- The first request for a name is given the bare name. -/
theorem getElem?_assignAll_of_not_mem {scope name : String} {before : List (String × String)}
    (hfirst : (scope, name) ∉ before) (after : List (String × String)) :
    (UsedNames.assignAll [] (before ++ (scope, name) :: after))[before.length]? = some name := by
  rw [assignAll_eq_map_spelled, List.getElem?_map, getElem?_occurrences, List.nil_append,
    List.count_eq_zero.mpr hfirst]
  rfl

/-- The names of a scope are told apart exactly where no name is asked for that repetitions of another
name have reached. -/
theorem nodup_givenIn_iff {scope : String} {requests : List (String × String)} :
    (givenIn scope requests).Nodup ↔ ∀ name again, again + 2 ≤ requests.count (scope, name) →
      (scope, name ++ toString again) ∉ requests := by
  have hnodup : (requestsIn scope requests).Nodup := (nodup_occurrences [] requests).filter _
  rw [givenIn_eq_map_spelled, List.nodup_map_iff_inj_on hnodup]
  constructor
  · intro hinj name again hcount hmem
    have hlater : ((scope, name), again + 1) ∈ requestsIn scope requests :=
      mem_requestsIn.mpr ⟨rfl, by omega⟩
    have hbare : ((scope, name ++ toString again), 0) ∈ requestsIn scope requests :=
      mem_requestsIn.mpr ⟨rfl, List.count_pos_iff.mpr hmem⟩
    have hsame := hinj _ hlater _ hbare rfl
    exact absurd (congrArg Prod.snd hsame) (Nat.succ_ne_zero again)
  · rintro hfresh ⟨⟨first, name⟩, number⟩ hmem ⟨⟨second, other⟩, number'⟩ hmem' heq
    obtain ⟨rfl, hnumber⟩ := mem_requestsIn.mp hmem
    obtain ⟨rfl, hnumber'⟩ := mem_requestsIn.mp hmem'
    have hasked : ∀ asked number, number < requests.count (second, asked) → (second, asked) ∈ requests :=
      fun _ _ hless ↦ List.count_pos_iff.mp (Nat.zero_lt_of_lt hless)
    have hreached : ∀ again, again < number → name ++ toString again ≠ other := by
      rintro again hless rfl
      exact hfresh name again (by omega) (hasked _ _ hnumber')
    have hreached' : ∀ again, again < number' → other ++ toString again ≠ name := by
      rintro again hless rfl
      exact hfresh other again (by omega) (hasked _ _ hnumber)
    obtain ⟨rfl, rfl⟩ := spelled_inj hreached hreached' heq
    rfl

/-- In a scope a name is given bare the first time, whatever is asked for in other scopes has no part in the
names, and these are told apart exactly where no repetition of a name reaches another that is asked for. -/
theorem given_names_distinct_iff (requests : List (String × String)) (scope : String) :
    givenIn scope (requests.filter fun request ↦ request.1 = scope) = givenIn scope requests ∧
      (∀ before name after, requests = before ++ (scope, name) :: after → (scope, name) ∉ before →
        (UsedNames.assignAll [] requests)[before.length]? = some name) ∧
        ((givenIn scope requests).Nodup ↔ ∀ name again, again + 2 ≤ requests.count (scope, name) →
          (scope, name ++ toString again) ∉ requests) := by
  refine ⟨givenIn_filter scope requests, ?_, nodup_givenIn_iff⟩
  rintro before name after rfl hfirst
  exact getElem?_assignAll_of_not_mem hfirst after

/-- A name asked for twice, and one that is spelled like its repetition. -/
def repeatedRequests : List (String × String) :=
  [("m", "f"), ("m", "f"), ("m", "f0")]

theorem given_names_distinct_iff_repeated :
    (∃ before name after, repeatedRequests = before ++ ("m", name) :: after ∧ ("m", name) ∉ before ∧
        (UsedNames.assignAll [] repeatedRequests)[before.length]? = some name) ∧
      ((givenIn "m" repeatedRequests).Nodup ↔ ∀ name again, again + 2 ≤ repeatedRequests.count ("m", name) →
        ("m", name ++ toString again) ∉ repeatedRequests) := by
  obtain ⟨-, hfirst, hdistinct⟩ := given_names_distinct_iff repeatedRequests "m"
  have hfresh : (("m", "f0") : String × String) ∉ [("m", "f"), ("m", "f")] := by decide
  exact ⟨⟨_, _, [], rfl, hfresh, hfirst _ _ [] rfl hfresh⟩, hdistinct⟩

/-- The repetition and the other name are given one name. -/
theorem repeated_name_given_twice :
    UsedNames.assignAll [] repeatedRequests = ["f", "f0", "f0"] ∧
      ¬ (givenIn "m" repeatedRequests).Nodup := by
  decide +kernel

end SourceGen.Binding
