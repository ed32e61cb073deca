import Mathlib.Data.List.Forall2
import SourceGen.Generation.Run

/-!
# Outcomes

Whether a computation fails, and with what error, is told step by step: a sequence of steps fails with the
error of the first step that fails. Where a later step fails alike whatever the earlier ones gave, no
value has to be followed through the sequence. The notes of a run have no part in its outcome.
-/

namespace SourceGen

variable {ε α β : Type}

theorem map_eq_ok {outcome : Except ε α} {f : α → β} {b : β} :
    f <$> outcome = .ok b ↔ ∃ a, outcome = .ok a ∧ f a = b := by
  cases outcome <;> simp [Functor.map, Except.map]

theorem map_eq_error {outcome : Except ε α} {f : α → β} {error : ε} :
    f <$> outcome = .error error ↔ outcome = .error error := by
  cases outcome <;> simp [Functor.map, Except.map]

theorem bind_eq_ok {outcome : Except ε α} {next : α → Except ε β} {b : β} :
    outcome >>= next = .ok b ↔ ∃ a, outcome = .ok a ∧ next a = .ok b := by
  cases outcome <;> simp [bind, Except.bind]

theorem mapError_eq_ok {ε' : Type} {outcome : Except ε α} {f : ε → ε'} {a : α} :
    outcome.mapError f = .ok a ↔ outcome = .ok a := by
  cases outcome <;> constructor <;> intro h <;> cases h <;> rfl

@[simp] theorem ok_bind (a : α) (next : α → Except ε β) : (.ok a : Except ε α) >>= next = next a := rfl

/-- What a sequence of steps gives was given by one of them. -/
theorem exists_of_mem_mapM {f : α → Except ε β} {items : List α} {results : List β}
    (h : items.mapM f = .ok results) {result : β} (hresult : result ∈ results) :
    ∃ item ∈ items, f item = .ok result := by
  induction items generalizing results with
  | nil =>
    cases h
    cases hresult
  | cons item rest ih =>
    rw [List.mapM_cons] at h
    obtain ⟨first, hfirst, hnext⟩ := bind_eq_ok.mp h
    obtain ⟨later, hlater, hdone⟩ := bind_eq_ok.mp hnext
    cases hdone
    rcases List.mem_cons.mp hresult with rfl | hmem
    · exact ⟨item, List.mem_cons_self, hfirst⟩
    · obtain ⟨other, hother, hgiven⟩ := ih hlater hmem
      exact ⟨other, List.mem_cons_of_mem item hother, hgiven⟩

/-- A sequence of steps gives as many results as there are steps, each by its own step. -/
theorem forall₂_of_mapM {f : α → Except ε β} {items : List α} {results : List β}
    (h : items.mapM f = .ok results) :
    List.Forall₂ (fun item result ↦ f item = .ok result) items results := by
  induction items generalizing results with
  | nil =>
    cases h
    exact .nil
  | cons item rest ih =>
    rw [List.mapM_cons] at h
    obtain ⟨first, hfirst, hnext⟩ := bind_eq_ok.mp h
    obtain ⟨later, hlater, hdone⟩ := bind_eq_ok.mp hnext
    cases hdone
    exact .cons hfirst (ih hlater)

theorem mapM_eq_ok_iff_forall₂ {f : α → Except ε β} {items : List α} {results : List β} :
    items.mapM f = .ok results ↔ List.Forall₂ (fun item result ↦ f item = .ok result) items results := by
  constructor
  · exact forall₂_of_mapM
  · intro h
    induction h with
    | nil => rfl
    | cons hfirst _ ih =>
      rw [List.mapM_cons, hfirst, ih]
      rfl

theorem mapM_eq_ok {f : α → Except ε β} {g : α → β} {items : List α}
    (h : ∀ item ∈ items, f item = .ok (g item)) : items.mapM f = .ok (items.map g) := by
  induction items with
  | nil => rfl
  | cons item rest ih =>
    obtain ⟨hitem, hrest⟩ := List.forall_mem_cons.mp h
    rw [List.mapM_cons, hitem, ih hrest]
    rfl

/-! ## Failures -/

/-- The error that a computation fails with. -/
def failure? : Except ε α → Option ε
  | .ok _ => none
  | .error error => some error

@[simp] theorem failure?_ok (a : α) : failure? (.ok a : Except ε α) = none := rfl

@[simp] theorem failure?_error (error : ε) : failure? (.error error : Except ε α) = some error := rfl

theorem failure?_eq_none_iff {outcome : Except ε α} :
    failure? outcome = none ↔ ∃ a, outcome = .ok a := by
  cases outcome <;> simp

theorem failure?_eq_some_iff {outcome : Except ε α} {error : ε} :
    failure? outcome = some error ↔ outcome = .error error := by
  cases outcome <;> simp

@[simp] theorem failure?_map (f : α → β) (outcome : Except ε α) :
    failure? (f <$> outcome) = failure? outcome := by
  cases outcome <;> rfl

/-- A sequence fails like its first step, and otherwise like the second, which may fail in one way only. -/
theorem failure?_bind {outcome : Except ε α} {next : α → Except ε β} {later : Option ε}
    (h : ∀ a, outcome = .ok a → failure? (next a) = later) :
    failure? (outcome >>= next) = (failure? outcome).or later := by
  cases outcome with
  | ok a => exact h a rfl
  | error error => rfl

theorem failure?_mapM (f : α → Except ε β) (items : List α) :
    failure? (items.mapM f) = items.findSome? fun item ↦ failure? (f item) := by
  induction items with
  | nil => rfl
  | cons item rest ih =>
    rw [List.mapM_cons, List.findSome?_cons]
    cases hitem : f item with
    | error error => rfl
    | ok b => rw [failure?_ok, ← ih]; cases rest.mapM f <;> rfl

/-- Whether the first failure of a list of steps is of some kind, told by the step it comes from. -/
theorem exists_findSome?_iff {f : α → Option β} {kind : β → Prop} {items : List α} :
    (∃ b, items.findSome? f = some b ∧ kind b) ↔
      ∃ before item after, items = before ++ item :: after ∧ (∀ earlier ∈ before, f earlier = none) ∧
        ∃ b, f item = some b ∧ kind b := by
  constructor
  · rintro ⟨b, hfirst, hkind⟩
    obtain ⟨before, item, after, hitems, hitem, hbefore⟩ := List.findSome?_eq_some_iff.mp hfirst
    exact ⟨before, item, after, hitems, hbefore, b, hitem, hkind⟩
  · rintro ⟨before, item, after, hitems, hbefore, b, hitem, hkind⟩
    exact ⟨b, List.findSome?_eq_some_iff.mpr ⟨before, item, after, hitems, hitem, hbefore⟩, hkind⟩

/-- No error but those of one kind comes out of a computation. -/
def FailsOnly (kind : ε → Prop) (outcome : Except ε α) : Prop :=
  ∀ error, failure? outcome = some error → kind error

namespace FailsOnly

variable {kind : ε → Prop} {outcome : Except ε α}

theorem ok (a : α) : FailsOnly kind (.ok a : Except ε α) := fun _ h ↦ nomatch h

theorem error {error : ε} (h : kind error) : FailsOnly kind (.error error : Except ε α) := by
  rintro _ ⟨⟩
  exact h

theorem map (h : FailsOnly kind outcome) (f : α → β) : FailsOnly kind (f <$> outcome) := by
  intro error herror
  rw [failure?_map] at herror
  exact h error herror

theorem bind {next : α → Except ε β} (h : FailsOnly kind outcome)
    (hnext : ∀ a, FailsOnly kind (next a)) : FailsOnly kind (outcome >>= next) := by
  cases outcome with
  | ok a => exact hnext a
  | error error =>
    rintro _ ⟨⟩
    exact h error rfl

theorem mapM {f : α → Except ε β} {items : List α} (h : ∀ item ∈ items, FailsOnly kind (f item)) :
    FailsOnly kind (items.mapM f) := by
  intro error herror
  rw [failure?_mapM] at herror
  obtain ⟨item, hitem, hfails⟩ := List.exists_of_findSome?_eq_some herror
  exact h item hitem error hfails

end FailsOnly

/-! ## Runs -/

namespace Run

@[simp] theorem result_pure (a : α) : (pure a : Run α).result = .ok a := rfl

@[simp] theorem result_ofExcept (outcome : Except GenError α) : (ofExcept outcome).result = outcome := rfl

@[simp] theorem result_bind (run : Run α) (next : α → Run β) :
    (run >>= next).result = run.result >>= fun a ↦ (next a).result := by
  change (run.andThen next).result = _
  rw [andThen]
  cases run.result <;> rfl

end Run

/-! ## Kinds of errors -/

namespace GenError

/-- An error that blames the specification. -/
def IsMalformedSpec (error : GenError) : Prop :=
  ∃ key reason, error = .malformedSpec key reason

/-- An error that blames requirements that lead back to their class. -/
def IsCircular (error : GenError) : Prop :=
  ∃ requirement dependent, error = .circular requirement dependent

theorem IsMalformedSpec.not_isCircular {error : GenError} (h : error.IsMalformedSpec) :
    ¬ error.IsCircular := by
  obtain ⟨key, reason, rfl⟩ := h
  rintro ⟨requirement, dependent, heq⟩
  cases heq

end GenError

end SourceGen
