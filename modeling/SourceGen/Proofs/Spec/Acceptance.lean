import SourceGen.Proofs.OrderedMap
import SourceGen.Spec.Schema

/-!
# Accepted values have no violations

A schema can be asked whether it accepts a value, and for all the ways in which the value breaks it. The two
answers agree: nothing is reported exactly of the values that are accepted.
-/

namespace SourceGen.Spec.Schema

theorem kindViolations_eq_nil_iff {kinds : List Kind} {place : List String} {value : Value} :
    kindViolations kinds place value = [] ↔ isOfKind kinds value = true := by
  unfold kindViolations
  split
  · next hkind => simp [hkind]
  · next hkind => simp [hkind]

/-- Where a check does not depend on the place, the items are checked one by one. -/
theorem itemViolations_eq_nil_iff {check : List String → Value → List Violation}
    {accepted : Value → Bool} (hcheck : ∀ place item, check place item = [] ↔ accepted item = true)
    {place : List String} {i : Nat} {items : List Value} :
    itemViolations check place i items = [] ↔ items.all accepted = true := by
  induction items generalizing i with
  | nil => simp [itemViolations]
  | cons item rest ih =>
    rw [itemViolations, List.append_eq_nil_iff, hcheck, ih, List.all_cons, Bool.and_eq_true]

theorem missing_eq_nil_iff {required : List String} {fields : List (String × Value)}
    {place : List String} {value : Value} :
    ((required.filter fun name ↦ (Entries.get? name fields).isNone).map fun name ↦
        (⟨place, value, .missing name⟩ : Violation)) = [] ↔
      required.all (fun name ↦ (Entries.get? name fields).isSome) = true := by
  rw [List.map_eq_nil_iff, List.filter_eq_nil_iff, List.all_eq_true]
  refine forall₂_congr fun name _ ↦ ?_
  cases Entries.get? name fields <;> simp

-- The recursion is that of `violations`; alternatives are not followed up, so they need no case of
-- their own.
mutual

theorem violations_eq_nil_iff : (schema : Schema) → (place : List String) → (value : Value) →
    (schema.violations place value = [] ↔ schema.accepts value = true)
  | .scalar kinds, place, value => by
    rw [violations, accepts]
    exact kindViolations_eq_nil_iff
  | .natural kinds, place, value => by
    rw [violations, accepts, List.append_eq_nil_iff, kindViolations_eq_nil_iff, Bool.and_eq_true]
    cases isBelowZero value <;> simp
  | .list items, place, value => by
    cases value with
    | list values =>
      simp only [violations, accepts]
      apply itemViolations_eq_nil_iff
      intro place item
      exact violations_eq_nil_iff items place item
    | _ =>
      simp only [violations, accepts, kindViolations_eq_nil_iff]
      rfl
  | .table kinds values, place, value => by
    cases value with
    | record fields =>
      simp only [violations, accepts, List.append_eq_nil_iff, kindViolations_eq_nil_iff,
        Bool.and_eq_true, List.flatMap_eq_nil_iff, List.all_eq_true]
      refine and_congr_right fun _ ↦ forall₂_congr fun field _ ↦ ?_
      exact violations_eq_nil_iff values _ field.2
    | _ =>
      simp only [violations, accepts]
      exact kindViolations_eq_nil_iff
  | .record required properties, place, value => by
    cases value with
    | record fields =>
      simp only [violations, accepts]
      rw [List.append_eq_nil_iff, missing_eq_nil_iff, Bool.and_eq_true,
        propertyViolations_eq_nil_iff properties place fields]
    | _ =>
      simp only [violations, accepts, kindViolations_eq_nil_iff]
      rfl
  | .anyOf choices, place, value => by
    rw [violations, accepts]
    cases acceptsAny choices value <;> simp
  | .named _ schema, place, value => by
    rw [violations, accepts]
    exact violations_eq_nil_iff schema place value
  | .noted _ _ schema, place, value => by
    rw [violations, accepts]
    exact violations_eq_nil_iff schema place value

theorem propertyViolations_eq_nil_iff : (properties : List (String × Schema)) →
    (place : List String) → (fields : List (String × Value)) →
    (propertyViolations properties place fields = [] ↔ acceptsProperties properties fields = true)
  | [], _, _ => by simp [propertyViolations, acceptsProperties]
  | (name, schema) :: rest, place, fields => by
    rw [propertyViolations, acceptsProperties, List.append_eq_nil_iff, Bool.and_eq_true,
      propertyViolations_eq_nil_iff rest place fields]
    refine and_congr_left fun _ ↦ ?_
    cases Entries.get? name fields with
    | none => simp
    | some value => exact violations_eq_nil_iff schema (place ++ [name]) value

end

end SourceGen.Spec.Schema
