import SourceGen.Emit.DtypeText
import SourceGen.Proofs.Spec.Emittable
import SourceGen.Proofs.Template.Filling

/-!
# When the dtype files can be made

Scalar types are emitted exactly if there is one and the default among them, where a document names it, is
declared. The templates never stand in the way.
-/

namespace SourceGen.Emit

open Spec Template

/-! ## The unit -/

theorem DtypeUnit.ofDtypes_failsOnly (dtypes : OrderedMap Dtype) (defines : List String)
    (named : Option String) :
    FailsOnly GenError.IsMalformedSpec (DtypeUnit.ofDtypes dtypes defines named) := by
  rw [DtypeUnit.ofDtypes]
  split
  · exact .error ⟨_, _, rfl⟩
  · dsimp only
    split
    · exact .ok _
    · exact .error ⟨_, _, rfl⟩

theorem DtypeUnit.failure?_ofDtypes_eq_none_iff {dtypes : OrderedMap Dtype} {defines : List String}
    {named : Option String} :
    failure? (DtypeUnit.ofDtypes dtypes defines named) = none ↔ DefaultResolves dtypes named := by
  have hkeys : dtypes.keys = [] ↔ dtypes.entries = [] := List.map_eq_nil_iff
  rw [DtypeUnit.ofDtypes]
  cases hdeclared : dtypes.keys with
  | nil =>
    simp only [failure?_error, reduceCtorEq, false_iff]
    exact fun h ↦ h.nonempty (hkeys.mp hdeclared)
  | cons first rest =>
    have hnonempty : dtypes.entries ≠ [] := fun h ↦ by
      rw [hkeys.mpr h] at hdeclared
      cases hdeclared
    have hfirst : first ∈ dtypes.keys := hdeclared ▸ List.mem_cons_self
    have hresolves : DefaultResolves dtypes named ↔ named.getD first ∈ dtypes.keys := by
      refine ⟨fun h ↦ ?_, fun h ↦ ⟨hnonempty, ?_⟩⟩
      · cases named with
        | none => exact hfirst
        | some name => exact h.declared name rfl
      · rintro name rfl
        exact h
    rw [hresolves, ← OrderedMap.contains_iff]
    dsimp only
    split <;> simp_all

theorem DtypeUnit.parts_of_ofDtypes_eq_ok {dtypes : OrderedMap Dtype} {defines : List String}
    {named : Option String} {unit : DtypeUnit} (h : DtypeUnit.ofDtypes dtypes defines named = .ok unit) :
    unit.dtypes = dtypes ∧ unit.defines = defines := by
  rw [DtypeUnit.ofDtypes] at h
  split at h
  · cases h
  · dsimp only at h
    split at h
    · cases h
      exact ⟨rfl, rfl⟩
    · cases h

theorem DtypeUnit.dtypes_of_ofDtypes_eq_ok {dtypes : OrderedMap Dtype} {defines : List String}
    {named : Option String} {unit : DtypeUnit} (h : DtypeUnit.ofDtypes dtypes defines named = .ok unit) :
    unit.dtypes = dtypes :=
  (parts_of_ofDtypes_eq_ok h).1

/-! ## The files -/

theorem dtypeHeaderLines_readWithin (unit : DtypeUnit) (config : Config) :
    ∀ line ∈ dtypeHeaderLines, ReadsWithin (unit.headerValues config).keys line.toList := by
  have hkeys : (unit.headerValues config).keys = ["guard", "namespace", "config_defines",
      "enumeration", "default_dtype", "mapping", "conversions", "fatalf", "apply_everytype", "cases",
      "fatal"] := rfl
  simp only [hkeys, dtypeHeaderLines]
  repeat refine .forall_cons (by decide +kernel) ?_
  exact List.forall_mem_nil _

theorem dtypeSourceLines_readWithin (unit : DtypeUnit) (config : Config) :
    ∀ line ∈ dtypeSourceLines, ReadsWithin (unit.sourceValues config).keys line.toList := by
  have hkeys : (unit.sourceValues config).keys = ["guard", "namespace", "type2names", "name2types",
      "sentinel", "typesizes", "fatal", "precisions", "get_types"] := rfl
  simp only [hkeys, dtypeSourceLines]
  repeat refine .forall_cons (by decide +kernel) ?_
  exact List.forall_mem_nil _

theorem DtypeUnit.failure?_files (unit : DtypeUnit) (config : Config) :
    failure? (unit.files config) = none := by
  obtain ⟨header, hheader⟩ := fill_of_readsWithin (dtypeHeaderLines_readWithin unit config)
  obtain ⟨source, hsource⟩ := fill_of_readsWithin (dtypeSourceLines_readWithin unit config)
  rw [DtypeUnit.files, hheader, hsource]
  rfl

theorem failure?_dtypeFiles (dtypes : OrderedMap Dtype) (document : Document) (config : Config) :
    failure? (dtypeFiles dtypes document config) =
      failure? (DtypeUnit.ofDtypes dtypes document.defines document.defaultType) := by
  rw [dtypeFiles, failure?_bind fun unit _ ↦ unit.failure?_files config, Option.or_none]

end SourceGen.Emit
