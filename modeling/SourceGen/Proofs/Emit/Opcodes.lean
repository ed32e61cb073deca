import SourceGen.Emit.OpcodeText
import SourceGen.Proofs.Spec.Emittable
import SourceGen.Proofs.Template.Filling

/-!
# When the opcode files can be made

A section of opcodes is emitted exactly if it declares an opcode, every override belongs to a declared
behaviour, and every alias leads to a body in one step. The templates never stand in the way.
-/

namespace SourceGen.Emit

open Spec Template

variable {ops : OpcodeSection}

/-! ## Overrides -/

theorem failure?_aliasedBody_eq_none_iff {key behaviour aliased : String} :
    failure? (aliasedBody ops key behaviour aliased) = none ↔ HasBody ops aliased behaviour := by
  rw [hasBody_iff, aliasedBody]
  cases ops.opcodes.get? aliased with
  | none => simp
  | some target =>
    cases htarget : target.overrides.get? behaviour with
    | none => simp [htarget]
    | some given => cases given <;> simp [htarget]

theorem aliasedBody_failsOnly (key behaviour aliased : String) :
    FailsOnly GenError.IsMalformedSpec (aliasedBody ops key behaviour aliased) := by
  rw [aliasedBody]
  split
  · exact .error ⟨_, _, rfl⟩
  · split
    · exact .ok _
    · exact .error ⟨_, _, rfl⟩
    · exact .error ⟨_, _, rfl⟩

theorem failure?_overrideBody_eq_none_iff {name behaviour : String} {opcode : Opcode} :
    failure? (overrideBody ops name opcode behaviour) = none ↔
      ∀ aliased, (behaviour, .sameAs aliased) ∈ opcode.overrides.entries →
        HasBody ops aliased behaviour := by
  simp only [← OrderedMap.get?_eq_some_iff]
  rw [overrideBody]
  cases opcode.overrides.get? behaviour with
  | none => simp
  | some given =>
    cases given with
    | body text => simp
    | sameAs aliased => simp [failure?_aliasedBody_eq_none_iff]

theorem overrideBody_failsOnly (name behaviour : String) (opcode : Opcode) :
    FailsOnly GenError.IsMalformedSpec (overrideBody ops name opcode behaviour) := by
  rw [overrideBody]
  split
  · exact .ok _
  · exact .ok _
  · exact (aliasedBody_failsOnly _ _ _).map _

theorem failure?_specializationsOf (behaviour : String) (opcodes : Entries Opcode) :
    failure? (specializationsOf ops behaviour opcodes) =
      opcodes.findSome? fun entry ↦ failure? (overrideBody ops entry.1 entry.2 behaviour) := by
  induction opcodes with
  | nil => rfl
  | cons entry rest ih =>
    obtain ⟨name, opcode⟩ := entry
    rw [specializationsOf, failure?_bind fun body _ ↦ failure?_bind fun more _ ↦ failure?_ok _, ih,
      Option.or_none, List.findSome?_cons]
    cases failure? (overrideBody ops name opcode behaviour) <;> rfl

theorem failure?_behaviourUnits (behaviours : Entries Behaviour) :
    failure? (behaviourUnits ops behaviours) = behaviours.findSome? fun entry ↦
      failure? (specializationsOf ops entry.1 ops.opcodes.entries) := by
  induction behaviours with
  | nil => rfl
  | cons entry rest ih =>
    obtain ⟨name, behaviour⟩ := entry
    rw [behaviourUnits, failure?_bind fun specializations _ ↦ failure?_bind fun more _ ↦
      failure?_ok _, ih, Option.or_none, List.findSome?_cons]
    cases failure? (specializationsOf ops name ops.opcodes.entries) <;> rfl

theorem behaviourUnits_failsOnly (behaviours : Entries Behaviour) :
    FailsOnly GenError.IsMalformedSpec (behaviourUnits ops behaviours) := by
  intro error herror
  rw [failure?_behaviourUnits] at herror
  obtain ⟨behaviour, _, hbehaviour⟩ := List.exists_of_findSome?_eq_some herror
  rw [failure?_specializationsOf] at hbehaviour
  obtain ⟨entry, _, hentry⟩ := List.exists_of_findSome?_eq_some hbehaviour
  exact overrideBody_failsOnly entry.1 behaviour.1 entry.2 error hentry

/-! ## The unit -/

theorem strayOverride?_eq_none_iff :
    strayOverride? ops = none ↔ ∀ name opcode, (name, opcode) ∈ ops.opcodes.entries →
      ∀ behaviour ∈ opcode.overrides.keys, behaviour ∈ ops.behaviours.keys := by
  simp only [strayOverride?, List.findSome?_eq_none_iff, Option.map_eq_none_iff,
    List.find?_eq_none, Bool.not_eq_true', Bool.not_eq_false, OrderedMap.contains_iff, Prod.forall]

theorem failure?_checkOverrides_eq_none_iff :
    failure? (checkOverrides ops) = none ↔
      ops.opcodes.entries ≠ [] ∧ strayOverride? ops = none := by
  rw [checkOverrides]
  split
  · next hempty => simp [OrderedMap.isEmpty_iff.mp hempty]
  · next hdeclared =>
    rw [OrderedMap.isEmpty_iff] at hdeclared
    cases strayOverride? ops <;> simp [hdeclared]

theorem checkOverrides_failsOnly : FailsOnly GenError.IsMalformedSpec (checkOverrides ops) := by
  rw [checkOverrides]
  split
  · exact .error ⟨_, _, rfl⟩
  · split
    · exact .error ⟨_, _, rfl⟩
    · exact .ok _

theorem OpcodeUnit.ofSection_failsOnly :
    FailsOnly GenError.IsMalformedSpec (OpcodeUnit.ofSection ops) :=
  checkOverrides_failsOnly.bind fun _ ↦ (behaviourUnits_failsOnly _).bind fun _ ↦ .ok _

/-- Only overrides of declared behaviours are looked at, and those are all once no other is there. -/
theorem OpcodeUnit.failure?_ofSection_eq_none_iff :
    failure? (OpcodeUnit.ofSection ops) = none ↔
      ops.opcodes.entries ≠ [] ∧ OverridesResolve ops := by
  have hbehaviours : failure? (behaviourUnits ops ops.behaviours.entries) = none ↔
      ∀ behaviour ∈ ops.behaviours.keys, ∀ name opcode, (name, opcode) ∈ ops.opcodes.entries →
        ∀ aliased, (behaviour, .sameAs aliased) ∈ opcode.overrides.entries →
          HasBody ops aliased behaviour := by
    simp only [failure?_behaviourUnits, failure?_specializationsOf, List.findSome?_eq_none_iff,
      failure?_overrideBody_eq_none_iff, OrderedMap.keys, Entries.keys, List.forall_mem_map,
      Prod.forall]
  have hsteps : failure? (OpcodeUnit.ofSection ops) = none ↔ failure? (checkOverrides ops) = none ∧
      failure? (behaviourUnits ops ops.behaviours.entries) = none := by
    rw [OpcodeUnit.ofSection, failure?_bind fun _ _ ↦ failure?_bind fun _ _ ↦ failure?_ok _,
      Option.or_none, Option.or_eq_none_iff]
  rw [hsteps, failure?_checkOverrides_eq_none_iff, strayOverride?_eq_none_iff, hbehaviours]
  constructor
  · rintro ⟨⟨hnonempty, hdeclared⟩, hdirect⟩
    refine ⟨hnonempty, hdeclared, ?_⟩
    intro name opcode hopcode behaviour aliased halias
    have hkey : behaviour ∈ opcode.overrides.keys := List.mem_map.mpr ⟨_, halias, rfl⟩
    have hbehaviour := hdeclared name opcode hopcode behaviour hkey
    exact hdirect behaviour hbehaviour name opcode hopcode aliased halias
  · rintro ⟨hnonempty, hresolve⟩
    refine ⟨⟨hnonempty, hresolve.declared⟩, ?_⟩
    intro behaviour _ name opcode hopcode aliased halias
    exact hresolve.direct name opcode hopcode behaviour aliased halias

theorem map_behaviourUnits {behaviours : Entries Behaviour} {units : List BehaviourUnit}
    (h : behaviourUnits ops behaviours = .ok units) :
    units.map (fun unit ↦ (unit.name, unit.behaviour)) = behaviours := by
  induction behaviours generalizing units with
  | nil =>
    cases h
    rfl
  | cons entry rest ih =>
    obtain ⟨name, behaviour⟩ := entry
    rw [behaviourUnits] at h
    obtain ⟨specializations, -, hlater⟩ := bind_eq_ok.mp h
    obtain ⟨more, hmore, hunits⟩ := bind_eq_ok.mp hlater
    cases hunits
    rw [List.map_cons, ih hmore]

theorem specializationsOf_of_behaviourUnits {behaviours : Entries Behaviour} {units : List BehaviourUnit}
    (h : behaviourUnits ops behaviours = .ok units) :
    ∀ unit ∈ units, specializationsOf ops unit.name ops.opcodes.entries = .ok unit.specializations := by
  induction behaviours generalizing units with
  | nil =>
    cases h
    exact List.forall_mem_nil _
  | cons entry rest ih =>
    obtain ⟨name, behaviour⟩ := entry
    rw [behaviourUnits] at h
    obtain ⟨specializations, hspecializations, hlater⟩ := bind_eq_ok.mp h
    obtain ⟨more, hmore, hunits⟩ := bind_eq_ok.mp hlater
    cases hunits
    exact List.forall_mem_cons.mpr ⟨hspecializations, ih hmore⟩

/-- A unit keeps the section that it is made of. -/
theorem OpcodeUnit.ofSection_eq_ok {unit : OpcodeUnit} (h : OpcodeUnit.ofSection ops = .ok unit) :
    unit.source = ops ∧ behaviourUnits ops ops.behaviours.entries = .ok unit.behaviours := by
  rw [OpcodeUnit.ofSection] at h
  obtain ⟨-, -, hlater⟩ := bind_eq_ok.mp h
  obtain ⟨behaviours, hbehaviours, hunit⟩ := bind_eq_ok.mp hlater
  cases hunit
  exact ⟨rfl, hbehaviours⟩

/-! ## The files -/

theorem opcodeHeaderLines_readWithin (unit : OpcodeUnit) (config : Config) :
    ∀ line ∈ opcodeHeaderLines, ReadsWithin (unit.headerValues config).keys line.toList := by
  have hkeys : (unit.headerValues config).keys =
      ["guard", "namespace", "fatal", "opcodes", "params", "ops", "cases", "per_op_decls"] := rfl
  simp only [hkeys, opcodeHeaderLines]
  repeat refine .forall_cons (by decide +kernel) ?_
  exact List.forall_mem_nil _

theorem opcodeSourceLines_readWithin (unit : OpcodeUnit) (config : Config) :
    ∀ line ∈ opcodeSourceLines, ReadsWithin (unit.sourceValues config).keys line.toList := by
  have hkeys : (unit.sourceValues config).keys = ["guard", "namespace", "sentinel", "code2names",
      "name2codes", "commcodes", "idemcodes", "per_op_defns"] := rfl
  simp only [hkeys, opcodeSourceLines]
  repeat refine .forall_cons (by decide +kernel) ?_
  exact List.forall_mem_nil _

theorem OpcodeUnit.failure?_files (unit : OpcodeUnit) (config : Config) :
    failure? (unit.files config) = none := by
  obtain ⟨header, hheader⟩ := fill_of_readsWithin (opcodeHeaderLines_readWithin unit config)
  obtain ⟨source, hsource⟩ := fill_of_readsWithin (opcodeSourceLines_readWithin unit config)
  rw [OpcodeUnit.files, hheader, hsource]
  rfl

theorem failure?_opcodeFiles (config : Config) :
    failure? (opcodeFiles ops config) = failure? (OpcodeUnit.ofSection ops) := by
  rw [opcodeFiles, failure?_bind fun unit _ ↦ unit.failure?_files config, Option.or_none]

end SourceGen.Emit
