import SourceGen.Proofs.Pipeline.Failures
import SourceGen.Proofs.Validation.Validity

/-!
# Validated documents in a pipeline

A document that validation accepts fails in a pipeline of built-in plugins over circular requirements, and
over three things that no rule looks at: a section of opcodes or of scalar types that declares none, and
an init list for taking over another object that names no member. Templates never fail.
-/

namespace SourceGen

open Spec Emit ClassGraph Validation

variable {document : Document} {config : Config}

namespace Plugin

/-- The first namespace that cannot be emitted has its classes in order, and one of them takes over
other objects with an init list that names no member. -/
def FailsOnTransfer (api : Api) : Prop :=
  ∃ before name content after, api.namespaces.entries = before ++ (name, content) :: after ∧
    (∀ earlier ∈ before, NamespaceEmittable earlier.2) ∧
      Acyclic content.classes ∧ ∃ cls ∈ content.classes, ¬ TransfersNameMembers cls

/-- What the built-in plugin of an identifier refuses although no rule of validation looks at it. -/
def Overlooked (id : String) (document : Document) : Prop :=
  match id with
  | "OPCODE" => ∃ ops, document.opcode = some ops ∧ ops.opcodes.entries = []
  | "DTYPE" => ∃ dtypes, document.dtype = some dtypes ∧ dtypes.entries = []
  | "API" => ∃ api, document.api = some api ∧ FailsOnTransfer api
  | _ => False

/-! ## Single plugins -/

theorem exists_not_isCircular_iff {refusal : Option GenError}
    (hkind : ∀ error, refusal = some error → error.IsMalformedSpec) :
    (∃ error, refusal = some error ∧ ¬ error.IsCircular) ↔ refusal ≠ none := by
  constructor
  · rintro ⟨error, herror, _⟩ hnone
    rw [hnone] at herror
    cases herror
  · intro hsome
    obtain ⟨error, herror⟩ := Option.ne_none_iff_exists'.mp hsome
    exact ⟨error, herror, (hkind error herror).not_isCircular⟩

theorem isMalformedSpec_of_refusal?_opcodes {error : GenError}
    (h : opcodes.refusal? document config = some error) : error.IsMalformedSpec := by
  rw [refusal?_opcodes] at h
  obtain ⟨ops, _, hfails⟩ := Option.bind_eq_some_iff.mp h
  exact OpcodeUnit.ofSection_failsOnly error hfails

theorem isMalformedSpec_of_refusal?_dtypes {error : GenError}
    (h : dtypes.refusal? document config = some error) : error.IsMalformedSpec := by
  rw [refusal?_dtypes] at h
  obtain ⟨types, _, hfails⟩ := Option.bind_eq_some_iff.mp h
  exact DtypeUnit.ofDtypes_failsOnly types _ _ error hfails

theorem isCircular_of_refusal?_binding (hgranted : Granted document) {error : GenError}
    (h : binding.refusal? document config = some error) : error.IsCircular := by
  rw [refusal?_binding] at h
  obtain ⟨api, hapi, hfails⟩ := Option.bind_eq_some_iff.mp h
  obtain ⟨name, content, hcontent, herror⟩ := Binding.exists_namespaceFailure? hfails
  obtain ⟨hfunctions, hclasses⟩ := hgranted.functions api hapi name content hcontent
  exact Binding.isCircular_of_namespaceFailure? hclasses hfunctions herror

theorem refusal?_opcodes_ne_none_iff (hgranted : Granted document) :
    opcodes.refusal? document config ≠ none ↔ Overlooked "OPCODE" document := by
  rw [refusal?_opcodes, Ne, Option.bind_eq_none_iff]
  simp only [OpcodeUnit.failure?_ofSection_eq_none_iff, not_forall, not_and_or, not_not]
  constructor
  · rintro ⟨ops, hops, hempty | hstray⟩
    · exact ⟨ops, hops, hempty⟩
    · exact absurd (hgranted.overrides ops hops) hstray
  · rintro ⟨ops, hops, hempty⟩
    exact ⟨ops, hops, Or.inl hempty⟩

theorem refusal?_dtypes_ne_none_iff (hgranted : Granted document) :
    dtypes.refusal? document config ≠ none ↔ Overlooked "DTYPE" document := by
  rw [refusal?_dtypes, Ne, Option.bind_eq_none_iff]
  simp only [DtypeUnit.failure?_ofDtypes_eq_none_iff, not_forall]
  constructor
  · rintro ⟨types, htypes, hfails⟩
    refine ⟨types, htypes, ?_⟩
    by_contra hnonempty
    apply hfails
    refine ⟨hnonempty, fun name hname ↦ ?_⟩
    obtain ⟨others, hothers, hdeclared⟩ := hgranted.defaultType name hname
    rw [htypes, Option.some.injEq] at hothers
    exact hothers ▸ hdeclared
  · rintro ⟨types, htypes, hempty⟩
    exact ⟨types, htypes, fun h ↦ h.nonempty hempty⟩

/-! ## Namespaces of the interface -/

theorem namespaceEmittable_iff_of_granted {api : Api} {name : String} {content : NamespaceContent}
    (hgranted : Granted document) (hapi : document.api = some api)
    (hcontent : (name, content) ∈ api.namespaces.entries) (hacyclic : Acyclic content.classes) :
    NamespaceEmittable content ↔ ∀ cls ∈ content.classes, TransfersNameMembers cls := by
  obtain ⟨hfunctions, hclasses⟩ := hgranted.functions api hapi name content hcontent
  have hinit := hgranted.init api hapi name content hcontent
  constructor
  · intro h cls hcls
    exact (h.classes cls hcls).transfers
  · intro h
    refine ⟨hacyclic, fun cls hcls ↦ ?_, hfunctions⟩
    exact ⟨hclasses cls hcls, hinit cls hcls, h cls hcls⟩

theorem ofContent_not_isCircular_iff {api : Api} {name : String} {content : NamespaceContent}
    (hgranted : Granted document) (hapi : document.api = some api)
    (hcontent : (name, content) ∈ api.namespaces.entries) :
    (∃ error, failure? (NamespaceUnit.ofContent name content).result = some error ∧
        ¬ error.IsCircular) ↔
      Acyclic content.classes ∧ ∃ cls ∈ content.classes, ¬ TransfersNameMembers cls := by
  by_cases hacyclic : Acyclic content.classes
  · rw [exists_not_isCircular_iff (NamespaceUnit.ofContent_failsOnly_of_acyclic name hacyclic), Ne,
      NamespaceUnit.failure?_ofContent_eq_none_iff,
      namespaceEmittable_iff_of_granted hgranted hapi hcontent hacyclic]
    simp [hacyclic]
  · obtain ⟨circular, hfails, hcircular⟩ :=
      NamespaceUnit.failure?_ofContent_of_not_acyclic name hacyclic
    simp [hacyclic, hfails, hcircular]

theorem refusal?_interface_not_isCircular_iff (hgranted : Granted document) :
    (∃ error, interface.refusal? document config = some error ∧ ¬ error.IsCircular) ↔
      Overlooked "API" document := by
  have hbind : (∃ error, interface.refusal? document config = some error ∧ ¬ error.IsCircular) ↔
      ∃ api, document.api = some api ∧ ∃ error, (api.namespaces.entries.findSome? fun entry ↦
        failure? (NamespaceUnit.ofContent entry.1 entry.2).result) = some error ∧
          ¬ error.IsCircular := by
    rw [refusal?_interface]
    cases document.api <;> simp
  rw [hbind]
  refine exists_congr fun api ↦ and_congr_right fun hapi ↦ ?_
  rw [exists_findSome?_iff]
  have hmem : ∀ {before after : Entries NamespaceContent} {name content},
      api.namespaces.entries = before ++ (name, content) :: after →
        (name, content) ∈ api.namespaces.entries := by
    intro before after name content hentries
    rw [hentries]
    exact List.mem_append_right before List.mem_cons_self
  constructor
  · rintro ⟨before, ⟨name, content⟩, after, hentries, hbefore, hfails⟩
    refine ⟨before, name, content, after, hentries, ?_, ?_⟩
    · intro earlier hearlier
      exact NamespaceUnit.failure?_ofContent_eq_none_iff.mp (hbefore earlier hearlier)
    · exact (ofContent_not_isCircular_iff hgranted hapi (hmem hentries)).mp hfails
  · rintro ⟨before, name, content, after, hentries, hbefore, hstray⟩
    refine ⟨before, (name, content), after, hentries, ?_, ?_⟩
    · intro earlier hearlier
      exact NamespaceUnit.failure?_ofContent_eq_none_iff.mpr (hbefore earlier hearlier)
    · exact (ofContent_not_isCircular_iff hgranted hapi (hmem hentries)).mpr hstray

/-! ## Any built-in plugin -/

theorem isCircular_or_isMalformedSpec (hgranted : Granted document) {plugin : Plugin}
    (hbuiltin : plugin ∈ builtin) {error : GenError}
    (h : plugin.refusal? document config = some error) :
    error.IsCircular ∨ error.IsMalformedSpec := by
  simp only [builtin, List.mem_cons, List.not_mem_nil, or_false] at hbuiltin
  rcases hbuiltin with rfl | rfl | rfl | rfl
  · exact Or.inr (isMalformedSpec_of_refusal?_opcodes h)
  · exact Or.inr (isMalformedSpec_of_refusal?_dtypes h)
  · rw [refusal?_interface] at h
    obtain ⟨api, _, hfirst⟩ := Option.bind_eq_some_iff.mp h
    obtain ⟨⟨name, content⟩, _, hfails⟩ := List.exists_of_findSome?_eq_some hfirst
    by_cases hacyclic : Acyclic content.classes
    · exact Or.inr (NamespaceUnit.ofContent_failsOnly_of_acyclic name hacyclic error hfails)
    · obtain ⟨circular, hcircle, hcircular⟩ :=
        NamespaceUnit.failure?_ofContent_of_not_acyclic name hacyclic
      rw [hcircle, Option.some.injEq] at hfails
      exact Or.inl (hfails ▸ hcircular)
  · exact Or.inl (isCircular_of_refusal?_binding hgranted h)

/-- Apart from circles a built-in plugin refuses what the rules overlook. -/
theorem refusal?_not_isCircular_iff (hgranted : Granted document) {plugin : Plugin}
    (hbuiltin : plugin ∈ builtin) :
    (∃ error, plugin.refusal? document config = some error ∧ ¬ error.IsCircular) ↔
      Overlooked plugin.id document := by
  simp only [builtin, List.mem_cons, List.not_mem_nil, or_false] at hbuiltin
  rcases hbuiltin with rfl | rfl | rfl | rfl
  · rw [exists_not_isCircular_iff fun _ ↦ isMalformedSpec_of_refusal?_opcodes]
    exact refusal?_opcodes_ne_none_iff hgranted
  · rw [exists_not_isCircular_iff fun _ ↦ isMalformedSpec_of_refusal?_dtypes]
    exact refusal?_dtypes_ne_none_iff hgranted
  · exact refusal?_interface_not_isCircular_iff hgranted
  · constructor
    · rintro ⟨error, herror, hother⟩
      exact absurd (isCircular_of_refusal?_binding hgranted herror) hother
    · exact False.elim

/-- Of built-in plugins one refuses for more than a circle exactly if it is the first to refuse, and the
rules overlook what it refuses. -/
theorem findSome?_refusal?_not_isCircular_iff (hgranted : Granted document) {plugins : List Plugin}
    (hbuiltin : ∀ plugin ∈ plugins, plugin ∈ builtin) :
    (∃ error, plugins.findSome? (·.refusal? document config) = some error ∧ ¬ error.IsCircular) ↔
      ∃ before plugin after, plugins = before ++ plugin :: after ∧
        (∀ earlier ∈ before, Admits earlier.id document) ∧ Overlooked plugin.id document := by
  rw [exists_findSome?_iff]
  refine exists_congr fun before ↦ exists_congr fun plugin ↦ exists_congr fun after ↦
    and_congr_right fun hplugins ↦ ?_
  have hplugin : plugin ∈ builtin := by
    apply hbuiltin
    rw [hplugins]
    exact List.mem_append_right before List.mem_cons_self
  have hbefore : ∀ earlier ∈ before, earlier ∈ builtin := by
    intro earlier hearlier
    apply hbuiltin
    rw [hplugins]
    exact List.mem_append_left _ hearlier
  have hadmits : (∀ earlier ∈ before, earlier.refusal? document config = none) ↔
      ∀ earlier ∈ before, Admits earlier.id document :=
    forall₂_congr fun earlier hearlier ↦ refusal?_eq_none_iff (hbefore earlier hearlier)
  exact and_congr hadmits (refusal?_not_isCircular_iff hgranted hplugin)

end Plugin

/-! ## Pipelines -/

namespace Pipeline

theorem mem_builtin_of_mem_ofIds {ids : List String} {plugin : Plugin}
    (h : plugin ∈ (ofIds ids).2.plugins) : plugin ∈ Plugin.builtin := by
  obtain ⟨id, _, hfind⟩ := List.mem_filterMap.mp h
  rw [Plugin.find?] at hfind
  exact List.mem_of_find?_eq_some hfind

/-- A validated document makes a pipeline fail over nothing but circular requirements, unless it holds
what the rules overlook for a plugin and every plugin before that one admits it. Whatever the failure,
it blames the specification and no template. -/
theorem run_ofIds_failsOnly_isCircular_iff {document : Document}
    (hvalid : ∀ entry ∈ (validate document).entries, entry.severity ≠ .error) (config : Config)
    (ids : List String) :
    (FailsOnly GenError.IsCircular ((ofIds ids).2.run document config).2.result ↔
        ¬ ∃ before plugin after, (ofIds ids).2.plugins = before ++ plugin :: after ∧
          (∀ earlier ∈ before, Plugin.Admits earlier.id document) ∧
            Plugin.Overlooked plugin.id document) ∧
      FailsOnly (fun error ↦ error.IsCircular ∨ error.IsMalformedSpec)
        ((ofIds ids).2.run document config).2.result := by
  have hgranted : Granted document := granted_of_errorFree (entries_validateFile_iff.mp hvalid)
  have hbuiltin : ∀ plugin ∈ (ofIds ids).2.plugins, plugin ∈ Plugin.builtin := fun _ ↦
    mem_builtin_of_mem_ofIds
  have hrun : failure? ((ofIds ids).2.run document config).2.result =
      (ofIds ids).2.plugins.findSome? (·.refusal? document config) :=
    failure?_run hbuiltin document config
  constructor
  · rw [← Plugin.findSome?_refusal?_not_isCircular_iff hgranted hbuiltin, ← hrun, FailsOnly]
    simp only [not_exists, not_and, not_not]
  · intro error herror
    rw [hrun] at herror
    obtain ⟨plugin, hplugin, hrefusal⟩ := List.exists_of_findSome?_eq_some herror
    exact Plugin.isCircular_or_isMalformedSpec hgranted (hbuiltin plugin hplugin) hrefusal

/-- A class that is copied with an init list for a member that it does not declare. -/
def strayCopyClass : ClassDecl :=
  { name := "Dense", copy := some { initList := .ofEntries [("bias", "0")] } }

def strayCopyDocument : Document :=
  { api := some { namespaces := .ofEntries [("layr", .full [] [strayCopyClass])] } }

theorem run_strayCopyDocument_failsOnly_isCircular_iff :
    (∀ entry ∈ (validate strayCopyDocument).entries, entry.severity ≠ .error) ∧
      (FailsOnly GenError.IsCircular ((ofIds ["api"]).2.run strayCopyDocument {}).2.result ↔
        ¬ ∃ before plugin after, (ofIds ["api"]).2.plugins = before ++ plugin :: after ∧
          (∀ earlier ∈ before, Plugin.Admits earlier.id strayCopyDocument) ∧
            Plugin.Overlooked plugin.id strayCopyDocument) := by
  have hvalid : (validate strayCopyDocument).entries = [] := by decide +kernel
  have hnone : ∀ entry ∈ (validate strayCopyDocument).entries, entry.severity ≠ .error := by
    rw [hvalid]
    exact fun _ h ↦ absurd h List.not_mem_nil
  exact ⟨hnone, (run_ofIds_failsOnly_isCircular_iff hnone {} ["api"]).1⟩

/-- Validation has nothing to say about the document, and the interface cannot be made of it. -/
theorem validate_accepts_strayCopyDocument :
    (validate strayCopyDocument).entries = [] ∧
      failure? ((ofIds ["api"]).2.run strayCopyDocument {}).2.result =
        some (.malformedSpec "api.namespaces.layr.classes.Dense.copy.initlist.bias"
          "'bias' is not a member of Dense") := by
  decide +kernel

end Pipeline

end SourceGen
