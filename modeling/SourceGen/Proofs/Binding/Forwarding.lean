import SourceGen.Proofs.Binding.Coverage
import SourceGen.Proofs.Binding.Operators
import SourceGen.Proofs.Emit.DistinctParameters

/-!
# Lambdas that forward their arguments

A bound function is a lambda. Its parameters, the expression that it returns and the names of its arguments
are three lists, and all of them are made from the arguments that the function declares. A member function
takes its object before them, under a name that an argument may have as well.
-/

namespace SourceGen.Binding

open Spec Emit Validation

/-! ## What is forwarded -/

/-- The template parameters that the types of a function may name, those of its class first. -/
def siteParameters (site : FunctionSite) : List String :=
  (site.owner.map ClassDecl.parameters).getD [] ++ site.function.parameters

/-- What a lambda takes for the object of a member function. -/
def objectParams (group : Group) (site : FunctionSite) : List Param :=
  match site.owner with
  | none => []
  | some cls =>
    [⟨Binder.boundType group (Text.join "::" (namespaceSegments site.namespaceName)) cls ++ "&", "self"⟩]

/-- An operator of a class has the object as its first operand. A member with a name is called on it. -/
def objectOperands (site : FunctionSite) : List String :=
  if site.owner.isSome && site.function.name.isNone then ["self"] else []

/-- The object of an operator outside of classes is one of its operands. -/
def IsFreeOperator (site : FunctionSite) : Prop :=
  site.owner = none ∧ site.function.operator.isSome = true

/-- The parameters of a lambda without the object, which comes first where a method is bound. -/
def paramsBesideObject (site : FunctionSite) (method : Method) : List Param :=
  if site.owner.isSome || site.function.operator.isSome then method.params.tail else method.params

/-- A lambda takes the object and the arguments of a function, passes them on in their declared order, and
names what it takes beside the object with the declared defaults. -/
structure Forwards (group : Group) (site : FunctionSite) (method : Method) : Prop where
  takes : ∃ taken, (taken = site.function.args ∨
      IsFreeOperator site ∧ taken = site.function.args.reverse) ∧
    method.params = objectParams group site ++ group.params (siteParameters site) taken
  passes : method.body.operands = objectOperands site ++ site.function.args.map (·.name)
  named : method.keywords.map (·.name) = (paramsBesideObject site method).map (·.name)
  defaults : ∀ keyword ∈ method.keywords, ∃ arg ∈ site.function.args,
    keyword = ⟨arg.name, arg.fallback.map (group.clean (siteParameters site))⟩

/-- An argument of a member function has the name that the lambda gives to the object. -/
def ShadowsObject (site : FunctionSite) : Prop :=
  site.owner.isSome = true ∧ ∃ arg ∈ site.function.args, arg.name = "self"

instance {site : FunctionSite} : Decidable (ShadowsObject site) :=
  inferInstanceAs (Decidable (_ ∧ _))

section Sites

variable {group : Group} {site : FunctionSite} {receiver : String} {method : Method}

/-- The name that a lambda is bound under has no part in what it forwards. -/
theorem Forwards.renamed (h : Forwards group site method) (name : String) :
    Forwards group site { method with name } :=
  ⟨h.takes, h.passes, h.named, h.defaults⟩

theorem map_name_params (group : Group) (templates : List String) (args : List Argument) :
    (group.params templates args).map (·.name) = args.map (·.name) := by
  rw [Group.params, List.map_map]
  rfl

theorem map_name_keywords (group : Group) (templates : List String) (args : List Argument) :
    (group.keywords templates args).map (·.name) = args.map (·.name) := by
  rw [Group.keywords, List.map_map]
  rfl

theorem exists_of_mem_keywords {templates : List String} {args : List Argument} {keyword : Keyword}
    (h : keyword ∈ group.keywords templates args) :
    ∃ arg ∈ args, keyword = ⟨arg.name, arg.fallback.map (group.clean templates)⟩ := by
  obtain ⟨arg, harg, rfl⟩ := List.mem_map.mp h
  exact ⟨arg, harg, rfl⟩

/-- Parameters and names of an operator's method come from one list, which is without its first argument in
the names. -/
theorem exists_taken_of_operatorMethod {function : FunctionDecl}
    (h : Binder.operatorMethod group function = .ok method) :
    ∃ taken, (taken = function.args ∨ taken = function.args.reverse) ∧
      method.params = group.params function.parameters taken ∧
        method.keywords = group.keywords function.parameters taken.tail := by
  unfold Binder.operatorMethod at h
  dsimp only at h
  split at h
  · split at h
    · cases h
      exact ⟨function.args.reverse, .inr rfl, List.map_reverse.symm, rfl⟩
    · cases h
  · split at h
    · cases h
      exact ⟨function.args, .inl rfl, rfl, rfl⟩
    · cases h

theorem forwards_of_operatorMethod (howner : site.owner = none)
    (hoperator : site.function.operator.isSome = true)
    (h : Binder.operatorMethod group site.function = .ok method) : Forwards group site method := by
  obtain ⟨taken, htaken, hparams, hkeywords⟩ := exists_taken_of_operatorMethod h
  have htemplates : siteParameters site = site.function.parameters := by
    simp [siteParameters, howner]
  refine ⟨⟨taken, htaken.imp_right fun hreversed ↦ ⟨⟨howner, hoperator⟩, hreversed⟩, ?_⟩, ?_, ?_, ?_⟩
  · rw [hparams, htemplates, objectParams, howner, List.nil_append]
  · rw [(operatorMethod_forms h).1, objectOperands, howner]
    rfl
  · calc
      method.keywords.map (·.name) = taken.tail.map (·.name) := by rw [hkeywords, map_name_keywords]
      _ = (method.params.map (·.name)).tail := by rw [hparams, map_name_params, List.map_tail]
      _ = (paramsBesideObject site method).map (·.name) := by
        rw [paramsBesideObject, hoperator, Bool.or_true, if_pos rfl, List.map_tail]
  · intro keyword hkeyword
    rw [hkeywords] at hkeyword
    obtain ⟨arg, harg, hkeyword⟩ := exists_of_mem_keywords hkeyword
    have hmem : arg ∈ site.function.args := by
      rcases htaken with rfl | rfl
      · exact List.mem_of_mem_tail harg
      · exact List.mem_reverse.mp (List.mem_of_mem_tail harg)
    exact ⟨arg, hmem, htemplates ▸ hkeyword⟩

theorem forwards_of_named (howner : site.owner = none) (hoperator : site.function.operator.isSome = false)
    {module qualifier : String}
    (h : .define receiver method = namedStatement group module qualifier site.function) :
    Forwards group site method := by
  have htemplates : siteParameters site = site.function.parameters := by
    simp [siteParameters, howner]
  cases h
  refine ⟨⟨site.function.args, .inl rfl, ?_⟩, ?_, ?_, ?_⟩
  · rw [objectParams, howner, htemplates, List.nil_append]
  · rw [objectOperands, howner]
    rfl
  · rw [paramsBesideObject, howner, hoperator]
    exact (map_name_keywords ..).trans (map_name_params ..).symm
  · rw [htemplates]
    exact fun _ ↦ exists_of_mem_keywords

/-- The object of a member function is an operand of its own, or what the function is called on. -/
theorem operands_of_memberBody {used used' : UsedNames} {cls : ClassDecl} {function : FunctionDecl}
    {name usual : String} {body : Expression}
    (h : Binder.memberBody used group cls function = .ok (name, body, usual, used')) :
    body.operands = (if function.name.isNone then ["self"] else []) ++ function.args.map (·.name) := by
  unfold Binder.memberBody at h
  dsimp only at h
  split at h
  · next hname =>
    cases h
    rw [hname]
    rfl
  · next symbol hname _ =>
    split at h
    · cases h
      rw [hname]
      exact operands_operatorBody symbol _
    · cases h
  · cases h

theorem forwards_of_member {cls : ClassDecl} (howner : site.owner = some cls)
    (h : .define receiver method ∈ memberStatements group (Binder.boundType group
      (Text.join "::" (namespaceSegments site.namespaceName)) cls) cls site.function) :
    Forwards group site method := by
  have htemplates : siteParameters site = cls.parameters ++ site.function.parameters := by
    simp [siteParameters, howner]
  rw [memberStatements] at h
  split at h
  · next hbody =>
    cases List.mem_singleton.mp h
    refine ⟨⟨site.function.args, .inl rfl, ?_⟩, ?_, ?_, ?_⟩
    · rw [objectParams, howner, htemplates]
      rfl
    · rw [operands_of_memberBody hbody, objectOperands, howner]
      rfl
    · rw [paramsBesideObject, howner]
      exact (map_name_keywords ..).trans (map_name_params ..).symm
    · rw [htemplates]
      exact fun _ ↦ exists_of_mem_keywords
  · cases h

/-- Whatever defines a function forwards its arguments. -/
theorem forwards_of_mem_siteStatements (h : .define receiver method ∈ siteStatements group site) :
    Forwards group site method := by
  rw [siteStatements] at h
  cases howner : site.owner with
  | some cls =>
    rw [howner] at h
    exact forwards_of_member howner h
  | none =>
    rw [howner] at h
    change _ ∈ functionStatements .. at h
    rw [functionStatements] at h
    split at h
    · next hoperator =>
      rw [operatorStatements] at h
      split at h
      · next hmethod =>
        cases List.mem_singleton.mp h
        exact (forwards_of_operatorMethod howner hoperator hmethod).renamed ""
      · cases h
    · next hoperator =>
      exact forwards_of_named howner (Bool.eq_false_iff.mpr hoperator) (List.mem_singleton.mp h)

/-- With arguments that are told apart, the parameters of a lambda are told apart unless one of them has the
name of the object. -/
theorem Forwards.nodup_params_iff (h : Forwards group site method) (hapart : NamedApart site.function.args) :
    (method.params.map (·.name)).Nodup ↔ ¬ ShadowsObject site := by
  obtain ⟨taken, htaken, hparams⟩ := h.takes
  have hperm : (taken.map (·.name)).Perm (site.function.args.map (·.name)) := by
    rcases htaken with rfl | ⟨-, rfl⟩
    · exact .refl _
    · exact (List.reverse_perm _).map _
  have hnodup : (taken.map (·.name)).Nodup := hperm.nodup_iff.mpr hapart.nodup
  rw [hparams, List.map_append, map_name_params, objectParams, ShadowsObject]
  cases site.owner with
  | none => exact iff_of_true hnodup fun hshadows ↦ Bool.false_ne_true hshadows.1
  | some cls =>
    calc
      ("self" :: taken.map (·.name)).Nodup ↔ "self" ∉ taken.map (·.name) :=
        List.nodup_cons.trans (and_iff_left hnodup)
      _ ↔ ¬ ∃ arg ∈ site.function.args, arg.name = "self" := by rw [hperm.mem_iff, List.mem_map]
      _ ↔ _ := not_congr (and_iff_right rfl).symm

end Sites

/-! ## Generated units -/

section Units

variable {api : Api} {config : Config} {name : String} {file : SourceFile}
  {namespaces : Entries NamespaceContent} {binder : Binder}

theorem mem_entries_of_isUnit (h : IsUnit api config name file namespaces binder)
    {entry : String × NamespaceContent} (hentry : entry ∈ namespaces) :
    entry ∈ api.namespaces.entries ∧ groupOf entry.1 = name := by
  have hgrouped := h.grouped
  rw [entries_groups, grouped] at hgrouped
  obtain ⟨group, -, hgroup⟩ := List.mem_map.mp hgrouped
  cases hgroup
  obtain ⟨hmem, hname⟩ := List.mem_filter.mp hentry
  exact ⟨hmem, of_decide_eq_true hname⟩

/-- A unit defines nothing but functions of the namespaces in its group. -/
theorem exists_site_of_define (h : IsUnit api config name file namespaces binder) {receiver : String}
    {method : Method} (hdefine : .define receiver method ∈ binder.statements) :
    ∃ site ∈ boundSites api, groupOf site.namespaceName = name ∧
      .define receiver { method with name := "" } ∈ siteStatements (groupNamed api config name) site := by
  have hdefinition : .define receiver { method with name := "" } ∈ definitionsOf binder.statements :=
    List.mem_filterMap.mpr ⟨_, hdefine, rfl⟩
  rw [definitionsOf_statements h.bound] at hdefinition
  obtain ⟨entry, hentry, hdefinition⟩ := List.mem_flatMap.mp hdefinition
  have hbindable := namespaceBindable_of_bindGroup h.bound entry hentry
  rw [(definitionsOf_entryStatements_perm hbindable).mem_iff] at hdefinition
  obtain ⟨site, hsite, hdefinition⟩ := List.mem_flatMap.mp hdefinition
  obtain ⟨hcontent, hbound⟩ := List.mem_filter.mp hsite
  obtain ⟨hmem, hgroup⟩ := mem_entries_of_isUnit h hentry
  refine ⟨site, List.mem_filter.mpr ⟨List.mem_flatMap.mpr ⟨entry, hmem, hcontent⟩, hbound⟩, ?_,
    hdefinition⟩
  rw [namespaceName_of_mem_contentFunctions hcontent, hgroup]

end Units

/-- In the units of a document that validation accepts, every lambda forwards the arguments of a function
that is to be bound there. Its parameters are told apart exactly if no argument of a member function has the
name of the object. -/
theorem lambdas_forward_iff {document : Document} {api : Api} {config : Config}
    {files : Entries SourceFile} (haccepted : (validate document).ok = true)
    (hapi : document.api = some api) (hfiles : (Binding.files api config).result = .ok files)
    {name : String} {file : SourceFile} (hfile : (unitFile name, file) ∈ files) :
    ∃ namespaces binder, IsUnit api config name file namespaces binder ∧
      ∀ receiver method, .define receiver method ∈ binder.statements →
        ∃ site ∈ boundSites api, groupOf site.namespaceName = name ∧
          Forwards (groupNamed api config name) site method ∧
            ((method.params.map (·.name)).Nodup ↔ ¬ ShadowsObject site) := by
  have hvalid : Valid document := (ok_validate_iff_valid document).mp haccepted
  obtain ⟨namespaces, binder, hunit⟩ := exists_isUnit hfiles hfile
  refine ⟨namespaces, binder, hunit, fun receiver method hdefine ↦ ?_⟩
  obtain ⟨site, hsite, hgroup, hdefinition⟩ := exists_site_of_define hunit hdefine
  have hforwards : Forwards (groupNamed api config name) site method :=
    (forwards_of_mem_siteStatements hdefinition).renamed method.name
  have hapart := namedApart_of_mem_functionSites (hvalid.namespaces api hapi) site
    (List.mem_filter.mp hsite).1
  exact ⟨site, hsite, hgroup, hforwards, hforwards.nodup_params_iff hapart⟩

/-- A box that grows by a value of its own type, as often as it is told. -/
def growApi (argument : String) : Api :=
  { namespaces := .ofEntries [("g", .full []
      [{ name := "Box"
         template := some "typename T"
         functions :=
           [{ name := some "grow"
              args := [{ name := argument, type := "T" },
                { name := "times", type := "size_t", fallback := some "sizeof(T)" }]
              out := .typed (some "double") "return 0;" }] }])] }

def growMethod (argument : String) : Method :=
  { name := "grow"
    params := [⟨"g::Box<PybindT>&", "self"⟩, ⟨"PybindT", argument⟩, ⟨"size_t", "times"⟩]
    body := .call "self.grow" [argument, "times"]
    keywords := [⟨argument, none⟩, ⟨"times", some "sizeof(PybindT)"⟩]
    description := "grow ..." }

def growBinder (argument : String) : Binder :=
  { used := [("cls_Box", "grow")]
    blocks := [[.classOf "g::Box<PybindT>" "cls_Box" "m_g" "Box",
      .define "cls_Box" (growMethod argument)]] }

def growFiles (argument : String) : Entries SourceFile :=
  [(bindingHeader, { content := headerText (growApi argument) {} }),
    (unitFile "g", unitOf (growApi argument) {} "g" (growBinder argument))]

theorem mem_growFiles (argument : String) :
    (unitFile "g", unitOf (growApi argument) {} "g" (growBinder argument)) ∈ growFiles argument :=
  List.mem_cons_of_mem _ List.mem_cons_self

theorem lambdas_forward_iff_grow :
    (validate { api := some (growApi "by") }).ok = true ∧
      (Binding.files (growApi "by") {}).result = .ok (growFiles "by") ∧
        ∃ namespaces binder, IsUnit (growApi "by") {} "g"
            (unitOf (growApi "by") {} "g" (growBinder "by")) namespaces binder ∧
          ∀ receiver method, .define receiver method ∈ binder.statements →
            ∃ site ∈ boundSites (growApi "by"),
              Forwards (groupNamed (growApi "by") {} "g") site method ∧
                (method.params.map (·.name)).Nodup := by
  have haccepted : (validate { api := some (growApi "by") }).ok = true := by decide +kernel
  have hgroups : (groups (growApi "by")).entries = [("g", (growApi "by").namespaces.entries)] := by
    decide +kernel
  have hfiles : (Binding.files (growApi "by") {}).result = .ok (growFiles "by") :=
    result_files_of_groups_eq hgroups (by decide +kernel)
  obtain ⟨namespaces, binder, hunit, hdefined⟩ :=
    lambdas_forward_iff haccepted rfl hfiles (mem_growFiles "by")
  have hplain : ∀ site ∈ boundSites (growApi "by"), ¬ ShadowsObject site := by decide +kernel
  refine ⟨haccepted, hfiles, namespaces, binder, hunit, fun receiver method hdefine ↦ ?_⟩
  obtain ⟨site, hsite, -, hforwards, hiff⟩ := hdefined receiver method hdefine
  exact ⟨site, hsite, hforwards, hiff.mpr (hplain site hsite)⟩

/-- Validation accepts a member function with an argument named as the object, and the lambda takes two
parameters of that name. -/
theorem grow_takes_self_twice :
    (validate { api := some (growApi "self") }).ok = true ∧
      (Binding.files (growApi "self") {}).result = .ok (growFiles "self") ∧
        IsUnit (growApi "self") {} "g" (unitOf (growApi "self") {} "g" (growBinder "self"))
            (growApi "self").namespaces.entries (growBinder "self") ∧
          .define "cls_Box" (growMethod "self") ∈ (growBinder "self").statements ∧
            (growMethod "self").params.map (·.name) = ["self", "self", "times"] := by
  have hgroups : (groups (growApi "self")).entries = [("g", (growApi "self").namespaces.entries)] := by
    decide +kernel
  have hbound : (bindGroup (groupNamed (growApi "self") {} "g")
      (growApi "self").namespaces.entries).result = .ok (growBinder "self") := by decide +kernel
  exact ⟨by decide +kernel, result_files_of_groups_eq hgroups hbound, isUnit_of_groups_eq hgroups hbound,
    by decide, rfl⟩

end SourceGen.Binding
