import SourceGen.Proofs.Output.Emission

/-!
# What a sink is given

Any sink can keep a record of the files that are written into it; it writes and fails as before. After an
emission the record holds the writable files from the first on, up to the first that the sink fails at. So
where files refer back only, a file that is written finds the writable files it refers to written as well.
-/

namespace SourceGen

namespace Sink

variable {σ : Type}

/-- The sink with a record of the files that were written. -/
def recording (sink : Sink σ) : Sink (σ × Entries SourceFile) where
  write state name file := do
    let (next, notes) ← sink.write state.1 name file
    .ok ((next, state.2 ++ [(name, file)]), notes)

/-- The files that an emission has written when it ends, also by a failure. -/
def written (sink : Sink σ) (state : σ) (files : FileSet) : Entries SourceFile :=
  (sink.recording.emit (state, []) files).1.2

/-- The record neither changes what is emitted nor what is told of it. -/
theorem exists_recorded (sink : Sink σ) (state : σ) (before : Entries SourceFile) (count : Nat)
    (entries : Entries SourceFile) :
    ∃ recorded, recorded <+: writable entries ∧
      sink.recording.emitFrom (state, before) count entries =
        (((sink.emitFrom state count entries).1, before ++ recorded),
          (sink.emitFrom state count entries).2) ∧
      ∀ total, (sink.emitFrom state count entries).2.result = .ok total → recorded = writable entries := by
  induction entries generalizing state before count with
  | nil => exact ⟨[], List.nil_prefix, by rw [List.append_nil]; rfl, fun _ _ ↦ rfl⟩
  | cons entry rest ih =>
    obtain ⟨name, file⟩ := entry
    rw [emitFrom, emitFrom, writable_cons]
    cases hfault : file.fault? name with
    | some fault =>
      obtain ⟨recorded, hstart, hsame, hall⟩ := ih state before count
      refine ⟨recorded, hstart, ?_, hall⟩
      simp only [hsame]
    | none =>
      rw [if_pos rfl]
      cases hwrite : sink.write state name file with
      | error error =>
        refine ⟨[], List.nil_prefix, ?_, fun total htotal ↦ ?_⟩
        · simp only [recording, hwrite, List.append_nil]
          rfl
        · cases htotal
      | ok next =>
        obtain ⟨next, notes⟩ := next
        obtain ⟨recorded, hstart, hsame, hall⟩ := ih next (before ++ [(name, file)]) (count + 1)
        refine ⟨(name, file) :: recorded, List.cons_prefix_cons.mpr ⟨rfl, hstart⟩, ?_, fun total htotal ↦ ?_⟩
        · have hstep : sink.recording.write (state, before) name file =
              .ok ((next, before ++ [(name, file)]), notes) := by
            simp only [recording, hwrite]
            rfl
          simp only [hstep, hsame, List.append_assoc, List.singleton_append]
        · rw [hall total htotal]

theorem written_isPrefix (sink : Sink σ) (state : σ) (files : FileSet) :
    sink.written state files <+: writable files.entries := by
  obtain ⟨recorded, hstart, hsame, -⟩ := exists_recorded sink state [] 0 files.entries
  rwa [written, emit, hsame]

theorem written_of_result_eq_ok {sink : Sink σ} {state : σ} {files : FileSet} {count : Nat}
    (h : (sink.emit state files).2.result = .ok count) :
    sink.written state files = writable files.entries := by
  obtain ⟨recorded, -, hsame, hall⟩ := exists_recorded sink state [] 0 files.entries
  rw [written, emit, hsame, ← hall count h, List.nil_append]

end Sink

/-! ## References -/

/-- Every file refers to files before it or to known ones. -/
def RefersBack : List String → Entries SourceFile → Prop
  | _, [] => True
  | known, (name, file) :: rest =>
    (∀ reference ∈ file.references, reference ∈ known) ∧ RefersBack (known ++ [name]) rest

theorem RefersBack.append {known : List String} {front back : Entries SourceFile}
    (hfront : RefersBack known front) (hback : RefersBack (known ++ front.keys) back) :
    RefersBack known (front ++ back) := by
  induction front generalizing known with
  | nil => simpa [Entries.keys] using hback
  | cons entry rest ih =>
    refine ⟨hfront.1, ih hfront.2 ?_⟩
    rwa [List.append_assoc]

theorem RefersBack.of_forall {known : List String} {entries : Entries SourceFile}
    (h : ∀ name file, (name, file) ∈ entries → ∀ reference ∈ file.references, reference ∈ known) :
    RefersBack known entries := by
  induction entries generalizing known with
  | nil => trivial
  | cons entry rest ih =>
    refine ⟨h _ _ List.mem_cons_self, ih fun name file hfile reference hreference ↦ ?_⟩
    exact List.mem_append_left _ (h name file (List.mem_cons_of_mem _ hfile) reference hreference)

/-- A reference is known, or it is to one of the files, which is in the record unless it cannot be written. -/
def AccountedFor (known : List String) (entries recorded : Entries SourceFile) (reference : String) : Prop :=
  reference ∈ known ∨ ∃ target, (reference, target) ∈ entries ∧
    (target.fault? reference = none → (reference, target) ∈ recorded)

/-- What the first file makes known is accounted for by that file. -/
theorem AccountedFor.cons {known : List String} {rest recorded recorded' : Entries SourceFile}
    {first reference : String} {target : SourceFile}
    (h : AccountedFor (known ++ [first]) rest recorded reference) (hsubset : recorded ⊆ recorded')
    (hfirst : target.fault? first = none → (first, target) ∈ recorded') :
    AccountedFor known ((first, target) :: rest) recorded' reference := by
  rcases h with hknown | ⟨later, hlater, hwritten⟩
  · rcases List.mem_append.mp hknown with hknown | hname
    · exact .inl hknown
    · rw [List.mem_singleton.mp hname]
      exact .inr ⟨target, List.mem_cons_self, hfirst⟩
  · exact .inr ⟨later, List.mem_cons_of_mem _ hlater, fun hnone ↦ hsubset (hwritten hnone)⟩

/-- Every reference of a file in the record is accounted for. -/
theorem RefersBack.accountedFor {known : List String} {entries recorded : Entries SourceFile}
    (h : RefersBack known entries) (hrecorded : recorded <+: writable entries) {name : String}
    {file : SourceFile} (hfile : (name, file) ∈ recorded) {reference : String}
    (hreference : reference ∈ file.references) : AccountedFor known entries recorded reference := by
  induction entries generalizing known recorded with
  | nil =>
    rw [List.prefix_nil.mp hrecorded] at hfile
    cases hfile
  | cons entry rest ih =>
    obtain ⟨first, target⟩ := entry
    obtain ⟨hhead, hrest⟩ := h
    rw [Sink.writable_cons] at hrecorded
    split at hrecorded
    · rcases List.prefix_cons_iff.mp hrecorded with rfl | ⟨later, rfl, hlater⟩
      · cases hfile
      · rcases List.mem_cons.mp hfile with heq | hfile
        · cases heq
          exact .inl (hhead reference hreference)
        · exact (ih hrest hlater hfile).cons (List.subset_cons_self _ _) fun _ ↦ List.mem_cons_self
    · next hfault => exact (ih hrest hrecorded hfile).cons (List.Subset.refl _) fun hnone ↦ absurd hnone hfault

end SourceGen
