import SourceGen.Emit.Fill
import SourceGen.Proofs.OrderedMap
import SourceGen.Proofs.Template.Spelling

/-!
# Templates that can always be filled

A template read line by line can be read as a whole, because no placeholder goes on behind the end of its
line. Cutting lines and dropping those of a single marker brings in no slot. So a source each line of
which can be read, with slots of given names only, is filled by any values under those names.
-/

namespace SourceGen.Template

variable {ε : Type}

/-! ## Reading line by line -/

/-- A text reads as a template whose slots all bear one of the given names. -/
def ReadsWithin (names : List String) (cs : List Char) : Prop :=
  ∃ pieces, readPieces .text cs = .ok pieces ∧ ∀ name, .slot name ∈ pieces → name ∈ names

theorem ReadsWithin.append_newline {names : List String} {cs rest : List Char}
    (hcs : ReadsWithin names cs) (hrest : ReadsWithin names rest) :
    ReadsWithin names (cs ++ '\n' :: rest) := by
  obtain ⟨pieces, hpieces, hnames⟩ := hcs
  obtain ⟨later, hlater, hnames'⟩ := hrest
  have hspells := (readPieces_eq_ok_iff.mp hpieces).append_newline (readPieces_eq_ok_iff.mp hlater)
  refine ⟨pieces ++ .char '\n' :: later, hspells.readPieces, fun name hname ↦ ?_⟩
  simp only [List.mem_append, List.mem_cons, reduceCtorEq, false_or] at hname
  exact hname.elim (hnames name) (hnames' name)

/-- Lines that read one by one read when they are joined. -/
theorem ReadsWithin.join_newline {names lines : List String}
    (h : ∀ line ∈ lines, ReadsWithin names line.toList) :
    ReadsWithin names (Text.join "\n" lines).toList := by
  induction lines with
  | nil => exact ⟨[], rfl, by simp⟩
  | cons line rest ih =>
    have hline := h line List.mem_cons_self
    have hrest := ih fun other hother ↦ h other (List.mem_cons_of_mem line hother)
    cases rest with
    | nil => simpa only [Text.join, String.intercalate_singleton] using hline
    | cons next rest =>
      have hjoin : (Text.join "\n" (line :: next :: rest)).toList =
          line.toList ++ '\n' :: (Text.join "\n" (next :: rest)).toList := by
        simp [Text.join]
      rw [hjoin]
      exact hline.append_newline hrest

/-! ## Slots of the lines -/

theorem flatten_cutLines (pieces : List Piece) : (cutLines pieces).flatten = pieces := by
  induction pieces with
  | nil => rfl
  | cons piece rest ih =>
    rw [cutLines]
    split
    · rw [List.flatten_cons, ih, List.singleton_append]
    · cases hlines : cutLines rest with
      | nil =>
        rw [hlines] at ih
        rw [← ih]
        rfl
      | cons line more =>
        rw [hlines, List.flatten_cons] at ih
        simp only [List.flatten_cons, List.cons_append, ih]

theorem mem_of_mem_tidyLine {piece : Piece} {line : List Piece} (h : piece ∈ tidyLine line) :
    piece ∈ line := by
  rw [tidyLine] at h
  split at h
  · exact (List.mem_filter.mp h).1
  · exact h

theorem mem_slotNames {name : String} {pieces : List Piece} :
    name ∈ slotNames pieces ↔ .slot name ∈ pieces := by
  rw [slotNames, mem_distinct, List.mem_filterMap]
  constructor
  · rintro ⟨piece, hpiece, hname⟩
    cases piece with
    | slot other =>
      obtain rfl : other = name := by simpa using hname
      exact hpiece
    | char c => cases hname
    | marker other => cases hname
  · exact fun h ↦ ⟨_, h, rfl⟩

/-- Reading a source finds only slots that its text has. -/
theorem ReadsWithin.readSource {names : List String} {source : String}
    (h : ReadsWithin names source.toList) :
    ∃ pieces, readSource source = .ok pieces ∧ ∀ name ∈ slotNames pieces, name ∈ names := by
  obtain ⟨pieces, hpieces, hnames⟩ := h
  refine ⟨(cutLines pieces).flatMap tidyLine, by rw [Template.readSource, hpieces]; rfl,
    fun name hname ↦ hnames name ?_⟩
  rw [mem_slotNames] at hname
  obtain ⟨line, hline, htidy⟩ := List.mem_flatMap.mp hname
  rw [← flatten_cutLines pieces]
  exact List.mem_flatten.mpr ⟨line, hline, mem_of_mem_tidyLine htidy⟩

/-! ## Binding and rendering -/

theorem ofSource_of_slotNames {source : String} {pieces : List Piece}
    {handlers : Entries (Except ε String)} (hread : readSource source = .ok pieces)
    (hnames : ∀ name ∈ slotNames pieces, name ∈ handlers.keys) :
    ∃ template, ofSource source handlers = .ok template ∧
      template.handlers = OrderedMap.ofEntries handlers := by
  have hhandled : ∀ name ∈ slotNames pieces, ((OrderedMap.ofEntries handlers).get? name).isSome :=
    fun name hname ↦
      Entries.isSome_get?_iff.mpr (OrderedMap.mem_keys_ofEntries.mpr (hnames name hname))
  exact ⟨⟨pieces, _, hhandled⟩, by simp only [ofSource, hread, dif_pos hhandled], rfl⟩

theorem evaluate_of_answers {answer : String → Except ε String} {names : List String}
    (h : ∀ name ∈ names, ∃ text, answer name = .ok text) :
    ∃ values, (evaluate answer names).values = .ok values := by
  induction names with
  | nil => exact ⟨[], rfl⟩
  | cons name rest ih =>
    obtain ⟨text, htext⟩ := h name List.mem_cons_self
    obtain ⟨values, hvalues⟩ := ih fun other hother ↦ h other (List.mem_cons_of_mem name hother)
    exact ⟨(name, text) :: values, by simp only [evaluate, htext, hvalues]; rfl⟩

/-- Rendering succeeds where no handler fails. -/
theorem render_of_handlers {template : Template ε}
    (h : ∀ entry ∈ template.handlers.entries, ∃ text, entry.2 = .ok text) :
    ∃ text, template.render = .ok text := by
  have hanswer : ∀ name, ∃ text, template.answer name = .ok text := by
    intro name
    rw [answer]
    cases hget : template.handlers.get? name with
    | none => exact ⟨"", rfl⟩
    | some outcome => exact h _ (Entries.mem_of_get?_eq_some hget)
  have hevaluate : ∃ values, template.evaluation.values = .ok values :=
    evaluate_of_answers fun name _ ↦ hanswer name
  obtain ⟨values, hvalues⟩ := hevaluate
  exact ⟨_, by rw [render, hvalues]; rfl⟩

/-- Texts under the names of all slots make a template that renders. -/
theorem exists_template_of_texts {source : String} {values : Entries String} {pieces : List Piece}
    (hread : readSource source = .ok pieces) (hnames : ∀ name ∈ slotNames pieces, name ∈ values.keys) :
    ∃ (template : Template GenError) (text : String),
      ofSource source (values.map fun entry ↦ (entry.1, .ok entry.2)) = .ok template ∧
        template.handlers = OrderedMap.ofEntries (values.map fun entry ↦ (entry.1, .ok entry.2)) ∧
          template.render = .ok text := by
  have hkeys : Entries.keys
      (values.map fun entry ↦ (entry.1, (.ok entry.2 : Except GenError String))) = values.keys := by
    simp [Entries.keys, Function.comp_def]
  obtain ⟨template, hsource, hhandlers⟩ := ofSource_of_slotNames hread (hkeys ▸ hnames)
  have htexts : ∀ entry ∈ template.handlers.entries, ∃ text, entry.2 = .ok text := by
    intro entry hentry
    rw [hhandlers] at hentry
    have hmem := OrderedMap.mem_of_get?_ofEntries (OrderedMap.get?_eq_some_iff.mpr hentry)
    obtain ⟨value, _, hvalue⟩ := List.mem_map.mp hmem
    exact ⟨value.2, (Prod.mk.inj hvalue).2.symm⟩
  obtain ⟨text, htext⟩ := render_of_handlers htexts
  exact ⟨template, text, hsource, hhandlers, htext⟩

/-- Texts under all names that the lines of a source use fill it. -/
theorem fill_of_readsWithin {source : List String} {values : Entries String}
    (h : ∀ line ∈ source, ReadsWithin values.keys line.toList) :
    ∃ text, Emit.fill source values = .ok text := by
  obtain ⟨pieces, hread, hnames⟩ := (ReadsWithin.join_newline h).readSource
  obtain ⟨template, text, hsource, -, htext⟩ := exists_template_of_texts hread hnames
  exact ⟨text, by simp only [Emit.fill, hsource, htext]⟩

/-! ## Deciding for given lines -/

/-- A source is read by the characters of its lines. -/
theorem readSource_join (lines : List String) :
    readSource (Text.join "\n" lines) = (fun pieces ↦ (cutLines pieces).flatMap tidyLine) <$>
      readPieces .text (['\n'].intercalate (lines.map String.toList)) := by
  rw [readSource, Text.join, String.toList_intercalate]
  rfl

/-- Whether a text reads as a template with slots of given names only. -/
def readsWithin (names : List String) (cs : List Char) : Bool :=
  match readPieces .text cs with
  | .error _ => false
  | .ok pieces => pieces.all fun
    | .slot name => decide (name ∈ names)
    | _ => true

theorem ReadsWithin.of_readsWithin {names : List String} {cs : List Char}
    (h : readsWithin names cs = true) : ReadsWithin names (String.ofList cs).toList := by
  rw [String.toList_ofList]
  rw [readsWithin] at h
  split at h
  · cases h
  · next pieces hpieces =>
    exact ⟨pieces, hpieces, fun name hname ↦ by simpa using List.all_eq_true.mp h _ hname⟩

/-- The lines of a source are checked one after the other, each by the characters it is made of. -/
theorem ReadsWithin.forall_cons {names rest : List String} {cs : List Char}
    (h : readsWithin names cs = true) (hrest : ∀ line ∈ rest, ReadsWithin names line.toList) :
    ∀ line ∈ String.ofList cs :: rest, ReadsWithin names line.toList :=
  List.forall_mem_cons.mpr ⟨.of_readsWithin h, hrest⟩

end SourceGen.Template
