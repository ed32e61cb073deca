import Mathlib.Data.List.Forall2
import SourceGen.Proofs.Template.Filling
import SourceGen.Proofs.Template.Spelling

/-!
# What a template stands for

A source is read from left to right: `$$` and a lone dollar sign give a dollar sign, a slot gives the text
of its handler, a marker nothing, every other character itself. A line of blanks around one marker gives
nothing at all. Rendering an accepted template gives exactly this reading, for the pieces of a source are
the pieces of its lines, and the pieces of a line tell whether it is a marker's.
-/

namespace SourceGen.Template

open Text

variable {ε : Type}

/-! ## The reading of a source -/

/-- Reading a text from left to right, with the answers of handlers. -/
inductive ReadsAs (handlers : OrderedMap (Except ε String)) : List Char → List Char → Prop where
  | done : ReadsAs handlers [] []
  | plain {c : Char} {rest text : List Char} (hc : c ≠ '$') (h : ReadsAs handlers rest text) :
    ReadsAs handlers (c :: rest) (c :: text)
  | escape {rest text : List Char} (h : ReadsAs handlers rest text) :
    ReadsAs handlers ('$' :: '$' :: rest) ('$' :: text)
  | lone {rest text : List Char} (hnext : ∀ c ∈ rest.head?, c ≠ '$' ∧ c ≠ '{')
    (h : ReadsAs handlers rest text) : ReadsAs handlers ('$' :: rest) ('$' :: text)
  | slot {name value : String} {rest text : List Char} (hname : isIdentifier name = true)
    (hvalue : handlers.get? name = some (.ok value)) (h : ReadsAs handlers rest text) :
    ReadsAs handlers ('$' :: '{' :: (name.toList ++ '}' :: rest)) (value.toList ++ text)
  | marker {name : String} {rest text : List Char} (hname : isIdentifier name = true)
    (h : ReadsAs handlers rest text) :
    ReadsAs handlers ('$' :: '{' :: '#' :: (name.toList ++ '}' :: rest)) text

/-- Cuts a source into lines, each with the break that ends it. -/
def sourceLines : List Char → List (List Char)
  | [] => []
  | c :: rest =>
    if c = '\n' then [c] :: sourceLines rest
    else match sourceLines rest with
      | [] => [[c]]
      | line :: more => (c :: line) :: more

/-- A line that holds one marker and otherwise only blanks, its break among them. -/
def IsMarkerLine (line : List Char) : Prop :=
  ∃ before name after, Blank before ∧ Blank after ∧ isIdentifier name = true ∧
    line = before ++ '$' :: '{' :: '#' :: (name.toList ++ '}' :: after)

/-- Reading lines one by one, those of a marker left out. -/
inductive LinesReadAs (handlers : OrderedMap (Except ε String)) :
    List (List Char) → List Char → Prop where
  | done : LinesReadAs handlers [] []
  | dropped {line : List Char} {rest : List (List Char)} {text : List Char}
    (hline : IsMarkerLine line) (h : LinesReadAs handlers rest text) :
    LinesReadAs handlers (line :: rest) text
  | kept {line : List Char} {rest : List (List Char)} {front text : List Char}
    (hline : ¬ IsMarkerLine line) (hfront : ReadsAs handlers line front)
    (h : LinesReadAs handlers rest text) : LinesReadAs handlers (line :: rest) (front ++ text)

/-! ## Reading and filling -/

/-- Values that are the answers of the handlers, for all slots among the pieces. -/
def Answered (handlers : OrderedMap (Except ε String)) (values : Entries String)
    (pieces : List Piece) : Prop :=
  ∀ name, .slot name ∈ pieces →
    ∃ text, handlers.get? name = some (.ok text) ∧ values.get? name = some text

section Filling

variable {handlers : OrderedMap (Except ε String)} {values : Entries String} {cs text : List Char}
  {pieces : List Piece}

theorem Answered.tail {piece : Piece} (h : Answered handlers values (piece :: pieces)) :
    Answered handlers values pieces :=
  fun name hname ↦ h name (List.mem_cons_of_mem piece hname)

theorem Spells.readsAs (h : Spells cs pieces) (hanswered : Answered handlers values pieces) :
    ReadsAs handlers cs (pieces.flatMap (·.fill values)) := by
  induction h with
  | done => exact .done
  | plain hc _ ih => exact .plain hc (ih hanswered.tail)
  | escape _ ih => exact .escape (ih hanswered.tail)
  | lone hnext _ ih => exact .lone hnext (ih hanswered.tail)
  | placeholder hpiece _ ih =>
    obtain ⟨name, hname, ⟨rfl, rfl⟩ | ⟨rfl, rfl⟩⟩ := placeholder_eq_some_iff.mp hpiece
    · obtain ⟨value, hhandler, hvalue⟩ := hanswered name List.mem_cons_self
      rw [List.flatMap_cons, Piece.fill, hvalue]
      exact .slot hname hhandler (ih hanswered.tail)
    · exact .marker hname (ih hanswered.tail)

/-- A text that is read is spelled by pieces, and the values filled into them give the reading. -/
theorem ReadsAs.exists_spells (h : ReadsAs handlers cs text) :
    ∃ pieces, Spells cs pieces ∧
      (Answered handlers values pieces → text = pieces.flatMap (·.fill values)) := by
  induction h with
  | done => exact ⟨[], .done, fun _ ↦ rfl⟩
  | plain hc _ ih =>
    obtain ⟨pieces, hpieces, hfill⟩ := ih
    exact ⟨_, .plain hc hpieces, fun h ↦ congrArg _ (hfill h.tail)⟩
  | escape _ ih =>
    obtain ⟨pieces, hpieces, hfill⟩ := ih
    exact ⟨_, .escape hpieces, fun h ↦ congrArg _ (hfill h.tail)⟩
  | lone hnext _ ih =>
    obtain ⟨pieces, hpieces, hfill⟩ := ih
    exact ⟨_, .lone hnext hpieces, fun h ↦ congrArg _ (hfill h.tail)⟩
  | @slot name value _ _ hname hvalue _ ih =>
    obtain ⟨pieces, hpieces, hfill⟩ := ih
    have hpiece := placeholder_eq_some_iff.mpr ⟨name, hname, .inl ⟨rfl, rfl⟩⟩
    refine ⟨_, .placeholder hpiece hpieces, fun h ↦ ?_⟩
    obtain ⟨value', hhandler, hvalue'⟩ := h name List.mem_cons_self
    obtain rfl : value = value' := by simpa [hvalue] using hhandler
    rw [List.flatMap_cons, Piece.fill, hvalue', hfill h.tail]
    rfl
  | @marker name _ _ hname _ ih =>
    obtain ⟨pieces, hpieces, hfill⟩ := ih
    have hpiece := placeholder_eq_some_iff.mpr ⟨name, hname, .inr ⟨rfl, rfl⟩⟩
    exact ⟨_, .placeholder hpiece hpieces, fun h ↦ hfill h.tail⟩

theorem readsAs_iff (h : Spells cs pieces) (hanswered : Answered handlers values pieces) :
    ReadsAs handlers cs text ↔ text = pieces.flatMap (·.fill values) := by
  constructor
  · intro hreads
    obtain ⟨pieces', hpieces, hfill⟩ := hreads.exists_spells
    obtain rfl := h.unique hpieces
    exact hfill hanswered
  · rintro rfl
    exact h.readsAs hanswered

end Filling

/-! ## Lines of a marker -/

@[simp] theorem isBlank_char {c : Char} : (Piece.char c).isBlank = Text.isBlank c := rfl

theorem countP_isMarker_chars (cs : List Char) : (cs.map Piece.char).countP Piece.isMarker = 0 := by
  induction cs with
  | nil => rfl
  | cons c rest ih => exact ih

theorem exists_blank_of_countP_eq_zero {line : List Piece}
    (hall : ∀ piece ∈ line, piece.isBlank = true ∨ piece.isMarker = true)
    (hcount : line.countP Piece.isMarker = 0) : ∃ cs, Blank cs ∧ line = cs.map .char := by
  induction line with
  | nil => exact ⟨[], blank_nil, rfl⟩
  | cons piece rest ih =>
    obtain ⟨hpiece, hrest⟩ := List.forall_mem_cons.mp hall
    rw [List.countP_cons] at hcount
    obtain ⟨cs, hblank, rfl⟩ := ih hrest (by omega)
    cases piece with
    | char c => exact ⟨c :: cs, by simpa [hblank, Piece.isMarker] using hpiece, rfl⟩
    | slot name => simp [Piece.isBlank, Piece.isMarker] at hpiece
    | marker name => simp [Piece.isMarker] at hcount

theorem isMarkerLine_iff_pieces {line : List Piece} :
    isMarkerLine line = true ↔ ∃ before name after, Blank before ∧ Blank after ∧
      line = before.map .char ++ .marker name :: after.map .char := by
  rw [isMarkerLine, Bool.and_eq_true, List.all_eq_true, beq_iff_eq]
  simp only [Bool.or_eq_true]
  constructor
  · rintro ⟨hall, hcount⟩
    induction line with
    | nil => cases hcount
    | cons piece rest ih =>
      obtain ⟨hpiece, hrest⟩ := List.forall_mem_cons.mp hall
      cases piece with
      | char c =>
        obtain ⟨before, name, after, hbefore, hafter, rfl⟩ := ih hrest hcount
        exact ⟨c :: before, name, after, by simpa [hbefore, Piece.isMarker] using hpiece, hafter, rfl⟩
      | slot name => simp [Piece.isBlank, Piece.isMarker] at hpiece
      | marker name =>
        have hnone : rest.countP Piece.isMarker = 0 := by
          rw [List.countP_cons_of_pos rfl] at hcount
          omega
        obtain ⟨after, hafter, rfl⟩ := exists_blank_of_countP_eq_zero hrest hnone
        exact ⟨[], name, after, blank_nil, hafter, rfl⟩
  · rintro ⟨before, name, after, hbefore, hafter, rfl⟩
    constructor
    · intro piece hpiece
      simp only [List.mem_append, List.mem_cons, List.mem_map] at hpiece
      rcases hpiece with ⟨c, hc, rfl⟩ | rfl | ⟨c, hc, rfl⟩
      · exact .inl (hbefore c hc)
      · exact .inr rfl
      · exact .inl (hafter c hc)
    · rw [List.countP_append, List.countP_cons, countP_isMarker_chars, countP_isMarker_chars]
      rfl

/-- The pieces of a line tell whether it is the line of a marker. -/
theorem isMarkerLine_iff {line : List Char} {pieces : List Piece} (h : Spells line pieces) :
    isMarkerLine pieces = true ↔ IsMarkerLine line := by
  rw [isMarkerLine_iff_pieces]
  constructor
  · rintro ⟨before, name, after, hbefore, hafter, rfl⟩
    obtain ⟨rest, rfl, hrest⟩ := h.exists_of_blank hbefore
    obtain ⟨hname, tail, rfl, htail⟩ := hrest.exists_of_marker
    rw [← List.append_nil (after.map Piece.char)] at htail
    obtain ⟨last, rfl, hlast⟩ := htail.exists_of_blank hafter
    cases hlast
    exact ⟨before, name, after, hbefore, hafter, hname, by rw [List.append_nil]⟩
  · rintro ⟨before, name, after, hbefore, hafter, hname, rfl⟩
    have hpiece := placeholder_eq_some_iff.mpr ⟨name, hname, .inr ⟨rfl, rfl⟩⟩
    have hafter' : Spells after (after.map .char) := by simpa using Spells.done.of_blank hafter
    have hspells := Spells.of_blank hbefore (.placeholder hpiece hafter')
    exact ⟨before, name, after, hbefore, hafter, h.unique hspells⟩

/-! ## Lines and pieces -/

/-- Puts something in front of the first line. -/
def prependToFirst {α : Type} (front : List α) : List (List α) → List (List α)
  | [] => [front]
  | line :: more => (front ++ line) :: more

theorem sourceLines_cons {c : Char} (hc : c ≠ '\n') (rest : List Char) :
    sourceLines (c :: rest) = prependToFirst [c] (sourceLines rest) := by
  rw [sourceLines, if_neg hc]
  cases sourceLines rest <;> rfl

theorem sourceLines_append {c : Char} {front : List Char} (hc : c ≠ '\n') (hfront : '\n' ∉ front)
    (rest : List Char) :
    sourceLines (c :: front ++ rest) = prependToFirst (c :: front) (sourceLines rest) := by
  induction front generalizing c with
  | nil => exact sourceLines_cons hc rest
  | cons d more ih =>
    rw [List.mem_cons, not_or] at hfront
    obtain ⟨hd, hmore⟩ := hfront
    rw [List.cons_append, sourceLines_cons hc, ih (Ne.symm hd) hmore]
    cases sourceLines rest <;> rfl

theorem cutLines_cons {piece : Piece} (h : piece ≠ .char '\n') (rest : List Piece) :
    cutLines (piece :: rest) = prependToFirst [piece] (cutLines rest) := by
  rw [cutLines, if_neg h]
  cases cutLines rest <;> rfl

theorem head?_headD_sourceLines (cs : List Char) : ((sourceLines cs).headD []).head? = cs.head? := by
  cases cs with
  | nil => rfl
  | cons c rest =>
    rw [sourceLines]
    split
    · rfl
    · split <;> rfl

theorem forall₂_prependToFirst {front : List Char} {piece : Piece} {lines : List (List Char)}
    {pieceLines : List (List Piece)} (h : List.Forall₂ Spells lines pieceLines)
    (hfirst : ∀ pieces, Spells (lines.headD []) pieces →
      Spells (front ++ lines.headD []) (piece :: pieces)) :
    List.Forall₂ Spells (prependToFirst front lines) (prependToFirst [piece] pieceLines) := by
  cases h with
  | nil => exact .cons (by simpa using hfirst [] .done) .nil
  | cons hline hrest => exact .cons (hfirst _ hline) hrest

/-- The lines of a source spell the lines of its pieces. -/
theorem Spells.lines {cs : List Char} {pieces : List Piece} (h : Spells cs pieces) :
    List.Forall₂ Spells (sourceLines cs) (cutLines pieces) := by
  induction h with
  | done => exact .nil
  | @plain c rest pieces hc _ ih =>
    by_cases hbreak : c = '\n'
    · subst hbreak
      exact .cons (.plain hc .done) ih
    · rw [sourceLines_cons hbreak, cutLines_cons (by simpa using hbreak)]
      exact forall₂_prependToFirst ih fun _ ↦ .plain hc
  | @escape rest _ _ ih =>
    have hlines := sourceLines_append (by decide : '$' ≠ '\n') (by decide : '\n' ∉ ['$']) rest
    rw [List.cons_append, List.singleton_append] at hlines
    rw [hlines, cutLines_cons (by decide)]
    exact forall₂_prependToFirst ih fun _ ↦ .escape
  | lone hnext _ ih =>
    rw [sourceLines_cons (by decide), cutLines_cons (by decide)]
    -- What follows the dollar sign follows it in its own line.
    rw [← head?_headD_sourceLines] at hnext
    exact forall₂_prependToFirst ih fun _ ↦ .lone hnext
  | @placeholder written rest piece pieces hpiece _ ih =>
    -- A name has no line break in it, so the placeholder stays within one line.
    have hbreak : '\n' ∉ '{' :: (written ++ ['}']) := by
      simp [not_mem_of_placeholder hpiece (c := '\n') (by decide) (by decide)]
    have hchar : piece ≠ .char '\n' := by
      rintro rfl
      simp [placeholder_eq_some_iff] at hpiece
    have hlines := sourceLines_append (by decide : '$' ≠ '\n') hbreak rest
    simp only [List.cons_append, List.append_assoc, List.nil_append] at hlines
    rw [hlines, cutLines_cons hchar]
    refine forall₂_prependToFirst ih fun pieces hpieces ↦ ?_
    simpa using Spells.placeholder hpiece hpieces

theorem tidyLine_of_isMarkerLine {line : List Piece} (h : isMarkerLine line = true)
    (values : Entries String) : (tidyLine line).flatMap (·.fill values) = [] := by
  rw [tidyLine, if_pos h, List.flatMap_eq_nil_iff]
  intro piece hpiece
  cases piece with
  | marker name => rfl
  | char c => simp [Piece.isMarker] at hpiece
  | slot name => simp [Piece.isMarker] at hpiece

/-- Lines read as what is filled into their pieces, once these are rid of the lines of a marker. -/
theorem linesReadAs_iff {handlers : OrderedMap (Except ε String)} {values : Entries String}
    {lines : List (List Char)} {pieceLines : List (List Piece)} {text : List Char}
    (h : List.Forall₂ Spells lines pieceLines)
    (hanswered : Answered handlers values (pieceLines.flatMap tidyLine)) :
    LinesReadAs handlers lines text ↔
      text = (pieceLines.flatMap tidyLine).flatMap (·.fill values) := by
  induction h generalizing text with
  | nil =>
    constructor
    · intro hreads
      cases hreads
      rfl
    · rintro rfl
      exact .done
  | @cons line pieces lines pieceLines hline _ ih =>
    rw [List.flatMap_cons] at hanswered
    have hrest : Answered handlers values (pieceLines.flatMap tidyLine) :=
      fun name hname ↦ hanswered name (List.mem_append_right _ hname)
    rw [List.flatMap_cons, List.flatMap_append]
    by_cases hmark : isMarkerLine pieces = true
    · have hdropped := (isMarkerLine_iff hline).mp hmark
      rw [tidyLine_of_isMarkerLine hmark, List.nil_append, ← ih hrest]
      constructor
      · intro hreads
        cases hreads with
        | dropped _ hmore => exact hmore
        | kept hkept _ _ => exact absurd hdropped hkept
      · exact .dropped hdropped
    · have hkept := mt (isMarkerLine_iff hline).mpr hmark
      have htidy : tidyLine pieces = pieces := if_neg hmark
      have hfront : Answered handlers values pieces :=
        fun name hname ↦ hanswered name (List.mem_append_left _ (htidy.symm ▸ hname))
      rw [htidy]
      constructor
      · intro hreads
        cases hreads with
        | dropped hdropped _ => exact absurd hdropped hkept
        | kept _ hreadsFront hmore =>
          rw [(readsAs_iff hline hfront).mp hreadsFront, (ih hrest).mp hmore]
      · rintro rfl
        exact .kept hkept (hline.readsAs hfront) ((ih hrest).mpr rfl)

/-! ## Rendering -/

theorem ofSource_eq_ok {source : String} {handlers : Entries (Except ε String)}
    {template : Template ε} (h : ofSource source handlers = .ok template) :
    readSource source = .ok template.pieces ∧ template.handlers = OrderedMap.ofEntries handlers := by
  unfold ofSource at h
  split at h
  · cases h
  · next pieces hread =>
    dsimp only at h
    split at h
    · cases h
      exact ⟨hread, rfl⟩
    · cases h

theorem get?_of_evaluate {answer : String → Except ε String} {names : List String}
    {values : Entries String} (h : (evaluate answer names).values = .ok values) :
    ∀ name ∈ names, ∃ text, answer name = .ok text ∧ values.get? name = some text := by
  induction names generalizing values with
  | nil => exact fun _ hname ↦ absurd hname List.not_mem_nil
  | cons first rest ih =>
    unfold evaluate at h
    split at h
    · cases h
    · next text htext =>
      obtain ⟨later, hlater, rfl⟩ := map_eq_ok.mp h
      intro name hname
      rw [Entries.get?_cons]
      by_cases hfirst : first = name
      · subst hfirst
        exact ⟨text, htext, if_pos rfl⟩
      · rw [if_neg hfirst]
        exact ih hlater name ((List.mem_cons.mp hname).resolve_left (Ne.symm hfirst))

/-- After an evaluation every slot has its handler's answer for a value. -/
theorem answered_of_evaluation {template : Template ε} {values : Entries String}
    (h : template.evaluation.values = .ok values) :
    Answered template.handlers values template.pieces := by
  intro name hname
  have hslot := mem_slotNames.mpr hname
  have horder : name ∈ template.evaluationOrder := by
    simp [evaluationOrder, placeholders, hslot]
  obtain ⟨text, hanswer, hvalue⟩ := get?_of_evaluate h name horder
  obtain ⟨outcome, houtcome⟩ := Option.isSome_iff_exists.mp (template.handled name hslot)
  rw [answer, houtcome, Option.getD_some] at hanswer
  exact ⟨text, hanswer ▸ houtcome, hvalue⟩

/-- What a template renders to is the one reading of its source. -/
theorem render_eq_ok_iff {source : String} {handlers : Entries (Except ε String)}
    {template : Template ε} (haccepted : ofSource source handlers = .ok template) {text : String}
    (hrender : template.render = .ok text) {reading : List Char} :
    LinesReadAs (OrderedMap.ofEntries handlers) (sourceLines source.toList) reading ↔
      reading = text.toList := by
  obtain ⟨hread, hhandlers⟩ := ofSource_eq_ok haccepted
  obtain ⟨values, hvalues, rfl⟩ := map_eq_ok.mp hrender
  obtain ⟨pieces, hpieces, hlines⟩ := map_eq_ok.mp hread
  have hanswered := answered_of_evaluation hvalues
  rw [hhandlers, ← hlines] at hanswered
  rw [String.toList_ofList, ← hlines]
  exact linesReadAs_iff (readPieces_eq_ok_iff.mp hpieces).lines hanswered

/-- Lines whose pieces are known are filled piece by piece. -/
theorem fill_eq_ok {source : List String} {values : Entries String} {pieces : List Piece}
    (hread : readSource (join "\n" source) = .ok pieces) (hnodup : values.keys.Nodup)
    (hslots : ∀ name ∈ slotNames pieces, name ∈ values.keys) :
    Emit.fill source values = .ok (String.ofList (pieces.flatMap (·.fill values))) := by
  obtain ⟨template, text, hsource, hhandlers, hrender⟩ := exists_template_of_texts hread hslots
  obtain ⟨answers, hanswers, rfl⟩ := map_eq_ok.mp hrender
  have hpieces : template.pieces = pieces := Except.ok.inj ((ofSource_eq_ok hsource).1.symm.trans hread)
  have hgiven : ∀ name text, template.handlers.get? name = some (.ok text) →
      values.get? name = some text := by
    intro name text hget
    rw [hhandlers] at hget
    obtain ⟨entry, hentry, heq⟩ := List.mem_map.mp (OrderedMap.mem_of_get?_ofEntries hget)
    cases heq
    exact Entries.get?_eq_some_of_mem hnodup hentry
  have hfill : ∀ piece ∈ template.pieces, piece.fill answers = piece.fill values := by
    intro piece hpiece
    cases piece with
    | slot name =>
      obtain ⟨text, hhandler, hanswer⟩ := answered_of_evaluation hanswers name hpiece
      rw [Piece.fill, Piece.fill, hanswer, hgiven name text hhandler]
    | _ => rfl
  rw [Emit.fill, hsource, ← hpieces]
  dsimp only
  rw [hrender, List.flatMap_def, List.map_congr_left hfill, List.flatMap_def]

/-! ## Text without placeholders -/

/-- The text with every dollar sign doubled. -/
def escapeDollars (text : String) : String :=
  substituteChars (fun c ↦ if c = '$' then ['$', '$'] else [c]) text

theorem spells_escaped (cs : List Char) :
    Spells (cs.flatMap fun c ↦ if c = '$' then ['$', '$'] else [c]) (cs.map .char) := by
  induction cs with
  | nil => exact .done
  | cons c rest ih =>
    rw [List.flatMap_cons]
    by_cases hc : c = '$'
    · subst hc
      exact .escape ih
    · rw [if_neg hc]
      exact .plain hc ih

theorem tidyLine_of_not_isMarker {line : List Piece} (h : ∀ piece ∈ line, piece.isMarker = false) :
    tidyLine line = line := by
  have hcount : line.countP Piece.isMarker = 0 := List.countP_eq_zero.mpr (by simpa using h)
  simp [tidyLine, isMarkerLine, hcount]

theorem readSource_escapeDollars (text : String) :
    readSource (escapeDollars text) = .ok (text.toList.map .char) := by
  have hpieces : readPieces .text (escapeDollars text).toList = .ok (text.toList.map .char) := by
    rw [escapeDollars, substituteChars, String.toList_ofList]
    exact (spells_escaped text.toList).readPieces
  have htidy : ∀ line ∈ cutLines (text.toList.map .char), tidyLine line = id line := by
    intro line hline
    refine tidyLine_of_not_isMarker fun piece hpiece ↦ ?_
    have hmem : piece ∈ text.toList.map .char := by
      rw [← flatten_cutLines (text.toList.map .char)]
      exact List.mem_flatten.mpr ⟨line, hline, hpiece⟩
    obtain ⟨c, -, rfl⟩ := List.mem_map.mp hmem
    rfl
  have hlines : (cutLines (text.toList.map .char)).flatMap tidyLine = text.toList.map .char := by
    rw [List.flatMap_def, List.map_congr_left htidy, List.map_id, flatten_cutLines]
  rw [readSource, hpieces]
  exact congrArg _ hlines

/-- A text with its dollar signs doubled is a template of the text, whatever handlers there are. -/
theorem exists_template_of_escapeDollars (text : String) (handlers : Entries (Except ε String)) :
    ∃ template, ofSource (escapeDollars text) handlers = .ok template ∧ template.render = .ok text := by
  have hnone : slotNames (text.toList.map .char) = [] := by
    rw [List.eq_nil_iff_forall_not_mem]
    intro name hname
    simp [mem_slotNames] at hname
  have hread := readSource_escapeDollars text
  obtain ⟨template, hsource, -⟩ :=
    ofSource_of_slotNames hread (by simp [hnone] : ∀ name ∈ slotNames _, name ∈ handlers.keys)
  have hpieces : template.pieces = text.toList.map .char :=
    Except.ok.inj ((ofSource_eq_ok hsource).1.symm.trans hread)
  have horder : template.evaluationOrder = [] := by
    rw [List.eq_nil_iff_forall_not_mem]
    intro name
    simp [evaluationOrder, placeholders, hpieces, hnone]
  refine ⟨template, hsource, ?_⟩
  rw [render, evaluation, horder, hpieces]
  simp [evaluate, Functor.map, Except.map, List.flatMap_map, Piece.fill]

/-- An accepted template whose handlers succeed renders to the one reading of its source, and a text with
its dollar signs doubled renders to that text. -/
theorem render_is_reading :
    (∀ (source : String) (handlers : Entries (Except ε String)) (template : Template ε),
      ofSource source handlers = .ok template →
        (∀ entry ∈ (OrderedMap.ofEntries handlers).entries, ∃ text, entry.2 = .ok text) →
          ∃ text, template.render = .ok text ∧ ∀ reading,
            LinesReadAs (OrderedMap.ofEntries handlers) (sourceLines source.toList) reading ↔
              reading = text.toList) ∧
      ∀ (text : String) (handlers : Entries (Except ε String)),
        ∃ template, ofSource (escapeDollars text) handlers = .ok template ∧
          template.render = .ok text := by
  refine ⟨fun source handlers template haccepted hsucceed ↦ ?_, exists_template_of_escapeDollars⟩
  rw [← (ofSource_eq_ok haccepted).2] at hsucceed
  obtain ⟨text, hrender⟩ := render_of_handlers hsucceed
  exact ⟨text, hrender, fun reading ↦ render_eq_ok_iff haccepted hrender⟩

/-- A line that only a marker stands on, and one with a slot behind a doubled dollar sign. -/
def markedSource : String :=
  "  $\x7b#first\x7d \n$$$\x7bname\x7d$\x7b#last\x7d\n"

/-- The value looks like a doubled dollar sign, but no value is read again. -/
def markedHandlers : Entries (Except Unit String) :=
  [("name", .ok "$$")]

theorem render_markedSource :
    ∃ template, ofSource markedSource markedHandlers = .ok template ∧
      (∀ entry ∈ (OrderedMap.ofEntries markedHandlers).entries, ∃ text, entry.2 = .ok text) ∧
        template.render = .ok "$$$\n" ∧
          LinesReadAs (OrderedMap.ofEntries markedHandlers) (sourceLines markedSource.toList)
            "$$$\n".toList := by
  have haccepted : ofSource markedSource markedHandlers =
      .ok ⟨[.marker "first", .char '$', .slot "name", .marker "last", .char '\n'],
        .ofEntries markedHandlers, by decide⟩ := by rfl
  have hentries : (OrderedMap.ofEntries markedHandlers).entries = [("name", .ok "$$")] := rfl
  have hsucceed : ∀ entry ∈ (OrderedMap.ofEntries markedHandlers).entries,
      ∃ text, entry.2 = .ok text := by
    simp [hentries]
  obtain ⟨text, hrender, hreading⟩ := render_is_reading.1 _ _ _ haccepted hsucceed
  obtain rfl : "$$$\n" = text := Except.ok.inj hrender
  exact ⟨_, haccepted, hsucceed, hrender, (hreading _).mpr rfl⟩

end SourceGen.Template
