import SourceGen.Proofs.Template.Acceptance

/-!
# The order in which handlers answer

A source determines one order of its distinct slots: those that markers name, by the first marker that names
each, and behind them the others, by where each occurs first. Rendering asks the handlers in this order and
stops at the first that fails. Markers alone cannot change what stands in the slots.
-/

namespace SourceGen.Template

open Text

variable {ε : Type}

/-! ## The order of slots -/

/-- The names of the slots as they occur. -/
def occurrences (pieces : List Piece) : List String :=
  pieces.filterMap Piece.slot?

theorem mem_occurrences {pieces : List Piece} {name : String} :
    name ∈ occurrences pieces ↔ .slot name ∈ pieces := by
  rw [← mem_slotNames, slotNames_eq, mem_distinct, occurrences]

theorem occurrences_tidied (pieces : List Piece) : occurrences (tidied pieces) = occurrences pieces :=
  filterMap_tidied (fun _ ↦ rfl) pieces

theorem markerNames_tidied (pieces : List Piece) : markerNames (tidied pieces) = markerNames pieces :=
  filterMap_tidied (fun _ ↦ rfl) pieces

/-- A slot that a marker names goes before one that none names. Two that markers name go by the first marker
of each, and two that none names by where each occurs first. -/
def GoesBefore (pieces : List Piece) (first second : String) : Prop :=
  if first ∈ markerNames pieces then
    second ∈ markerNames pieces → (markerNames pieces).idxOf first < (markerNames pieces).idxOf second
  else
    second ∉ markerNames pieces ∧ (occurrences pieces).idxOf first < (occurrences pieces).idxOf second

/-- The distinct slots among the pieces, each before those it goes before. -/
structure IsCallOrder (pieces : List Piece) (order : List String) : Prop where
  nodup : order.Nodup
  mem_iff : ∀ name, name ∈ order ↔ .slot name ∈ pieces
  pairwise : order.Pairwise (GoesBefore pieces)

section Order

variable {pieces : List Piece} {template : Template ε}

theorem GoesBefore.asymm {first second : String} (h : GoesBefore pieces first second) :
    ¬ GoesBefore pieces second first := by
  intro hback
  rw [GoesBefore] at h hback
  by_cases hfirst : first ∈ markerNames pieces
  · rw [if_pos hfirst] at h
    by_cases hsecond : second ∈ markerNames pieces
    · rw [if_pos hsecond] at hback
      exact Nat.lt_asymm (h hsecond) (hback hfirst)
    · rw [if_neg hsecond] at hback
      exact hback.1 hfirst
  · rw [if_neg hfirst] at h
    rw [if_neg h.1] at hback
    exact Nat.lt_asymm h.2 hback.2

theorem IsCallOrder.unique {order order' : List String} (h : IsCallOrder pieces order)
    (h' : IsCallOrder pieces order') : order = order' := by
  have hperm : order.Perm order' :=
    (List.perm_ext_iff_of_nodup h.nodup h'.nodup).mpr fun name ↦ (h.mem_iff name).trans (h'.mem_iff name).symm
  exact hperm.eq_of_pairwise (fun _ _ _ _ hab hba ↦ absurd hba hab.asymm) h.pairwise h'.pairwise

/-- Slots that markers name, then the others: each part is in the order of first occurrences. -/
theorem evaluationOrder_eq (template : Template ε) :
    template.evaluationOrder =
      (distinct template.markers).filter (fun name ↦ decide (name ∈ template.placeholders)) ++
        (distinct (occurrences template.pieces)).filter fun name ↦ decide (name ∉ template.markers) := by
  have hslots : template.placeholders = distinct (occurrences template.pieces) := slotNames_eq _
  have hnodup : template.placeholders.Nodup := hslots ▸ nodup_distinct _
  rw [evaluationOrder, distinct_append, distinct_filter, distinct_of_nodup hnodup, ← hslots]
  congr 1
  refine List.filter_congr fun name hname ↦ ?_
  simp [List.mem_filter, hname]

theorem isCallOrder_evaluationOrder (h : template.pieces = tidied pieces) :
    IsCallOrder pieces template.evaluationOrder := by
  have hmarkers : template.markers = markerNames pieces := by rw [markers, h, markerNames_tidied]
  refine ⟨nodup_distinct _, fun name ↦ ?_, ?_⟩
  · rw [mem_evaluationOrder, h, ← mem_slotNames, mem_slotNames_tidied]
  · rw [evaluationOrder_eq, hmarkers, h, occurrences_tidied, List.pairwise_append]
    refine ⟨?_, ?_, ?_⟩
    · refine ((pairwise_idxOf_distinct _).filter _).imp_of_mem fun {first second} hfirst _ hlt ↦ ?_
      rw [GoesBefore, if_pos (mem_distinct.mp (List.mem_filter.mp hfirst).1)]
      exact fun _ ↦ hlt
    · refine ((pairwise_idxOf_distinct _).filter _).imp_of_mem fun {first second} hfirst hsecond hlt ↦ ?_
      rw [GoesBefore, if_neg (of_decide_eq_true (List.mem_filter.mp hfirst).2)]
      exact ⟨of_decide_eq_true (List.mem_filter.mp hsecond).2, hlt⟩
    · intro first hfirst second hsecond
      rw [GoesBefore, if_pos (mem_distinct.mp (List.mem_filter.mp hfirst).1)]
      exact fun hmarked ↦ absurd hmarked (of_decide_eq_true (List.mem_filter.mp hsecond).2)

end Order

/-! ## Calls in turn -/

/-- Handlers asked in an order, one after the other: all of them answer, or those before the first that fails
and this one, whose error is what comes of it. -/
def AskedInTurn (handlers : OrderedMap (Except ε String)) (order calls : List String)
    (outcome : Except ε String) : Prop :=
  ((∀ name ∈ order, ∃ value, handlers.get? name = some (.ok value)) ∧ calls = order ∧
      ∃ text, outcome = .ok text) ∨
    ∃ before name after error, order = before ++ name :: after ∧
      (∀ earlier ∈ before, ∃ value, handlers.get? earlier = some (.ok value)) ∧
        handlers.get? name = some (.error error) ∧ calls = before ++ [name] ∧ outcome = .error error

theorem askedInTurn (template : Template ε) :
    AskedInTurn template.handlers template.evaluationOrder template.calls template.render := by
  have hhandler : ∀ {name outcome}, name ∈ template.evaluationOrder → template.answer name = outcome →
      template.handlers.get? name = some outcome := by
    intro name outcome hname hanswer
    obtain ⟨given, hget, hgiven⟩ := exists_handler_of_slot (mem_evaluationOrder.mp hname)
    rw [hget, ← hgiven, hanswer]
  obtain ⟨values, hvalues, hcalls, hall⟩ |
    ⟨before, name, after, error, horder, hvalues, hcalls, hname, hall⟩ :=
    evaluate_cases template.answer template.evaluationOrder
  · refine .inl ⟨fun name hname ↦ ?_, hcalls, _, by rw [render, evaluation, hvalues]; rfl⟩
    obtain ⟨value, hanswer⟩ := hall name hname
    exact ⟨value, hhandler hname hanswer⟩
  · refine .inr ⟨before, name, after, error, horder, fun earlier hearlier ↦ ?_, ?_, hcalls, ?_⟩
    · obtain ⟨value, hanswer⟩ := hall earlier hearlier
      exact ⟨value, hhandler (horder ▸ List.mem_append_left _ hearlier) hanswer⟩
    · exact hhandler (by simp [horder]) hname
    · rw [render, evaluation, hvalues]
      rfl

theorem AskedInTurn.nodup {handlers : OrderedMap (Except ε String)} {order calls : List String}
    {outcome : Except ε String} (h : AskedInTurn handlers order calls outcome) (horder : order.Nodup) :
    calls.Nodup := by
  obtain ⟨-, rfl, -⟩ | ⟨before, name, after, error, rfl, -, -, rfl, -⟩ := h
  · exact horder
  · exact horder.sublist ((List.Sublist.refl before).append (List.singleton_sublist.mpr List.mem_cons_self))

/-! ## Sources with other markers -/

/-- The pieces that are no markers. -/
def withoutMarkers (pieces : List Piece) : List Piece :=
  pieces.filter fun piece ↦ !piece.isMarker

/-- The texts put into the slots, one for each occurrence. -/
def substituted (values : Entries String) (pieces : List Piece) : List String :=
  (occurrences pieces).map fun name ↦ (values.get? name).getD ""

/-- The characters of a text that are no blanks. -/
def inked (text : String) : List Char :=
  text.toList.filter fun c ↦ !isBlank c

section Markers

variable {pieces pieces' : List Piece} {values values' : Entries String}

theorem flatMap_withoutMarkers {α : Type} {f : Piece → List α} (hf : ∀ name, f (.marker name) = [])
    (pieces : List Piece) : (withoutMarkers pieces).flatMap f = pieces.flatMap f := by
  refine flatMap_filter_eq fun piece _ hmarker ↦ ?_
  cases piece with
  | marker name => exact hf name
  | char c => cases hmarker
  | slot name => cases hmarker

theorem mem_withoutMarkers {name : String} : .slot name ∈ withoutMarkers pieces ↔ .slot name ∈ pieces := by
  simp [withoutMarkers, Piece.isMarker]

theorem occurrences_withoutMarkers (pieces : List Piece) :
    occurrences (withoutMarkers pieces) = occurrences pieces := by
  rw [occurrences, occurrences, List.filterMap_eq_flatMap_toList, List.filterMap_eq_flatMap_toList]
  exact flatMap_withoutMarkers (fun _ ↦ rfl) pieces

/-- Apart from blanks a text is filled as it would be without its markers. -/
theorem inked_filled_tidied (values : Entries String) (pieces : List Piece) :
    inked (filled values (tidied pieces)) =
      (withoutMarkers pieces).flatMap fun piece ↦ (piece.fill values).filter fun c ↦ !isBlank c := by
  rw [inked, filled, String.toList_ofList, List.filter_flatMap, flatMap_withoutMarkers fun _ ↦ rfl]
  exact flatMap_tidied (fun c hc ↦ by simp [Piece.fill, hc]) pieces

theorem substituted_eq (hmarkers : withoutMarkers pieces = withoutMarkers pieces')
    (h : ∀ name, .slot name ∈ pieces → values.get? name = values'.get? name) :
    substituted values pieces = substituted values' pieces' := by
  rw [substituted, substituted, ← occurrences_withoutMarkers pieces', ← hmarkers, occurrences_withoutMarkers]
  refine List.map_congr_left fun name hname ↦ ?_
  rw [h name (mem_occurrences.mp hname)]

theorem inked_filled_eq (hmarkers : withoutMarkers pieces = withoutMarkers pieces')
    (h : ∀ name, .slot name ∈ pieces → values.get? name = values'.get? name) :
    inked (filled values (tidied pieces)) = inked (filled values' (tidied pieces')) := by
  rw [inked_filled_tidied, inked_filled_tidied, ← hmarkers, List.flatMap_def, List.flatMap_def]
  refine congrArg List.flatten (List.map_congr_left fun piece hpiece ↦ ?_)
  cases piece with
  | slot name => rw [Piece.fill, Piece.fill, h name (mem_withoutMarkers.mp hpiece)]
  | char c => rfl
  | marker name => rfl

/-- An accepted template whose handlers have answered with the values and which renders to the text. -/
structure RendersWith (source : String) (handlers : Entries (Except ε String)) (template : Template ε)
    (values : Entries String) (text : String) : Prop where
  accepted : ofSource source handlers = .ok template
  evaluated : template.evaluation.values = .ok values
  answered : Answered (OrderedMap.ofEntries handlers) values template.pieces
  called : template.calls = template.evaluationOrder
  rendered : template.render = .ok text

theorem exists_rendersWith {source : String} {handlers : Entries (Except ε String)}
    (h : Spells source.toList pieces) (hanswers : ∀ name, .slot name ∈ pieces →
      ∃ value, (OrderedMap.ofEntries handlers).get? name = some (.ok value)) :
    ∃ template values, template.pieces = tidied pieces ∧
      RendersWith source handlers template values (filled values (tidied pieces)) := by
  have hread : readSource source = .ok (tidied pieces) := readSource_eq_ok_iff.mpr ⟨pieces, h, rfl⟩
  have hkeys : ∀ name ∈ slotNames (tidied pieces), name ∈ handlers.keys := by
    intro name hname
    obtain ⟨value, hvalue⟩ := hanswers name (mem_slotNames_tidied.mp hname)
    exact isSome_get?_ofEntries_iff.mp (by rw [hvalue, Option.isSome_some])
  obtain ⟨template, haccepted, hhandlers⟩ := ofSource_of_slotNames hread hkeys
  have hpieces : template.pieces = tidied pieces :=
    Except.ok.inj ((ofSource_eq_ok haccepted).1.symm.trans hread)
  obtain ⟨values, hvalues, hcalls, -⟩ | ⟨before, name, after, error, horder, -, -, hname, -⟩ :=
    evaluate_cases template.answer template.evaluationOrder
  · have hanswered := answered_of_evaluation hvalues
    rw [hhandlers] at hanswered
    refine ⟨template, values, hpieces, haccepted, hvalues, hanswered, hcalls, ?_⟩
    rw [render, evaluation, hvalues, hpieces]
    rfl
  · have hslot : .slot name ∈ template.pieces := mem_evaluationOrder.mp (by simp [horder])
    obtain ⟨outcome, hget, hanswer⟩ := exists_handler_of_slot hslot
    rw [hpieces, ← mem_slotNames, mem_slotNames_tidied] at hslot
    obtain ⟨value, hvalue⟩ := hanswers name hslot
    rw [hhandlers, hvalue, Option.some.injEq] at hget
    rw [← hget, hname] at hanswer
    cases hanswer

theorem get?_eq_of_answered {handlers : OrderedMap (Except ε String)} (h : Answered handlers values pieces)
    (h' : Answered handlers values' pieces') {name : String} (hslot : .slot name ∈ pieces)
    (hslot' : .slot name ∈ pieces') : values.get? name = values'.get? name := by
  obtain ⟨value, hget, hvalue⟩ := h name hslot
  obtain ⟨value', hget', hvalue'⟩ := h' name hslot'
  rw [hget, Option.some.injEq, Except.ok.injEq] at hget'
  rw [hvalue, hvalue', hget']

end Markers

/-- Rendering an accepted template asks handlers in the one order of its slots, each once at most and none
behind the first that fails. Where the handlers of all slots answer, sources that differ in their markers
only ask the same handlers, put the same texts into the same slots and give texts that differ in blanks at
most. -/
theorem handlers_called_in_order :
    (∀ (source : String) (handlers : Entries (Except ε String)) (template : Template ε),
      ofSource source handlers = .ok template → ∃ pieces order, Spells source.toList pieces ∧
        (∀ other, IsCallOrder pieces other ↔ other = order) ∧ template.calls.Nodup ∧
          AskedInTurn (OrderedMap.ofEntries handlers) order template.calls template.render) ∧
      ∀ (source source' : String) (handlers : Entries (Except ε String)) (pieces pieces' : List Piece),
        Spells source.toList pieces → Spells source'.toList pieces' →
          withoutMarkers pieces = withoutMarkers pieces' →
            (∀ name, .slot name ∈ pieces →
              ∃ value, (OrderedMap.ofEntries handlers).get? name = some (.ok value)) →
              ∃ template values text template' values' text',
                RendersWith source handlers template values text ∧
                  RendersWith source' handlers template' values' text' ∧
                    template.calls.Perm template'.calls ∧
                      substituted values template.pieces = substituted values' template'.pieces ∧
                        inked text = inked text' := by
  constructor
  · intro source handlers template haccepted
    obtain ⟨hread, hhandlers⟩ := ofSource_eq_ok haccepted
    obtain ⟨pieces, hspells, htidied⟩ := readSource_eq_ok_iff.mp hread
    have horder : IsCallOrder pieces template.evaluationOrder := isCallOrder_evaluationOrder htidied.symm
    have hasked := hhandlers ▸ askedInTurn template
    exact ⟨pieces, template.evaluationOrder, hspells,
      fun other ↦ ⟨fun hother ↦ hother.unique horder, fun heq ↦ heq ▸ horder⟩,
      hasked.nodup horder.nodup, hasked⟩
  · intro source source' handlers pieces pieces' hspells hspells' hmarkers hanswers
    have hslots : ∀ name, .slot name ∈ pieces ↔ .slot name ∈ pieces' := by
      intro name
      rw [← mem_withoutMarkers, hmarkers, mem_withoutMarkers]
    obtain ⟨template, values, hpieces, hrenders⟩ := exists_rendersWith hspells hanswers
    obtain ⟨template', values', hpieces', hrenders'⟩ :=
      exists_rendersWith hspells' fun name hname ↦ hanswers name ((hslots name).mpr hname)
    have horder := isCallOrder_evaluationOrder hpieces
    have horder' := isCallOrder_evaluationOrder hpieces'
    have hsame : ∀ name, .slot name ∈ pieces → values.get? name = values'.get? name := by
      intro name hname
      have hslot := mem_evaluationOrder.mp ((horder.mem_iff name).mpr hname)
      have hslot' := mem_evaluationOrder.mp ((horder'.mem_iff name).mpr ((hslots name).mp hname))
      exact get?_eq_of_answered hrenders.answered hrenders'.answered hslot hslot'
    refine ⟨template, values, _, template', values', _, hrenders, hrenders', ?_, ?_, ?_⟩
    · rw [hrenders.called, hrenders'.called, List.perm_ext_iff_of_nodup horder.nodup horder'.nodup]
      intro name
      rw [horder.mem_iff, horder'.mem_iff, hslots]
    · rw [substituted, substituted, hpieces, hpieces', occurrences_tidied, occurrences_tidied]
      exact substituted_eq hmarkers hsame
    · exact inked_filled_eq hmarkers hsame

/-- A marker for the second of two slots, on a line of its own, and one that names no slot. -/
def hurriedSource : String :=
  "$\x7b#second\x7d\n$\x7bfirst\x7d$\x7b#other\x7d$\x7bsecond\x7d"

def hurriedPieces : List Piece :=
  [.marker "second", .char '\n', .slot "first", .marker "other", .slot "second"]

def unhurriedSource : String :=
  "\n$\x7bfirst\x7d$\x7bsecond\x7d"

def unhurriedPieces : List Piece :=
  [.char '\n', .slot "first", .slot "second"]

def failingHandlers : Entries (Except Nat String) :=
  [("first", .error 1), ("second", .error 2)]

def answeringHandlers : Entries (Except Nat String) :=
  [("first", .ok "1"), ("second", .ok "2")]

theorem handlers_called_in_order_hurried :
    (∃ template order, ofSource hurriedSource failingHandlers = .ok template ∧
      IsCallOrder hurriedPieces order ∧ template.calls = ["second"] ∧ template.render = .error 2 ∧
        AskedInTurn (OrderedMap.ofEntries failingHandlers) order template.calls template.render) ∧
      ∃ template values text template' values' text',
        RendersWith hurriedSource answeringHandlers template values text ∧
          RendersWith unhurriedSource answeringHandlers template' values' text' ∧
            template.calls = ["second", "first"] ∧ template'.calls = ["first", "second"] ∧
              substituted values template.pieces = substituted values' template'.pieces ∧
                inked text = inked text' := by
  have hspells : Spells hurriedSource.toList hurriedPieces := readPieces_eq_ok_iff.mp (by rfl)
  have hspells' : Spells unhurriedSource.toList unhurriedPieces := readPieces_eq_ok_iff.mp (by rfl)
  have haccepted : ∀ {handlers : Entries (Except Nat String)}
      (h : ∀ name ∈ slotNames (tidied hurriedPieces), ((OrderedMap.ofEntries handlers).get? name).isSome),
      ofSource hurriedSource handlers = .ok ⟨tidied hurriedPieces, .ofEntries handlers, h⟩ :=
    fun h ↦ dif_pos h
  have haccepted' : ofSource unhurriedSource answeringHandlers =
      .ok ⟨unhurriedPieces, .ofEntries answeringHandlers, by decide⟩ := by rfl
  constructor
  · obtain ⟨pieces, order, hpieces, horder, -, hasked⟩ :=
      handlers_called_in_order.1 hurriedSource failingHandlers _ (haccepted (by decide))
    obtain rfl := hpieces.unique hspells
    exact ⟨_, order, haccepted (by decide), (horder order).mpr rfl, rfl, rfl, hasked⟩
  · have hanswers : ∀ name, .slot name ∈ hurriedPieces →
        ∃ value, (OrderedMap.ofEntries answeringHandlers).get? name = some (.ok value) := by
      intro name hname
      obtain rfl | rfl : name = "first" ∨ name = "second" := by simpa [hurriedPieces] using hname
      · exact ⟨"1", rfl⟩
      · exact ⟨"2", rfl⟩
    obtain ⟨template, values, text, template', values', text', hrenders, hrenders', -, hsame, hinked⟩ :=
      handlers_called_in_order.2 hurriedSource unhurriedSource answeringHandlers _ _ hspells hspells' rfl
        hanswers
    obtain rfl := Except.ok.inj ((haccepted (by decide)).symm.trans hrenders.accepted)
    obtain rfl := Except.ok.inj (haccepted'.symm.trans hrenders'.accepted)
    exact ⟨_, values, text, _, values', text', hrenders, hrenders', rfl, rfl, hsame, hinked⟩

end SourceGen.Template
