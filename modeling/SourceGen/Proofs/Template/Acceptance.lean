import SourceGen.Proofs.Distinct
import SourceGen.Proofs.Template.Passages

/-!
# Which sources are templates

Where placeholders open in a source is told from left to right, doubled dollar signs and closed
placeholders being read over. A source is accepted if and only if what is behind each opening names a marker
or a slot with a handler; an opening that names nothing counts for more than a handler that is missing.
Rendering an accepted template never comes upon a slot without a handler.
-/

namespace SourceGen.Template

open Text

variable {ε : Type}

/-! ## Openings -/

/-- Reading a text from left to right, a placeholder opens behind what is `before`, and `body` is what follows
its opening brace. -/
inductive Opens : List Char → List Char → List Char → Prop where
  | here (body : List Char) : Opens ('$' :: '{' :: body) [] body
  | plain {c : Char} {rest before body : List Char} (hc : c ≠ '$') (h : Opens rest before body) :
    Opens (c :: rest) (c :: before) body
  | escape {rest before body : List Char} (h : Opens rest before body) :
    Opens ('$' :: '$' :: rest) ('$' :: '$' :: before) body
  | lone {rest before body : List Char} (hnext : ∀ c ∈ rest.head?, c ≠ '$' ∧ c ≠ '{')
    (h : Opens rest before body) : Opens ('$' :: rest) ('$' :: before) body
  | closed {written rest before body : List Char} (hwritten : '}' ∉ written)
    (h : Opens rest before body) :
    Opens ('$' :: '{' :: (written ++ '}' :: rest)) ('$' :: '{' :: (written ++ '}' :: before)) body

/-- What is written between braces: the name of a slot or, behind a number sign, that of a marker. -/
def Names (written : List Char) (piece : Piece) : Prop :=
  ∃ name, isIdentifier name = true ∧ ((written = name.toList ∧ piece = .slot name) ∨
    (written = '#' :: name.toList ∧ piece = .marker name))

/-- What follows an opening brace is closed, and up to the first closing brace it names a piece. -/
def Says (body : List Char) (piece : Piece) : Prop :=
  ∃ written rest, '}' ∉ written ∧ body = written ++ '}' :: rest ∧ Names written piece

section Openings

variable {cs rest before body written : List Char} {piece : Piece} {pieces : List Piece}

theorem Opens.eq_append (h : Opens cs before body) : cs = before ++ '$' :: '{' :: body := by
  induction h with
  | here => rfl
  | plain _ _ ih => rw [ih]; rfl
  | escape _ ih => rw [ih]; rfl
  | lone _ _ ih => rw [ih]; rfl
  | closed _ _ ih => rw [ih]; simp

/-- A text is cut in one way only at the first place of a mark. -/
theorem append_cons_inj_of_fresh {α : Type} {mark : α} {front front' back back' : List α}
    (h : mark ∉ front) (h' : mark ∉ front') (heq : front ++ mark :: back = front' ++ mark :: back') :
    front = front' ∧ back = back' := by
  induction front generalizing front' with
  | nil =>
    cases front' with
    | nil => exact ⟨rfl, (List.cons.inj heq).2⟩
    | cons first more => exact absurd ((List.cons.inj heq).1 ▸ List.mem_cons_self) h'
  | cons first more ih =>
    cases front' with
    | nil => exact absurd ((List.cons.inj heq).1 ▸ List.mem_cons_self) h
    | cons first' more' =>
      obtain ⟨rfl, hrest⟩ := List.cons.inj heq
      rw [List.mem_cons, not_or] at h h'
      obtain ⟨rfl, hback⟩ := ih h.2 h'.2 hrest
      exact ⟨rfl, hback⟩

theorem names_iff : Names written piece ↔ placeholder written = some piece :=
  placeholder_eq_some_iff.symm

theorem says_of_placeholder (h : placeholder written = some piece) (rest : List Char) :
    Says (written ++ '}' :: rest) piece :=
  ⟨written, rest, not_mem_of_placeholder h (by decide) (by decide), rfl, names_iff.mpr h⟩

theorem says_append_iff (h : '}' ∉ written) :
    Says (written ++ '}' :: rest) piece ↔ placeholder written = some piece := by
  constructor
  · rintro ⟨written', rest', hwritten', heq, hnames⟩
    obtain ⟨rfl, -⟩ := append_cons_inj_of_fresh h hwritten' heq
    exact names_iff.mp hnames
  · exact fun hpiece ↦ says_of_placeholder hpiece rest

theorem Says.unique {piece' : Piece} (h : Says body piece) (h' : Says body piece') : piece = piece' := by
  obtain ⟨written, rest, hwritten, rfl, hnames⟩ := h
  rw [says_append_iff hwritten, names_iff.mp hnames] at h'
  exact Option.some.inj h'

theorem Opens.of_brace (h : Opens ('$' :: '{' :: cs) before body) :
    (before = [] ∧ body = cs) ∨ ∃ written rest later, '}' ∉ written ∧ cs = written ++ '}' :: rest ∧
      before = '$' :: '{' :: (written ++ '}' :: later) ∧ Opens rest later body := by
  cases h with
  | here => exact .inl ⟨rfl, rfl⟩
  | plain hc => exact absurd rfl hc
  | lone hnext => exact absurd rfl (hnext '{' rfl).2
  | closed hwritten hrest => exact .inr ⟨_, _, _, hwritten, rfl, rfl, hrest⟩

/-! ## Openings and pieces -/

/-- The first piece of a text is written with the characters that are skipped: behind these placeholders open
as they do in the rest, and before that none does unless the piece is what it names. -/
structure Heads (skipped rest : List Char) (piece : Piece) : Prop where
  skips : ∀ {before body}, Opens rest before body → Opens (skipped ++ rest) (skipped ++ before) body
  splits : ∀ {before body}, Opens (skipped ++ rest) before body →
    (before = [] ∧ Says body piece) ∨ ∃ later, before = skipped ++ later ∧ Opens rest later body
  opens : ∀ name, piece = .slot name → ∃ body, Opens (skipped ++ rest) [] body ∧ Says body piece

theorem heads_plain {c : Char} (hc : c ≠ '$') (rest : List Char) : Heads [c] rest (.char c) where
  skips := .plain hc
  splits h := by
    cases h with
    | plain _ hrest => exact .inr ⟨_, rfl, hrest⟩
    | _ => exact absurd rfl hc
  opens := by simp

theorem heads_escape (rest : List Char) : Heads ['$', '$'] rest (.char '$') where
  skips := .escape
  splits h := by
    cases h with
    | plain hc => exact absurd rfl hc
    | escape hrest => exact .inr ⟨_, rfl, hrest⟩
    | lone hnext => exact absurd rfl (hnext '$' rfl).1
  opens := by simp

theorem heads_lone (hnext : ∀ c ∈ rest.head?, c ≠ '$' ∧ c ≠ '{') : Heads ['$'] rest (.char '$') where
  skips := .lone hnext
  splits h := by
    cases h with
    | plain hc => exact absurd rfl hc
    | lone _ hrest => exact .inr ⟨_, rfl, hrest⟩
    | escape => exact absurd rfl (hnext '$' rfl).1
    | here => exact absurd rfl (hnext '{' rfl).2
    | closed => exact absurd rfl (hnext '{' rfl).2
  opens := by simp

theorem heads_placeholder (hpiece : placeholder written = some piece) (rest : List Char) :
    Heads ('$' :: '{' :: (written ++ ['}'])) rest piece where
  skips h := by
    have hfresh := not_mem_of_placeholder hpiece (c := '}') (by decide) (by decide)
    simpa using Opens.closed hfresh h
  splits h := by
    have hfresh := not_mem_of_placeholder hpiece (c := '}') (by decide) (by decide)
    simp only [List.cons_append, List.append_assoc] at h
    obtain ⟨rfl, rfl⟩ | ⟨written', rest', later, hwritten', heq, rfl, hlater⟩ := h.of_brace
    · exact .inl ⟨rfl, says_of_placeholder hpiece rest⟩
    · obtain ⟨rfl, rfl⟩ := append_cons_inj_of_fresh hfresh hwritten' heq
      exact .inr ⟨later, by simp, hlater⟩
  opens _ _ := ⟨written ++ '}' :: rest, by simpa using Opens.here (written ++ '}' :: rest),
    says_of_placeholder hpiece rest⟩

theorem Spells.exists_heads (h : Spells cs (piece :: pieces)) :
    ∃ skipped rest, cs = skipped ++ rest ∧ Spells rest pieces ∧ Heads skipped rest piece := by
  cases h with
  | plain hc hrest => exact ⟨_, _, rfl, hrest, heads_plain hc _⟩
  | escape hrest => exact ⟨['$', '$'], _, rfl, hrest, heads_escape _⟩
  | lone hnext hrest => exact ⟨['$'], _, rfl, hrest, heads_lone hnext⟩
  | placeholder hpiece hrest => exact ⟨_, _, by simp, hrest, heads_placeholder hpiece _⟩

/-- Of a source that is spelled by pieces, each opening names one of them. -/
theorem Spells.exists_said (h : Spells cs pieces) (hopens : Opens cs before body) :
    ∃ piece ∈ pieces, Says body piece := by
  induction pieces generalizing cs before with
  | nil =>
    cases h
    cases hopens
  | cons piece later ih =>
    obtain ⟨skipped, rest, rfl, hrest, hheads⟩ := h.exists_heads
    obtain ⟨-, hcontent⟩ | ⟨before', -, hopens'⟩ := hheads.splits hopens
    · exact ⟨piece, List.mem_cons_self, hcontent⟩
    · obtain ⟨other, hother, hcontent⟩ := ih hrest hopens'
      exact ⟨other, List.mem_cons_of_mem piece hother, hcontent⟩

/-- Where a slot is among the pieces, it opens; what opens before it names a piece before it. -/
theorem Spells.exists_opens {name : String} {front back : List Piece}
    (h : Spells cs (front ++ .slot name :: back)) :
    ∃ before body, Opens cs before body ∧ Says body (.slot name) ∧
      ∀ before' body', Opens cs before' body' → before'.length < before.length →
        ∃ piece ∈ front, Says body' piece := by
  induction front generalizing cs with
  | nil =>
    obtain ⟨skipped, rest, rfl, -, hheads⟩ := h.exists_heads
    obtain ⟨body, hopens, hcontent⟩ := hheads.opens name rfl
    exact ⟨[], body, hopens, hcontent, fun _ _ _ hlength ↦ absurd hlength (Nat.not_lt_zero _)⟩
  | cons first front ih =>
    obtain ⟨skipped, rest, rfl, hrest, hheads⟩ := h.exists_heads
    obtain ⟨before, body, hopens, hcontent, hearlier⟩ := ih hrest
    refine ⟨skipped ++ before, body, hheads.skips hopens, hcontent, fun before' body' hopens' hlength ↦ ?_⟩
    obtain ⟨-, hfirst⟩ | ⟨later, rfl, hlater⟩ := hheads.splits hopens'
    · exact ⟨first, List.mem_cons_self, hfirst⟩
    · rw [List.length_append, List.length_append, Nat.add_lt_add_iff_left] at hlength
      obtain ⟨piece, hpiece, hsaid⟩ := hearlier later body' hlater hlength
      exact ⟨piece, List.mem_cons_of_mem first hpiece, hsaid⟩

end Openings

/-! ## Sources that cannot be read -/

/-- The faults of a source by itself, whatever handlers there are. -/
def Fault.IsMalformed : Fault → Prop
  | .unterminated _ => True
  | .invalidName _ => True
  | .unhandled _ => False

/-- A text has an opening that names nothing. -/
def OpensUnnamed (cs : List Char) : Prop :=
  ∃ before body, Opens cs before body ∧ ∀ piece, ¬ Says body piece

theorem OpensUnnamed.of_heads {skipped rest : List Char} {piece : Piece} (h : OpensUnnamed rest)
    (hheads : Heads skipped rest piece) : OpensUnnamed (skipped ++ rest) := by
  obtain ⟨before, body, hopens, hcontent⟩ := h
  exact ⟨skipped ++ before, body, hheads.skips hopens, hcontent⟩

/-- What the reader has taken in between braces was no closing brace. -/
def Mode.Open : Mode → Prop
  | .braces read => '}' ∉ read
  | _ => True

theorem opensUnnamed_of_readPieces {mode : Mode} {cs : List Char} {fault : Fault} (hmode : mode.Open)
    (h : readPieces mode cs = .error fault) : fault.IsMalformed ∧ OpensUnnamed (mode.pending ++ cs) := by
  -- As for what is read: what is pending stands in front of what is left to read.
  induction mode, cs using readPieces.induct with
  | case1 => cases h
  | case2 rest ih =>
    simp only [readPieces, if_true] at h
    exact ih trivial h
  | case3 c rest hc ih =>
    simp only [readPieces, if_neg hc] at h
    obtain ⟨hfault, hrest⟩ := ih trivial (map_eq_error.mp h)
    exact ⟨hfault, hrest.of_heads (heads_plain hc rest)⟩
  | case4 => cases h
  | case5 rest ih =>
    simp only [readPieces, if_true] at h
    obtain ⟨hfault, hrest⟩ := ih trivial (map_eq_error.mp h)
    exact ⟨hfault, hrest.of_heads (heads_escape rest)⟩
  | case6 rest hd ih =>
    simp only [readPieces, if_neg hd, if_true] at h
    exact ih List.not_mem_nil h
  | case7 c rest hd hb ih =>
    simp only [readPieces, if_neg hd, if_neg hb] at h
    obtain ⟨hfault, hrest⟩ := ih trivial (map_eq_error.mp h)
    have hnext : ∀ d ∈ (c :: rest).head?, d ≠ '$' ∧ d ≠ '{' := by simp [hd, hb]
    exact ⟨hfault, (hrest.of_heads (heads_plain hd rest)).of_heads (heads_lone hnext)⟩
  | case8 read =>
    cases h
    refine ⟨trivial, [], read.reverse, by simpa [Mode.pending] using Opens.here _, ?_⟩
    rintro piece ⟨written, rest, -, heq, -⟩
    have hmem : '}' ∈ read.reverse := heq ▸ List.mem_append_right written List.mem_cons_self
    exact hmode (List.mem_reverse.mp hmem)
  | case9 read rest piece hpiece ih =>
    simp only [readPieces, if_true, hpiece] at h
    obtain ⟨hfault, hrest⟩ := ih trivial (map_eq_error.mp h)
    refine ⟨hfault, ?_⟩
    simpa [Mode.pending] using hrest.of_heads (heads_placeholder hpiece rest)
  | case10 read rest hpiece =>
    simp only [readPieces, if_true, hpiece] at h
    cases h
    refine ⟨trivial, [], read.reverse ++ '}' :: rest, by simpa [Mode.pending] using Opens.here _, ?_⟩
    intro piece hcontent
    rw [says_append_iff (mt List.mem_reverse.mp hmode), hpiece] at hcontent
    cases hcontent
  | case11 read c rest hc ih =>
    simp only [readPieces, if_neg hc] at h
    have hopen : (Mode.braces (c :: read)).Open := by
      rw [Mode.Open, List.mem_cons, not_or]
      exact ⟨Ne.symm hc, hmode⟩
    simpa [Mode.pending] using ih hopen h

theorem opensUnnamed_iff {cs : List Char} :
    OpensUnnamed cs ↔ ∃ fault, readPieces .text cs = .error fault := by
  constructor
  · rintro ⟨before, body, hopens, hcontent⟩
    cases hread : readPieces .text cs with
    | error fault => exact ⟨fault, rfl⟩
    | ok pieces =>
      obtain ⟨piece, -, hsaid⟩ := (readPieces_eq_ok_iff.mp hread).exists_said hopens
      exact absurd hsaid (hcontent piece)
  · rintro ⟨fault, hread⟩
    exact (opensUnnamed_of_readPieces (show Mode.text.Open from trivial) hread).2

/-! ## Slots of a source -/

/-- The name of a slot. -/
def Piece.slot? : Piece → Option String
  | .slot name => some name
  | _ => none

theorem Piece.slot?_eq_some_iff {piece : Piece} {name : String} :
    piece.slot? = some name ↔ piece = .slot name := by
  cases piece <;> simp [slot?]

theorem slotNames_eq (pieces : List Piece) : slotNames pieces = distinct (pieces.filterMap Piece.slot?) := by
  rw [slotNames]
  congr 2

theorem flatMap_filter_eq {α β : Type} {p : α → Bool} {f : α → List β} {items : List α}
    (h : ∀ item ∈ items, p item = false → f item = []) : (items.filter p).flatMap f = items.flatMap f := by
  induction items with
  | nil => rfl
  | cons item rest ih =>
    obtain ⟨hitem, hrest⟩ := List.forall_mem_cons.mp h
    cases hp : p item with
    | true => rw [List.filter_cons_of_pos hp, List.flatMap_cons, List.flatMap_cons, ih hrest]
    | false => rw [List.filter_cons_of_neg (by simp [hp]), List.flatMap_cons, hitem hp, ih hrest,
        List.nil_append]

/-- A line that only its marker is kept of has lost nothing but blanks. -/
theorem flatMap_tidyLine {α : Type} {f : Piece → List α} (hf : ∀ c, Text.isBlank c = true → f (.char c) = [])
    (line : List Piece) : (tidyLine line).flatMap f = line.flatMap f := by
  rw [tidyLine]
  split
  · next hline =>
    rw [isMarkerLine, Bool.and_eq_true, List.all_eq_true] at hline
    refine flatMap_filter_eq fun piece hpiece hmarker ↦ ?_
    have hblank : piece.isBlank = true := by simpa [hmarker] using hline.1 piece hpiece
    cases piece with
    | char c => exact hf c hblank
    | marker name => cases hblank
    | slot name => cases hblank
  · rfl

theorem flatMap_tidied {α : Type} {f : Piece → List α} (hf : ∀ c, Text.isBlank c = true → f (.char c) = [])
    (pieces : List Piece) : (tidied pieces).flatMap f = pieces.flatMap f := by
  calc (tidied pieces).flatMap f
    _ = (cutLines pieces).flatMap fun line ↦ (tidyLine line).flatMap f := List.flatMap_assoc
    _ = (cutLines pieces).flatMap fun line ↦ line.flatMap f := by simp only [flatMap_tidyLine hf]
    _ = (cutLines pieces).flatten.flatMap f := by rw [List.flatten_eq_flatMap, List.flatMap_assoc]; rfl
    _ = pieces.flatMap f := by rw [flatten_cutLines]

theorem filterMap_tidied {α : Type} {f : Piece → Option α} (hf : ∀ c, f (.char c) = none)
    (pieces : List Piece) : (tidied pieces).filterMap f = pieces.filterMap f := by
  rw [List.filterMap_eq_flatMap_toList, List.filterMap_eq_flatMap_toList]
  exact flatMap_tidied (fun c _ ↦ by rw [hf, Option.toList_none]) pieces

theorem slotNames_tidied (pieces : List Piece) : slotNames (tidied pieces) = slotNames pieces := by
  rw [slotNames_eq, slotNames_eq, filterMap_tidied fun _ ↦ rfl]

theorem mem_slotNames_tidied {pieces : List Piece} {name : String} :
    name ∈ slotNames (tidied pieces) ↔ .slot name ∈ pieces := by
  rw [slotNames_tidied, mem_slotNames]

/-- The first slot that fails a test stands behind slots that pass it. -/
theorem exists_append_of_find?_slotNames {pieces : List Piece} {p : String → Bool} {name : String}
    (h : (slotNames pieces).find? p = some name) :
    p name = true ∧ ∃ front back, pieces = front ++ .slot name :: back ∧
      ∀ other, .slot other ∈ front → p other = false := by
  rw [slotNames_eq, find?_distinct, List.find?_eq_some_iff_append] at h
  obtain ⟨hname, earlier, later, heq, hearlier⟩ := h
  obtain ⟨front, behind, rfl, rfl, hbehind⟩ := List.filterMap_eq_append_iff.mp heq
  obtain ⟨between, piece, back, rfl, hbetween, hpiece, -⟩ := List.filterMap_eq_cons_iff.mp hbehind
  obtain rfl := Piece.slot?_eq_some_iff.mp hpiece
  refine ⟨hname, front ++ between, back, by simp, fun other hother ↦ ?_⟩
  rcases List.mem_append.mp hother with hfront | hmid
  · simpa using hearlier other (List.mem_filterMap.mpr ⟨_, hfront, rfl⟩)
  · exact absurd (hbetween _ hmid) (by simp [Piece.slot?])

/-! ## Acceptance -/

/-- Every opening names a marker or a slot of one of the given names. -/
def IsAcceptable (names : List String) (cs : List Char) : Prop :=
  ∀ before body, Opens cs before body →
    ∃ piece, Says body piece ∧ ∀ name, piece = .slot name → name ∈ names

/-- The slot that opens first among those whose name is none of the given. -/
def IsFirstUnhandled (names : List String) (cs : List Char) (name : String) : Prop :=
  ∃ before body, Opens cs before body ∧ Says body (.slot name) ∧ name ∉ names ∧
    ∀ before' body' other, Opens cs before' body' → Says body' (.slot other) → other ∉ names →
      before.length ≤ before'.length

section Acceptance

variable {names : List String} {cs : List Char} {pieces : List Piece} {source : String}
  {handlers : Entries (Except ε String)}

theorem Spells.isAcceptable_iff (h : Spells cs pieces) :
    IsAcceptable names cs ↔ ∀ name, .slot name ∈ pieces → name ∈ names := by
  constructor
  · intro hacceptable name hname
    obtain ⟨front, back, rfl⟩ := List.append_of_mem hname
    obtain ⟨before, body, hopens, hcontent, -⟩ := h.exists_opens
    obtain ⟨piece, hpiece, hnamed⟩ := hacceptable before body hopens
    exact hnamed name (hpiece.unique hcontent)
  · intro hnames before body hopens
    obtain ⟨piece, hpiece, hcontent⟩ := h.exists_said hopens
    exact ⟨piece, hcontent, fun name hname ↦ hnames name (hname ▸ hpiece)⟩

theorem IsFirstUnhandled.unique {name name' : String} (h : IsFirstUnhandled names cs name)
    (h' : IsFirstUnhandled names cs name') : name = name' := by
  obtain ⟨before, body, hopens, hcontent, hname, hfirst⟩ := h
  obtain ⟨before', body', hopens', hcontent', hname', hfirst'⟩ := h'
  have hlength : before.length = before'.length :=
    Nat.le_antisymm (hfirst _ _ _ hopens' hcontent' hname') (hfirst' _ _ _ hopens hcontent hname)
  have hsame := List.append_inj (hopens.eq_append.symm.trans hopens'.eq_append) hlength
  obtain ⟨-, heq⟩ := hsame
  cases heq
  exact Piece.slot.inj (hcontent.unique hcontent')

/-- The first slot without a handler among the pieces is the first in the source. -/
theorem Spells.isFirstUnhandled {name : String} (h : Spells cs pieces)
    (hfirst : (slotNames pieces).find? (fun name ↦ decide (name ∉ names)) = some name) :
    IsFirstUnhandled names cs name := by
  obtain ⟨hname, front, back, rfl, hfront⟩ := exists_append_of_find?_slotNames hfirst
  obtain ⟨before, body, hopens, hcontent, hearlier⟩ := h.exists_opens
  refine ⟨before, body, hopens, hcontent, of_decide_eq_true hname, ?_⟩
  intro before' body' other hopens' hcontent' hother
  by_contra hlength
  obtain ⟨piece, hpiece, hsaid⟩ := hearlier before' body' hopens' (Nat.lt_of_not_le hlength)
  obtain rfl := hsaid.unique hcontent'
  exact absurd hother (by simpa using hfront other hpiece)

theorem isSome_get?_ofEntries_iff {name : String} :
    ((OrderedMap.ofEntries handlers).get? name).isSome ↔ name ∈ handlers.keys :=
  Entries.isSome_get?_iff.trans OrderedMap.mem_keys_ofEntries

/-- What binding a source gives, told by its pieces. -/
theorem ofSource_of_spells (handlers : Entries (Except ε String)) (h : Spells source.toList pieces) :
    (∃ template, ofSource source handlers = .ok template ∧
        ∀ name, .slot name ∈ pieces → name ∈ handlers.keys) ∨
      ∃ name, ofSource source handlers = .error (.unhandled name) ∧
        (slotNames pieces).find? (fun name ↦ decide (name ∉ handlers.keys)) = some name := by
  have hread : readSource source = .ok (tidied pieces) := readSource_eq_ok_iff.mpr ⟨pieces, h, rfl⟩
  have hmissing : ∀ name,
      ((OrderedMap.ofEntries handlers).get? name).isNone = decide (name ∉ handlers.keys) := by
    intro name
    rw [Bool.eq_iff_iff, decide_eq_true_iff, ← isSome_get?_ofEntries_iff]
    cases (OrderedMap.ofEntries handlers).get? name <;> simp
  simp only [ofSource, hread, hmissing, slotNames_tidied]
  split
  · next hhandled =>
    refine .inl ⟨_, rfl, fun name hname ↦ ?_⟩
    exact isSome_get?_ofEntries_iff.mp (hhandled name (mem_slotNames.mpr hname))
  · next hunhandled =>
    refine .inr ?_
    cases hfind : (slotNames pieces).find? fun name ↦ decide (name ∉ handlers.keys) with
    | some name => exact ⟨name, rfl, rfl⟩
    | none =>
      refine absurd (fun name hname ↦ ?_) hunhandled
      have hnone := List.find?_eq_none.mp hfind name hname
      exact isSome_get?_ofEntries_iff.mpr (by simpa using hnone)

theorem isMalformed_of_not_readPieces {fault : Fault} (h : readPieces .text source.toList = .error fault) :
    ofSource source handlers = .error fault ∧ fault.IsMalformed ∧ OpensUnnamed source.toList := by
  have hread : readSource source = .error fault := by
    rw [readSource, h]
    rfl
  obtain ⟨hfault, hopens⟩ := opensUnnamed_of_readPieces (show Mode.text.Open from trivial) h
  exact ⟨by simp only [ofSource, hread], hfault, hopens⟩

theorem OpensUnnamed.not_isAcceptable (h : OpensUnnamed cs) : ¬ IsAcceptable names cs := by
  obtain ⟨before, body, hopens, hcontent⟩ := h
  intro hacceptable
  obtain ⟨piece, hsaid, -⟩ := hacceptable before body hopens
  exact hcontent piece hsaid

/-- Which of its three outcomes the binding of a source has, told by the openings of the source. -/
theorem ofSource_cases (source : String) (handlers : Entries (Except ε String)) :
    ((∃ template, ofSource source handlers = .ok template) ∧ ¬ OpensUnnamed source.toList ∧
        IsAcceptable handlers.keys source.toList) ∨
      (∃ fault, ofSource source handlers = .error fault ∧ fault.IsMalformed ∧ OpensUnnamed source.toList) ∨
        ∃ name, ofSource source handlers = .error (.unhandled name) ∧ ¬ OpensUnnamed source.toList ∧
          IsFirstUnhandled handlers.keys source.toList name := by
  cases hread : readPieces .text source.toList with
  | error fault => exact .inr (.inl ⟨fault, isMalformed_of_not_readPieces hread⟩)
  | ok pieces =>
    have hspells := readPieces_eq_ok_iff.mp hread
    have hnamed : ¬ OpensUnnamed source.toList := by
      rw [opensUnnamed_iff, hread]
      rintro ⟨fault, ⟨⟩⟩
    obtain ⟨template, haccepted, hnames⟩ | ⟨name, hrefused, hfirst⟩ := ofSource_of_spells handlers hspells
    · exact .inl ⟨⟨template, haccepted⟩, hnamed, hspells.isAcceptable_iff.mpr hnames⟩
    · exact .inr (.inr ⟨name, hrefused, hnamed, hspells.isFirstUnhandled hfirst⟩)

theorem IsFirstUnhandled.not_isAcceptable {name : String} (h : IsFirstUnhandled names cs name) :
    ¬ IsAcceptable names cs := by
  obtain ⟨before, body, hopens, hcontent, hname, -⟩ := h
  intro hacceptable
  obtain ⟨piece, hsaid, hnamed⟩ := hacceptable before body hopens
  exact hname (hnamed name (hsaid.unique hcontent))

end Acceptance

/-! ## Rendering with a check for handlers -/

/-- The answer of a handler where one may be missing: a slot without one is a fault of the template. -/
def lookUp (template : Template ε) (name : String) : Except (Fault ⊕ ε) String :=
  match template.handlers.get? name with
  | none => .error (.inl (.unhandled name))
  | some outcome => outcome.mapError .inr

/-- Rendering that looks for the handler of every slot it comes to. -/
def renderLookingUp (template : Template ε) : Except (Fault ⊕ ε) String :=
  (fun values ↦ String.ofList (template.pieces.flatMap (·.fill values))) <$>
    (evaluate template.lookUp template.evaluationOrder).values

section Rendering

variable {template : Template ε} {name : String}

theorem mem_evaluationOrder : name ∈ template.evaluationOrder ↔ .slot name ∈ template.pieces := by
  rw [← mem_slotNames, evaluationOrder, mem_distinct, List.mem_append]
  exact or_iff_right_of_imp fun h ↦ of_decide_eq_true (List.mem_filter.mp h).2

/-- The handlers of the names up to the first that fails have answered, and no others. -/
theorem evaluate_cases (answer : String → Except ε String) (names : List String) :
    (∃ values, (evaluate answer names).values = .ok values ∧ (evaluate answer names).calls = names ∧
        ∀ name ∈ names, ∃ text, answer name = .ok text) ∨
      ∃ before name after error, names = before ++ name :: after ∧
        (evaluate answer names).values = .error error ∧ (evaluate answer names).calls = before ++ [name] ∧
          answer name = .error error ∧ ∀ earlier ∈ before, ∃ text, answer earlier = .ok text := by
  induction names with
  | nil => exact .inl ⟨[], rfl, rfl, fun _ hname ↦ absurd hname List.not_mem_nil⟩
  | cons first rest ih =>
    cases hfirst : answer first with
    | error error =>
      have hnone : ∀ earlier ∈ ([] : List String), ∃ text, answer earlier = .ok text := by simp
      refine .inr ⟨[], first, rest, error, rfl, ?_, ?_, hfirst, hnone⟩ <;>
        simp only [evaluate, hfirst, List.nil_append]
    | ok value =>
      obtain ⟨values, hvalues, hcalls, hall⟩ |
        ⟨before, name, after, error, rfl, hvalues, hcalls, hname, hall⟩ := ih
      · refine .inl ⟨(first, value) :: values, ?_, ?_, List.forall_mem_cons.mpr ⟨⟨value, hfirst⟩, hall⟩⟩
        · simp only [evaluate, hfirst, hvalues]
          rfl
        · simp only [evaluate, hfirst, hcalls]
      · refine .inr ⟨first :: before, name, after, error, rfl, ?_, ?_, hname,
          List.forall_mem_cons.mpr ⟨⟨value, hfirst⟩, hall⟩⟩
        · simp only [evaluate, hfirst, hvalues]
          rfl
        · simp only [evaluate, hfirst, hcalls, List.cons_append]

theorem evaluate_mapError {ε' : Type} {answer : String → Except ε String}
    {answer' : String → Except ε' String} {f : ε → ε'} {names : List String}
    (h : ∀ name ∈ names, answer' name = (answer name).mapError f) :
    (evaluate answer' names).values = (evaluate answer names).values.mapError f := by
  induction names with
  | nil => rfl
  | cons first rest ih =>
    obtain ⟨hfirst, hrest⟩ := List.forall_mem_cons.mp h
    cases hanswer : answer first with
    | error error =>
      rw [hanswer] at hfirst
      simp only [evaluate, hanswer, hfirst, Except.mapError]
    | ok value =>
      rw [hanswer] at hfirst
      simp only [evaluate, hanswer, hfirst, Except.mapError, ih hrest]
      cases (evaluate answer rest).values <;> rfl

theorem exists_handler_of_slot (h : .slot name ∈ template.pieces) :
    ∃ outcome, template.handlers.get? name = some outcome ∧ template.answer name = outcome := by
  obtain ⟨outcome, houtcome⟩ := Option.isSome_iff_exists.mp (template.handled name (mem_slotNames.mpr h))
  exact ⟨outcome, houtcome, by rw [answer, houtcome, Option.getD_some]⟩

/-- No slot of a template is found to be without a handler. -/
theorem renderLookingUp_eq (template : Template ε) :
    template.renderLookingUp = template.render.mapError .inr := by
  have hanswers : ∀ name ∈ template.evaluationOrder,
      template.lookUp name = (template.answer name).mapError .inr := by
    intro name hname
    obtain ⟨outcome, hget, hanswer⟩ := exists_handler_of_slot (mem_evaluationOrder.mp hname)
    rw [lookUp, hget, hanswer]
  rw [renderLookingUp, evaluate_mapError hanswers, render, evaluation]
  cases (evaluate template.answer template.evaluationOrder).values <;> rfl

/-- A template that does not render has a slot whose handler fails. -/
theorem exists_handler_of_render {error : ε} (h : template.render = .error error) :
    ∃ name, .slot name ∈ template.pieces ∧ template.handlers.get? name = some (.error error) := by
  have hvalues : (evaluate template.answer template.evaluationOrder).values = .error error :=
    map_eq_error.mp h
  obtain ⟨values, hok, -⟩ | ⟨before, name, after, error', horder, herror, -, hname, -⟩ :=
    evaluate_cases template.answer template.evaluationOrder
  · cases hvalues.symm.trans hok
  · cases hvalues.symm.trans herror
    have hslot : .slot name ∈ template.pieces := mem_evaluationOrder.mp (by simp [horder])
    obtain ⟨outcome, hget, hanswer⟩ := exists_handler_of_slot hslot
    exact ⟨name, hslot, by rw [hget, ← hanswer, hname]⟩

end Rendering

/-- The pieces that a template keeps name the slots that open in its source. -/
theorem exists_opens_of_slot {source : String} {handlers : Entries (Except ε String)} {template : Template ε}
    (h : ofSource source handlers = .ok template) {name : String} (hslot : .slot name ∈ template.pieces) :
    ∃ before body, Opens source.toList before body ∧ Says body (.slot name) := by
  obtain ⟨pieces, hspells, htidied⟩ := readSource_eq_ok_iff.mp (ofSource_eq_ok h).1
  rw [← htidied, ← mem_slotNames, mem_slotNames_tidied] at hslot
  obtain ⟨front, back, rfl⟩ := List.append_of_mem hslot
  obtain ⟨before, body, hopens, hcontent, -⟩ := hspells.exists_opens
  exact ⟨before, body, hopens, hcontent⟩

/-- A source is accepted if and only if every opening names a marker or a slot that has a handler. Otherwise
an opening that names nothing is what it is refused for, and without one the first slot that has no handler.
An accepted template renders without coming upon a missing handler: it fails only where the handler of a
slot does. -/
theorem ofSource_decides (source : String) (handlers : Entries (Except ε String)) :
    ((∃ template, ofSource source handlers = .ok template) ↔ IsAcceptable handlers.keys source.toList) ∧
      ((∃ fault, ofSource source handlers = .error fault ∧ fault.IsMalformed) ↔ OpensUnnamed source.toList) ∧
        (∀ name, ofSource source handlers = .error (.unhandled name) ↔
          ¬ OpensUnnamed source.toList ∧ IsFirstUnhandled handlers.keys source.toList name) ∧
          ∀ template, ofSource source handlers = .ok template →
            template.renderLookingUp = template.render.mapError .inr ∧
              ∀ error, template.render = .error error → ∃ before body name, Opens source.toList before body ∧
                Says body (.slot name) ∧ (OrderedMap.ofEntries handlers).get? name = some (.error error) := by
  refine ⟨?_, ?_, fun name ↦ ?_, fun template haccepted ↦ ⟨renderLookingUp_eq template, ?_⟩⟩
  · obtain ⟨haccepted, -, hacceptable⟩ | ⟨fault, hrefused, -, hopens⟩ |
        ⟨name, hrefused, -, hfirst⟩ := ofSource_cases source handlers
    · exact iff_of_true haccepted hacceptable
    · exact iff_of_false (by simp [hrefused]) hopens.not_isAcceptable
    · exact iff_of_false (by simp [hrefused]) hfirst.not_isAcceptable
  · obtain ⟨⟨template, haccepted⟩, hnamed, -⟩ | ⟨fault, hrefused, hfault, hopens⟩ |
        ⟨name, hrefused, hnamed, -⟩ := ofSource_cases source handlers
    · exact iff_of_false (by simp [haccepted]) hnamed
    · exact iff_of_true ⟨fault, hrefused, hfault⟩ hopens
    · exact iff_of_false (by simp [hrefused, Fault.IsMalformed]) hnamed
  · obtain ⟨⟨template, haccepted⟩, -, hacceptable⟩ | ⟨fault, hrefused, hfault, hopens⟩ |
        ⟨other, hrefused, hnamed, hfirst⟩ := ofSource_cases source handlers
    · exact iff_of_false (by simp [haccepted]) fun h ↦ h.2.not_isAcceptable hacceptable
    · refine iff_of_false (fun h ↦ ?_) fun h ↦ h.1 hopens
      cases hrefused.symm.trans h
      exact hfault
    · rw [hrefused, Except.error.injEq, Fault.unhandled.injEq]
      constructor
      · rintro rfl
        exact ⟨hnamed, hfirst⟩
      · exact fun h ↦ hfirst.unique h.2
  · intro error herror
    obtain ⟨name, hslot, hget⟩ := exists_handler_of_render herror
    obtain ⟨before, body, hopens, hcontent⟩ := exists_opens_of_slot haccepted hslot
    exact ⟨before, body, name, hopens, hcontent, by rw [← (ofSource_eq_ok haccepted).2, hget]⟩

/-- The first slot stands behind a doubled dollar sign, and the marker names no slot. -/
def guardedSource : String :=
  "$$$\x7bname\x7d$$\x7bplain\x7d$\x7b#late\x7d $\x7bvalue\x7d"

def guardedHandlers : Entries (Except Unit String) :=
  [("value", .error ()), ("name", .ok "")]

theorem ofSource_guardedSource :
    (∃ template, ofSource guardedSource guardedHandlers = .ok template ∧
      IsAcceptable guardedHandlers.keys guardedSource.toList ∧
        template.renderLookingUp = .error (.inr ()) ∧ ∃ before body name,
          Opens guardedSource.toList before body ∧ Says body (.slot name) ∧
            (OrderedMap.ofEntries guardedHandlers).get? name = some (.error ())) ∧
      IsFirstUnhandled ["name"] guardedSource.toList "value" ∧
        OpensUnnamed (guardedSource ++ "$\x7b").toList := by
  have haccepted : ofSource guardedSource guardedHandlers =
      .ok ⟨[.char '$', .slot "name"] ++ textPieces "$\x7bplain\x7d" ++
        [.marker "late", .char ' ', .slot "value"], .ofEntries guardedHandlers, by decide⟩ := by rfl
  have hdecides := ofSource_decides guardedSource guardedHandlers
  have hname : ofSource guardedSource [("name", (.ok "" : Except Unit String))] =
      .error (.unhandled "value") := by rfl
  have hopen : ofSource (guardedSource ++ "$\x7b") guardedHandlers = .error (.unterminated "") := by rfl
  obtain ⟨hlooked, hfails⟩ := hdecides.2.2.2 _ haccepted
  exact ⟨⟨_, haccepted, hdecides.1.mp ⟨_, haccepted⟩, hlooked, hfails () rfl⟩,
    (((ofSource_decides guardedSource _).2.2.1 "value").mp hname).2,
    (ofSource_decides (guardedSource ++ "$\x7b") guardedHandlers).2.1.mp ⟨_, hopen, trivial⟩⟩

end SourceGen.Template
