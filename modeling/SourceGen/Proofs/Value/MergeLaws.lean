import Mathlib.Data.List.Induction
import SourceGen.Proofs.Value.MergedFields
import SourceGen.Proofs.Value.RawDocuments

/-!
# Merging documents in groups

Merging is associative, down to the order of the keys, unless two documents have records where the one
between them has something else: the later record then replaces what it would otherwise be merged with.
So documents that agree on where records are may be merged into one beforehand, and neither repeating a
document nor merging one without fields changes what is there.
-/

namespace SourceGen.Value

/-! ## Paths into values -/

def isRecord : Value → Bool
  | .record _ => true
  | _ => false

/-- What lies at the end of a path of keys. -/
def at? : List String → Value → Option Value
  | [], value => some value
  | key :: path, .record fields => (Entries.get? key fields).bind (at? path)
  | _ :: _, _ => none

/-- No path leads to a record in one value and to something else in the other. -/
def Compatible (first second : Value) : Prop :=
  ∀ path x y, first.at? path = some x → second.at? path = some y → x.isRecord = y.isRecord

/-- Wherever the outer two of three values have records, the middle one has one as well if it has anything. -/
def Spans (a b c : Value) : Prop :=
  ∀ path x y z, a.at? path = some x → b.at? path = some y → c.at? path = some z →
    x.isRecord = true → z.isRecord = true → y.isRecord = true

theorem at?_cons (key : String) (path : List String) (fields : Entries Value) :
    (Value.record fields).at? (key :: path) = (fields.get? key).bind (at? path) := rfl

/-! ## Laws of merging -/

theorem Spans.of_get? {fa fb fc : Entries Value} (h : Spans (.record fa) (.record fb) (.record fc))
    {key : String} {a b c : Value} (ha : fa.get? key = some a) (hb : fb.get? key = some b)
    (hc : fc.get? key = some c) : Spans a b c := by
  intro path x y z hx hy hz
  exact h (key :: path) x y z (by rw [at?_cons, ha]; exact hx) (by rw [at?_cons, hb]; exact hy)
    (by rw [at?_cons, hc]; exact hz)

theorem merge_record (fields later : Entries Value) :
    (Value.record fields).merge (.record later) = .record (mergeFields fields later) := by
  rw [merge]

/-- Merging fields is associative as far as merging what stands under the same key is. -/
theorem mergeFields_assoc {fa fb fc : Entries Value} (ha : (Value.record fa).KeysDistinct)
    (hb : (Value.record fb).KeysDistinct) (hc : (Value.record fc).KeysDistinct)
    (h : ∀ key x y z, fa.get? key = some x → fb.get? key = some y → fc.get? key = some z →
      (x.merge y).merge z = x.merge (y.merge z)) :
    mergeFields (mergeFields fa fb) fc = mergeFields fa (mergeFields fb fc) := by
  obtain ⟨hnodup, hfields⟩ := KeysDistinct.record_iff.mp hc
  have hleft := ha.mergeFields fb (KeysDistinct.record_iff.mp hb).2
  have hright := hb.mergeFields fc hfields
  refine Entries.eq_of_keys_eq (hleft.mergeFields fc hfields).nodup ?_ fun key ↦ ?_
  · rw [keys_mergeFields hnodup, keys_mergeFields hb.nodup, keys_mergeFields hright.nodup,
      keys_mergeFields hnodup, List.filter_append, List.filter_filter, List.append_assoc]
    refine congrArg _ (congrArg _ (List.filter_congr fun key _ ↦ ?_))
    by_cases hmem : key ∈ fa.keys <;> by_cases hmem' : key ∈ fb.keys <;> simp [hmem, hmem']
  · rw [get?_mergeFields hnodup, get?_mergeFields hb.nodup, get?_mergeFields hright.nodup,
      get?_mergeFields hnodup]
    cases hx : fa.get? key with
    | none => cases fb.get? key <;> cases fc.get? key <;> rfl
    | some x =>
      cases hy : fb.get? key with
      | none => cases fc.get? key <;> rfl
      | some y =>
        cases hz : fc.get? key with
        | none => rfl
        | some z => exact congrArg some (h key x y z hx hy hz)

theorem merge_assoc {a b c : Value} (ha : a.KeysDistinct) (hb : b.KeysDistinct)
    (hc : c.KeysDistinct) (hspans : Spans a b c) : (a.merge b).merge c = a.merge (b.merge c) := by
  induction hc generalizing a b with
  | null | bool | number | text | list => simp only [merge]
  | record hnodup hfields ih =>
    cases b with
    | record fb =>
      cases a with
      | record fa =>
        simp only [merge_record]
        refine congrArg record (mergeFields_assoc ha hb (.record hnodup hfields) ?_)
        intro key x y z hx hy hz
        exact ih _ (Entries.mem_of_get?_eq_some hz) (ha.of_get? hx) (hb.of_get? hy)
          (hspans.of_get? hx hy hz)
      | _ => simp only [merge]
    | _ =>
      cases a with
      | record fa => cases hspans [] _ _ _ rfl rfl rfl rfl rfl
      | _ => simp only [merge]

theorem merge_self {a : Value} (h : a.KeysDistinct) : a.merge a = a := by
  induction h with
  | null | bool | number | text | list => simp only [merge]
  | @record fields hnodup hfields ih =>
    have hkeys : (Value.record fields).KeysDistinct := .record hnodup hfields
    rw [merge_record]
    refine congrArg record (Entries.eq_of_keys_eq (hkeys.mergeFields fields hfields).nodup ?_ fun key ↦ ?_)
    · rw [keys_mergeFields hnodup, List.filter_eq_nil_iff.mpr (by simp), List.append_nil]
    · rw [get?_mergeFields hnodup]
      cases hget : fields.get? key with
      | none => rfl
      | some x => exact congrArg some (ih _ (Entries.mem_of_get?_eq_some hget))

/-- A record is what it gives when it is merged into one without fields. -/
theorem nil_mergeFields {fields : Entries Value} (h : (Value.record fields).KeysDistinct) :
    mergeFields [] fields = fields := by
  have hempty : (Value.record []).KeysDistinct := .record List.nodup_nil (List.forall_mem_nil _)
  have hmerged := hempty.mergeFields fields (KeysDistinct.record_iff.mp h).2
  refine Entries.eq_of_keys_eq hmerged.nodup ?_ fun key ↦ ?_
  · rw [keys_mergeFields h.nodup]
    simp [Entries.keys]
  · rw [get?_mergeFields h.nodup]
    cases fields.get? key <;> rfl

/-! ## Compatible values -/

/-- What a merge has at the end of a path is of the kind that one of the values has there. -/
theorem at?_merge {path : List String} {a b z : Value} (hb : b.KeysDistinct)
    (h : (a.merge b).at? path = some z) :
    (∃ x, a.at? path = some x ∧ z.isRecord = x.isRecord) ∨
      ∃ y, b.at? path = some y ∧ z.isRecord = y.isRecord := by
  induction path generalizing a b with
  | nil =>
    cases h
    refine .inr ⟨b, rfl, ?_⟩
    cases b with
    | record fb => cases a <;> simp [merge, isRecord]
    | _ => simp [merge]
  | cons key path ih =>
    cases b with
    | record fb =>
      cases a with
      | record fa =>
        rw [merge_record, at?_cons, get?_mergeFields hb.nodup] at h
        rw [at?_cons, at?_cons]
        cases hx : Entries.get? key fa <;> cases hy : Entries.get? key fb <;> rw [hx, hy] at h
        · cases h
        · exact .inr ⟨z, h, rfl⟩
        · exact .inl ⟨z, h, rfl⟩
        · exact ih (hb.of_get? hy) h
      | _ => exact .inr ⟨z, by simpa only [merge] using h, rfl⟩
    | _ => exact .inr ⟨z, by simpa only [merge] using h, rfl⟩

namespace Compatible

variable {first second a b : Value}

theorem symm (h : Compatible first second) : Compatible second first :=
  fun path x y hx hy ↦ (h path y x hy hx).symm

theorem merge (hb : b.KeysDistinct) (hfirst : Compatible first a) (hsecond : Compatible first b) :
    Compatible first (a.merge b) := by
  intro path x y hx hy
  rcases at?_merge hb hy with ⟨z, hz, hkind⟩ | ⟨z, hz, hkind⟩
  · rw [hkind, hfirst path x z hx hz]
  · rw [hkind, hsecond path x z hx hz]

/-- Records are compatible where what they have under the same keys is. -/
theorem record {fields others : Entries Value}
    (h : ∀ field ∈ fields, ∀ other ∈ others, field.1 = other.1 → Compatible field.2 other.2) :
    Compatible (.record fields) (.record others) := by
  intro path x y hx hy
  cases path with
  | nil =>
    cases hx
    cases hy
    rfl
  | cons key path =>
    obtain ⟨value, hvalue, hx⟩ := Option.bind_eq_some_iff.mp hx
    obtain ⟨other, hother, hy⟩ := Option.bind_eq_some_iff.mp hy
    exact h _ (Entries.mem_of_get?_eq_some hvalue) _ (Entries.mem_of_get?_eq_some hother) rfl path x y hx hy

theorem of_not_isRecord {value other : Value} (hvalue : value.isRecord = false)
    (hother : other.isRecord = false) : Compatible value other := by
  intro path x y hx hy
  cases path with
  | nil =>
    cases hx
    cases hy
    rw [hvalue, hother]
  | cons key path =>
    cases value with
    | record fields => cases hvalue
    | _ => cases hx

theorem spans (h : Compatible a b) (c : Value) : Spans a b c :=
  fun path x y _ hx hy _ hrecord _ ↦ (h path x y hx hy).symm.trans hrecord

end Compatible

/-! ## Groups of documents -/

theorem compatible_mergeAll {fields : Entries Value} {group : List Value}
    (hkeys : ∀ document ∈ group, document.KeysDistinct)
    (h : ∀ document ∈ group, Compatible (.record fields) document) :
    Compatible (.record fields) (mergeAll group) := by
  induction group using List.reverseRecOn with
  | nil => exact .record fun _ _ ↦ List.forall_mem_nil _
  | append_singleton group document ih =>
    rw [mergeAll_append_singleton]
    refine .merge (hkeys document (by simp)) (ih ?_ ?_) (h document (by simp))
    · exact fun other hother ↦ hkeys other (List.mem_append_left _ hother)
    · exact fun other hother ↦ h other (List.mem_append_left _ hother)

/-- Documents are merged one by one as they are when they have been merged into one before. -/
theorem foldl_merge_eq {base : Entries Value} {group : List Value}
    (hbase : (Value.record base).KeysDistinct) (hkeys : ∀ document ∈ group, document.KeysDistinct)
    (h : ∀ document ∈ group, Compatible (.record base) document) :
    group.foldl merge (.record base) = (Value.record base).merge (mergeAll group) := by
  -- Both sides take a further document at the end, and associativity brings it in front.
  induction group using List.reverseRecOn with
  | nil => simp [mergeAll, merge_record, mergeFields]
  | append_singleton group document ih =>
    have hfront := List.forall_mem_append.mp hkeys
    have hcompatible := (List.forall_mem_append.mp h).1
    rw [List.foldl_append, List.foldl_cons, List.foldl_nil, ih hfront.1 hcompatible,
      mergeAll_append_singleton]
    exact merge_assoc hbase (.mergeAll hfront.1) (hkeys document (by simp))
      ((compatible_mergeAll hfront.1 hcompatible).spans document)

/-- A raw document: a record that repeats no key. -/
structure IsDocument (value : Value) : Prop where
  keys : value.KeysDistinct
  record : ∃ fields, value = .record fields

/-- Documents of which no two have a record and something else at the end of the same path. -/
structure AreCompatible (documents : List Value) : Prop where
  document : ∀ document ∈ documents, IsDocument document
  pairwise : documents.Pairwise Compatible

theorem mergeAll_singleton {document : Value} (h : IsDocument document) :
    mergeAll [document] = document := by
  obtain ⟨hkeys, fields, rfl⟩ := h
  rw [mergeAll, List.foldl_cons, List.foldl_nil, merge_record, nil_mergeFields hkeys]

theorem mergeAll_self {document : Value} (h : IsDocument document) :
    mergeAll [document, document] = document := by
  rw [← List.singleton_append, mergeAll_append_singleton, mergeAll_singleton h, merge_self h.keys]

/-- Documents may be merged into one beforehand, wherever they stand, if they are compatible with those
before them. -/
theorem mergeAll_regroup {front group : List Value} (hfront : ∀ document ∈ front, IsDocument document)
    (hgroup : ∀ document ∈ group, IsDocument document)
    (h : ∀ first ∈ front, ∀ second ∈ group, Compatible first second) (back : List Value) :
    mergeAll (front ++ mergeAll group :: back) = mergeAll (front ++ group ++ back) := by
  obtain ⟨base, hbase⟩ := exists_mergeAll_eq_record fun document hmem ↦ (hfront document hmem).record
  have hkeys : (Value.record base).KeysDistinct :=
    hbase ▸ .mergeAll fun document hmem ↦ (hfront document hmem).keys
  have hcompatible : ∀ document ∈ group, Compatible (.record base) document := by
    intro document hmem
    obtain ⟨fields, rfl⟩ := (hgroup document hmem).record
    rw [← hbase]
    exact (compatible_mergeAll (fun first hfirst ↦ (hfront first hfirst).keys)
      fun first hfirst ↦ (h first hfirst _ hmem).symm).symm
  have hfold : ∀ rest, mergeAll (front ++ rest) = rest.foldl merge (.record base) := by
    intro rest
    rw [← hbase, mergeAll, mergeAll, List.foldl_append]
  rw [List.append_assoc, hfold, hfold, List.foldl_cons, List.foldl_append,
    foldl_merge_eq hkeys (fun document hmem ↦ (hgroup document hmem).keys) hcompatible]

/-- Any documents behind one another are a group of documents that are compatible. -/
theorem AreCompatible.regroup {front group back : List Value}
    (h : AreCompatible (front ++ group ++ back)) :
    mergeAll (front ++ mergeAll group :: back) = mergeAll (front ++ group ++ back) := by
  obtain ⟨hdocuments, -⟩ := List.forall_mem_append.mp h.document
  obtain ⟨hfront, hgroup⟩ := List.forall_mem_append.mp hdocuments
  exact mergeAll_regroup hfront hgroup
    (List.pairwise_append.mp (List.pairwise_append.mp h.pairwise).1).2.2 back

theorem AreCompatible.repeated {front back : List Value} {document : Value}
    (h : AreCompatible (front ++ document :: back)) :
    mergeAll (front ++ document :: document :: back) = mergeAll (front ++ document :: back) := by
  obtain ⟨hfront, hrest⟩ := List.forall_mem_append.mp h.document
  have hdocument : IsDocument document := hrest document List.mem_cons_self
  have hcompatible : ∀ first ∈ front, Compatible first document := fun first hfirst ↦
    (List.pairwise_append.mp h.pairwise).2.2 first hfirst document List.mem_cons_self
  have htwice : ∀ second ∈ [document, document], IsDocument second := by simp [hdocument]
  have hregroup := mergeAll_regroup hfront htwice (by simpa using hcompatible) back
  rw [mergeAll_self hdocument, List.append_assoc] at hregroup
  exact hregroup.symm

/-- Merging compatible documents does not depend on how they are grouped, down to the order of the keys.
A document that comes twice in a row or with one without fields merges into itself. So wherever they stand,
compatible documents may be merged into one beforehand, and a document may be repeated. -/
theorem mergeAll_grouped_or_repeated :
    (∀ a b c, AreCompatible [a, b, c] →
        mergeAll [mergeAll [a, b], c] = mergeAll [a, mergeAll [b, c]]) ∧
      (∀ a, IsDocument a →
        mergeAll [a, a] = a ∧ mergeAll [a, .record []] = a ∧ mergeAll [.record [], a] = a) ∧
      (∀ front group back, AreCompatible (front ++ group ++ back) →
        mergeAll (front ++ mergeAll group :: back) = mergeAll (front ++ group ++ back)) ∧
      ∀ front document back, AreCompatible (front ++ document :: back) →
        mergeAll (front ++ document :: document :: back) = mergeAll (front ++ document :: back) := by
  refine ⟨fun a b c h ↦ ?_, fun a h ↦ ⟨mergeAll_self h, ?_, mergeAll_singleton h⟩,
    fun front group back h ↦ h.regroup, fun front document back h ↦ h.repeated⟩
  · have hleft : mergeAll ([] ++ mergeAll [a, b] :: [c]) = mergeAll ([] ++ [a, b] ++ [c]) := h.regroup
    have hright : mergeAll ([a] ++ mergeAll [b, c] :: []) = mergeAll ([a] ++ [b, c] ++ []) := h.regroup
    exact hleft.trans hright.symm
  · obtain ⟨fields, rfl⟩ := h.record
    rw [← List.singleton_append, mergeAll_append_singleton, mergeAll_singleton h, merge_record, mergeFields]

/-- A document of definitions and scalar types. -/
def typesDocument (defines : List String) (types : Entries String) : Value :=
  .record [("defines", texts defines),
    ("dtype", .record (types.map fun (code, ctype) ↦ (code, .record [("ctype", .text ctype)])))]

theorem isDocument_typesDocument {types : Entries String} (h : types.keys.Nodup) (defines : List String) :
    IsDocument (typesDocument defines types) := by
  have htypes : (Value.record (types.map fun (code, ctype) ↦
      (code, .record [("ctype", .text ctype)]))).KeysDistinct := by
    refine .record ?_ (List.forall_mem_map.mpr fun _ _ ↦ by simp [Entries.keys])
    rwa [Entries.keys, List.map_map]
  exact ⟨by simp [typesDocument, texts, Entries.keys, htypes], _, rfl⟩

theorem compatible_typesDocument (defines others : List String) (types more : Entries String) :
    Compatible (typesDocument defines types) (typesDocument others more) := by
  have htypes : Compatible
      (.record (types.map fun (code, ctype) ↦ (code, .record [("ctype", .text ctype)])))
      (.record (more.map fun (code, ctype) ↦ (code, .record [("ctype", .text ctype)]))) := by
    refine .record ?_
    simp only [List.forall_mem_map]
    exact fun _ _ _ _ _ ↦ .record (by simpa using .of_not_isRecord rfl rfl)
  have hdefines : Compatible (texts defines) (texts others) := .of_not_isRecord rfl rfl
  exact .record (by simp [hdefines, htypes])

theorem mergeAll_grouped_or_repeated_types :
    let first := typesDocument ["A"] [("FLOAT", "float")]
    let second := typesDocument [] [("DOUBLE", "double"), ("FLOAT", "half")]
    let third := typesDocument ["B", "C"] [("INT", "int"), ("DOUBLE", "long double")]
    (AreCompatible [first, second, third] ∧ IsDocument first) ∧
      mergeAll [mergeAll [first, second], third] = mergeAll [first, mergeAll [second, third]] ∧
        mergeAll [first, first] = first ∧
          mergeAll ([first] ++ mergeAll [second] :: [third]) = mergeAll ([first] ++ [second] ++ [third]) ∧
            mergeAll ([first] ++ second :: second :: [third]) = mergeAll ([first] ++ second :: [third]) := by
  intro first second third
  have hdocument : ∀ document ∈ [first, second, third], IsDocument document := by
    simp only [List.mem_cons, List.not_mem_nil, or_false, forall_eq_or_imp, forall_eq]
    exact ⟨isDocument_typesDocument (by decide) _, isDocument_typesDocument (by decide) _,
      isDocument_typesDocument (by decide) _⟩
  have hcompatible : AreCompatible [first, second, third] :=
    ⟨hdocument, by simp [first, second, third, compatible_typesDocument]⟩
  have hfirst : IsDocument first := hdocument first List.mem_cons_self
  obtain ⟨hgrouped, hneutral, hregroup, hrepeat⟩ := mergeAll_grouped_or_repeated
  exact ⟨⟨hcompatible, hfirst⟩, hgrouped _ _ _ hcompatible, (hneutral _ hfirst).1,
    hregroup [first] [second] [third] hcompatible, hrepeat [first] second [third] hcompatible⟩

end SourceGen.Value
