import SourceGen.Proofs.OrderedMap
import SourceGen.Proofs.Outcome
import SourceGen.Proofs.Value.DistinctKeys
import SourceGen.Spec.Load

/-!
# Where raw documents come from

Both readers put the fields of a record in one by one, and so does the merging of documents: a key that
comes again takes the place of the first. So the raw documents that are checked and read into the model
repeat no key.
-/

namespace SourceGen

namespace Value.KeysDistinct

/-! ## Altering and merging records -/

theorem alter {fields : Entries Value} {key : String} {f : Option Value → Value}
    (hfields : (Value.record fields).KeysDistinct) (hvalue : (f (fields.get? key)).KeysDistinct) :
    (Value.record (Entries.alter key f fields)).KeysDistinct := by
  obtain ⟨hnodup, hmembers⟩ := record_iff.mp hfields
  have hnodup' := Entries.nodup_keys_alter key f hnodup
  refine .record hnodup' fun field hfield ↦ ?_
  have hget := Entries.get?_eq_some_of_mem hnodup' hfield
  rw [Entries.get?_alter] at hget
  split at hget
  · rwa [← Option.some.inj hget]
  · exact hmembers _ (Entries.mem_of_get?_eq_some hget)

theorem put {fields : Entries Value} {key : String} {value : Value}
    (hfields : (Value.record fields).KeysDistinct) (hvalue : value.KeysDistinct) :
    (Value.record (Entries.put key value fields)).KeysDistinct :=
  hfields.alter hvalue

theorem of_get? {fields : Entries Value} {key : String} {value : Value}
    (hfields : (Value.record fields).KeysDistinct) (h : fields.get? key = some value) :
    value.KeysDistinct :=
  (record_iff.mp hfields).2 _ (Entries.mem_of_get?_eq_some h)

mutual

theorem merge {base : Value} (hbase : base.KeysDistinct) :
    ∀ {later : Value}, later.KeysDistinct → (base.merge later).KeysDistinct
  | .null, h | .bool _, h | .number _, h | .text _, h | .list _, h => by
    simpa only [Value.merge] using h
  | .record later, h => by
    cases base with
    | record fields => exact mergeFields hbase later (record_iff.mp h).2
    | _ => simpa only [Value.merge] using h

theorem mergeFields {fields : Entries Value} (hfields : (Value.record fields).KeysDistinct) :
    ∀ later : Entries Value, (∀ field ∈ later, field.2.KeysDistinct) →
      (Value.record (Value.mergeFields fields later)).KeysDistinct
  | [], _ => hfields
  | (key, value) :: rest, h => by
    obtain ⟨hvalue, hrest⟩ := List.forall_mem_cons.mp h
    refine mergeFields (hfields.alter ?_) rest hrest
    cases hget : fields.get? key with
    | none => exact hvalue
    | some base => exact (hfields.of_get? hget).merge hvalue

end

theorem mergeAll {documents : List Value} (h : ∀ document ∈ documents, document.KeysDistinct) :
    (Value.mergeAll documents).KeysDistinct := by
  have hmerged : ∀ base : Value, base.KeysDistinct →
      (documents.foldl Value.merge base).KeysDistinct := by
    induction documents with
    | nil => exact fun _ hbase ↦ hbase
    | cons document rest ih =>
      obtain ⟨hdocument, hrest⟩ := List.forall_mem_cons.mp h
      exact fun base hbase ↦ ih hrest _ (hbase.merge hdocument)
  exact hmerged _ (.record List.nodup_nil fun _ hfield ↦ absurd hfield List.not_mem_nil)

end Value.KeysDistinct

/-- Records merge into a record. -/
theorem Value.exists_mergeAll_eq_record {documents : List Value}
    (h : ∀ document ∈ documents, ∃ fields, document = .record fields) :
    ∃ fields, Value.mergeAll documents = .record fields := by
  have hmerged : ∀ base, ∃ fields, documents.foldl Value.merge (.record base) = .record fields := by
    induction documents with
    | nil => exact fun base ↦ ⟨base, rfl⟩
    | cons document rest ih =>
      obtain ⟨⟨later, rfl⟩, hrest⟩ := List.forall_mem_cons.mp h
      exact fun base ↦ ih hrest (Value.mergeFields base later)
  exact hmerged []

/-! ## Reading JSON -/

namespace Json

/-- A reader of values none of which repeats a key. -/
def YieldsDistinct (item : Cursor → Except (Failure Fault) (Value × Cursor)) : Prop :=
  ∀ c value c', item c = .ok (value, c') → value.KeysDistinct

variable {item : Cursor → Except (Failure Fault) (Value × Cursor)}

theorem yieldsDistinct_readItems (hitem : YieldsDistinct item) {done : List Value}
    (hdone : ∀ value ∈ done, value.KeysDistinct) (fuel : Nat) :
    YieldsDistinct (readItems item done fuel) := by
  induction fuel generalizing done with
  | zero => exact fun _ _ _ h ↦ nomatch h
  | succ fuel ih =>
    intro c value c' h
    obtain ⟨⟨more, behind⟩, -, hnext⟩ := bind_eq_ok.mp h
    dsimp only at hnext
    split at hnext
    · obtain ⟨⟨first, rest⟩, hfirst, hrest⟩ := bind_eq_ok.mp hnext
      exact ih (List.forall_mem_cons.mpr ⟨hitem _ _ _ hfirst, hdone⟩) _ _ _ hrest
    · cases hnext
      exact .list fun value hvalue ↦ hdone value (List.mem_reverse.mp hvalue)

theorem yieldsDistinct_readFields (hitem : YieldsDistinct item) (first : Bool)
    {done : Entries Value} (hdone : (Value.record done).KeysDistinct) (fuel : Nat) :
    YieldsDistinct (readFields item first done fuel) := by
  induction fuel generalizing first done with
  | zero => exact fun _ _ _ h ↦ nomatch h
  | succ fuel ih =>
    intro c value c' h
    obtain ⟨⟨more, behind⟩, -, hnext⟩ := bind_eq_ok.mp h
    dsimp only at hnext
    split at hnext
    · obtain ⟨⟨key, c₁⟩, -, hnext⟩ := bind_eq_ok.mp hnext
      obtain ⟨c₂, -, hnext⟩ := bind_eq_ok.mp hnext
      obtain ⟨⟨field, c₃⟩, hfield, hrest⟩ := bind_eq_ok.mp hnext
      -- A key that comes again replaces its value.
      exact ih false (hdone.put (hitem _ _ _ hfield)) _ _ _ hrest
    · cases hnext
      exact hdone

/-- A value is a scalar or a container of values one level further down. -/
theorem readValue_eq_ok {depth : Nat} {c c' : Cursor} {value : Value}
    (h : readValue depth c = .ok (value, c')) :
    value.KeysDistinct ∨ ∃ inner, depth = inner + 1 ∧ ∃ fuel start,
      readItems (readValue inner) [] fuel start = .ok (value, c') ∨
        readFields (readValue inner) true [] fuel start = .ok (value, c') := by
  unfold readValue at h
  dsimp only at h
  split at h
  · cases h
  · obtain ⟨_, -, hvalue⟩ := bind_eq_ok.mp h
    cases hvalue
    exact .inl .null
  · obtain ⟨_, -, hvalue⟩ := bind_eq_ok.mp h
    cases hvalue
    exact .inl (.bool true)
  · obtain ⟨_, -, hvalue⟩ := bind_eq_ok.mp h
    cases hvalue
    exact .inl (.bool false)
  · obtain ⟨⟨text, _⟩, -, hvalue⟩ := bind_eq_ok.mp h
    cases hvalue
    exact .inl (.text text)
  · obtain ⟨⟨number, _⟩, -, hvalue⟩ := bind_eq_ok.mp h
    cases hvalue
    exact .inl (.number number)
  · cases depth with
    | zero => cases h
    | succ inner => exact .inr ⟨inner, rfl, _, _, .inl h⟩
  · cases depth with
    | zero => cases h
    | succ inner => exact .inr ⟨inner, rfl, _, _, .inr h⟩
  · split at h
    · obtain ⟨⟨number, _⟩, -, hvalue⟩ := bind_eq_ok.mp h
      cases hvalue
      exact .inl (.number number)
    · cases h

theorem yieldsDistinct_readValue (depth : Nat) : YieldsDistinct (readValue depth) := by
  induction depth with
  | zero =>
    intro c value c' h
    obtain hscalar | ⟨_, hdepth, -⟩ := readValue_eq_ok h
    · exact hscalar
    · cases hdepth
  | succ depth ih =>
    intro c value c' h
    obtain hscalar | ⟨_, ⟨⟩, fuel, start, hitems | hfields⟩ := readValue_eq_ok h
    · exact hscalar
    · exact yieldsDistinct_readItems ih (by simp) fuel _ _ _ hitems
    · exact yieldsDistinct_readFields ih true (by simp [Entries.keys]) fuel _ _ _ hfields

theorem keysDistinct_of_read {text : String} {value : Value} (h : read text = .ok value) :
    value.KeysDistinct := by
  unfold read at h
  split at h
  · next hdocument =>
    cases h
    obtain ⟨⟨_, _⟩, hvalue, hend⟩ := bind_eq_ok.mp hdocument
    obtain ⟨_, -, hdone⟩ := bind_eq_ok.mp hend
    cases hdone
    exact yieldsDistinct_readValue _ _ _ _ hvalue
  · cases h

end Json

/-! ## Reading YAML -/

namespace Yaml

theorem keysDistinct_of_integerValue? {text : String} {value : Value}
    (h : integerValue? text = some (.ok value)) : value.KeysDistinct := by
  obtain ⟨n, -, hvalue⟩ := Option.bind_eq_some_iff.mp h
  split at hvalue
  · cases hvalue
    exact .number _
  · split at hvalue <;> cases hvalue

theorem keysDistinct_of_realValue? {text : String} {value : Value}
    (h : realValue? text = some value) : value.KeysDistinct := by
  unfold realValue? at h
  split at h
  · cases h
    exact .null
  · obtain ⟨x, -, rfl⟩ := Option.map_eq_some_iff.mp h
    exact .number _

theorem keysDistinct_of_plainValue {text : String} {value : Value}
    (h : plainValue text = .ok value) : value.KeysDistinct := by
  unfold plainValue at h
  split at h
  · cases h
    exact .null
  · split at h
    · cases h
      exact .bool _
    · next hinteger => exact keysDistinct_of_integerValue? (h ▸ hinteger)
    · split at h
      · cases h
        exact .text text
      · cases h
        cases hreal : realValue? text with
        | none => exact .text text
        | some real => exact keysDistinct_of_realValue? hreal

namespace Document

variable {doc : Document} {item : NodeReader}

/-- A reader of nodes that gives no value that repeats a key. -/
def YieldsDistinct (item : NodeReader) : Prop :=
  ∀ path s value s', item path s = .ok (value, s') → value.KeysDistinct

theorem keysDistinct_of_taggedValue {tag : Tag} {text : String} {plain : Bool} {value : Value}
    (h : taggedValue tag text plain = .ok value) : value.KeysDistinct := by
  unfold taggedValue at h
  dsimp only at h
  split at h
  · split at h
    · next htruth =>
      cases h
      obtain ⟨truth, -, rfl⟩ := Option.map_eq_some_iff.mp htruth
      exact .bool truth
    · cases h
  · split at h
    · split at h
      · next hinteger => exact keysDistinct_of_integerValue? (mapError_eq_ok.mp h ▸ hinteger)
      · cases h
    · split at h
      · split at h
        · next hreal =>
          cases h
          exact keysDistinct_of_realValue? hreal
        · cases h
      · split at h
        · split at h
          · next hnull =>
            cases h
            split at hnull <;> cases hnull
            exact .null
          · cases h
        · split at h
          · exact keysDistinct_of_plainValue (mapError_eq_ok.mp h)
          · cases h
            exact .text text

theorem keysDistinct_of_scalarValue {text : String} {plain : Bool} {tag : Option Tag} {value : Value}
    (h : scalarValue text plain tag = .ok value) : value.KeysDistinct := by
  unfold scalarValue at h
  split at h
  · exact keysDistinct_of_taggedValue h
  · split at h
    · exact keysDistinct_of_plainValue (mapError_eq_ok.mp h)
    · cases h
      exact .text text

theorem readItems_keysDistinct (hitem : YieldsDistinct item) {path : NodePath} {done : List Value}
    (hdone : ∀ value ∈ done, value.KeysDistinct) {fuel : Nat} {s s' : ReadState} {value : Value}
    (h : doc.readItems item path done fuel s = .ok (value, s')) : value.KeysDistinct := by
  induction fuel generalizing done s with
  | zero => cases h
  | succ fuel ih =>
    obtain ⟨⟨event, place⟩, -, hnext⟩ := bind_eq_ok.mp h
    dsimp only at hnext
    split at hnext
    · cases hnext
      exact .list fun value hvalue ↦ hdone value (List.mem_reverse.mp hvalue)
    · obtain ⟨⟨first, s₁⟩, hfirst, hrest⟩ := bind_eq_ok.mp hnext
      exact ih (List.forall_mem_cons.mpr ⟨hitem _ _ _ _ hfirst, hdone⟩) hrest

theorem readFields_keysDistinct (hitem : YieldsDistinct item) {path : NodePath}
    {done : Entries Value} (hdone : (Value.record done).KeysDistinct) {fuel : Nat}
    {s s' : ReadState} {value : Value}
    (h : doc.readFields item path done fuel s = .ok (value, s')) : value.KeysDistinct := by
  induction fuel generalizing done s with
  | zero => cases h
  | succ fuel ih =>
    obtain ⟨⟨event, place⟩, -, hnext⟩ := bind_eq_ok.mp h
    dsimp only at hnext
    split at hnext
    · cases hnext
      exact hdone
    · obtain ⟨⟨key, name, s₁⟩, -, hnext⟩ := bind_eq_ok.mp hnext
      obtain ⟨⟨field, s₂⟩, hfield, hrest⟩ := bind_eq_ok.mp hnext
      exact ih (hdone.put (hitem _ _ _ _ hfield)) hrest

/-- A node is a scalar or a collection of nodes one level further down. -/
theorem readNode_eq_ok {depth : Nat} {path : NodePath} {s s' : ReadState} {value : Value}
    (h : doc.readNode depth path s = .ok (value, s')) :
    value.KeysDistinct ∨ ∃ inner, depth = inner + 1 ∧ ∃ fuel start last,
      doc.readItems (doc.readNode inner) path [] fuel start = .ok (value, last) ∨
        doc.readFields (doc.readNode inner) path [] fuel start = .ok (value, last) := by
  unfold readNode at h
  obtain ⟨⟨event, place, start, behind⟩, -, hnext⟩ := bind_eq_ok.mp h
  dsimp only at hnext
  split at hnext
  · split at hnext
    · cases hnext
    · split at hnext
      · next hscalar =>
        cases hnext
        exact .inl (keysDistinct_of_scalarValue hscalar)
      · cases hnext
  · split at hnext
    · cases hnext
    · cases depth with
      | zero => cases hnext
      | succ inner =>
        obtain ⟨⟨_, last⟩, hitems, hdone⟩ := bind_eq_ok.mp hnext
        cases hdone
        exact .inr ⟨inner, rfl, _, _, last, .inl hitems⟩
  · split at hnext
    · cases hnext
    · cases depth with
      | zero => cases hnext
      | succ inner =>
        obtain ⟨⟨_, last⟩, hfields, hdone⟩ := bind_eq_ok.mp hnext
        cases hdone
        exact .inr ⟨inner, rfl, _, _, last, .inr hfields⟩
  · cases hnext

theorem yieldsDistinct_readNode (depth : Nat) : YieldsDistinct (doc.readNode depth) := by
  induction depth with
  | zero =>
    intro path s value s' h
    obtain hscalar | ⟨_, hdepth, -⟩ := readNode_eq_ok h
    · exact hscalar
    · cases hdepth
  | succ depth ih =>
    intro path s value s' h
    obtain hscalar | ⟨_, ⟨⟩, fuel, start, last, hitems | hfields⟩ := readNode_eq_ok h
    · exact hscalar
    · exact readItems_keysDistinct ih (by simp) hitems
    · exact readFields_keysDistinct ih (by simp [Entries.keys]) hfields

end Document

theorem keysDistinct_of_read {text : String} {value : Value} (h : read text = .ok value) :
    value.KeysDistinct := by
  unfold read at h
  dsimp only at h
  split at h
  · cases h
    exact .null
  · obtain ⟨⟨first, _⟩, hfirst, hnext⟩ := bind_eq_ok.mp h
    dsimp only at hnext
    split at hnext
    · cases hnext
    · split at hnext
      · cases hnext
        exact Document.yieldsDistinct_readNode _ _ _ _ _ hfirst
      · cases hnext

end Yaml

/-! ## Loading -/

namespace Spec

/-- The root of a document that was read is a record without repeated keys. -/
theorem exists_record_of_readRoot {text file : String} {format : Format} {value : Value}
    (h : readRoot text format file = .ok value) :
    ∃ fields, value = .record fields ∧ (Value.record fields).KeysDistinct := by
  obtain ⟨raw, hraw, hroot⟩ := bind_eq_ok.mp h
  have hdistinct : raw.KeysDistinct := by
    cases format with
    | json => exact Json.keysDistinct_of_read (mapError_eq_ok.mp hraw)
    | yaml => exact Yaml.keysDistinct_of_read (mapError_eq_ok.mp hraw)
  split at hroot
  · cases hroot
    exact ⟨[], rfl, by simp [Entries.keys]⟩
  · cases hroot
    exact ⟨_, rfl, hdistinct⟩
  · cases hroot

end Spec

end SourceGen
