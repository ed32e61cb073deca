import SourceGen.Proofs.Spec.Written
import SourceGen.Spec.DocumentSchema

/-!
# Values that a schema accepts and a decoder reads

Accepting and reading go through a value side by side. What holds of items, of map entries and of slots is
put together here to what holds of lists, maps and records, so that for a type of the model only its
slots are left to name.
-/

namespace SourceGen.Spec

variable {α β : Type} {schema other : Schema} {decode : Decoder α} {value : Value} {a : α}

/-- The schema accepts a value, and the decoder makes the given datum of it. -/
structure Reads (schema : Schema) (decode : Decoder α) (value : Value) (a : α) : Prop where
  accepts : schema.accepts value = true
  decodes : decode value = .ok a

namespace Reads

theorem text (s : String) : Reads .text Decoder.text (.text s) s := ⟨rfl, rfl⟩

theorem optionalText (s : String) : Reads .optionalText Decoder.text (.text s) s := ⟨rfl, rfl⟩

theorem boolean (b : Bool) : Reads .boolean Decoder.bool (.bool b) b := ⟨rfl, rfl⟩

theorem orNull (h : Reads schema decode value a) : Reads schema.orNull decode value a where
  accepts := by
    rw [Schema.orNull, Schema.accepts, Schema.acceptsAny, h.accepts]
    rfl
  decodes := h.decodes

/-- Notes and names say nothing about values. -/
theorem noted {description : Option String} {usual : Option Value} (h : Reads schema decode value a) :
    Reads (.noted description usual schema) decode value a where
  accepts := by
    rw [Schema.accepts]
    exact h.accepts
  decodes := h.decodes

theorem type {name description : String} (h : Reads schema decode value a) :
    Reads (.type name description schema) decode value a where
  accepts := by
    rw [Schema.type, Schema.accepts, Schema.accepts]
    exact h.accepts
  decodes := h.decodes

/-! ## Lists and maps -/

theorem list {encode : α → Value} (h : ∀ item, Reads schema decode (encode item) item)
    (items : List α) : Reads (.list schema) (Decoder.list decode) (listValue encode items) items where
  accepts := by
    simp only [listValue, Schema.accepts, List.all_map, List.all_eq_true, Function.comp_apply]
    exact fun item _ ↦ (h item).accepts
  decodes := by
    change Decoder.decodeItems decode (items.map encode) = .ok items
    induction items with
    | nil => rfl
    | cons item rest ih =>
      rw [List.map_cons, Decoder.decodeItems, (h item).decodes, ih]
      rfl

theorem texts (items : List String) :
    Reads (.list .text) (Decoder.list Decoder.text) (Value.texts items) items :=
  list text items

theorem decodeFields_map {encode : α → Value} (h : ∀ item, decode (encode item) = .ok item)
    (entries : Entries α) :
    Decoder.decodeFields decode (entries.map fun entry ↦ (entry.1, encode entry.2)) = .ok entries := by
  induction entries with
  | nil => rfl
  | cons entry rest ih =>
    rw [List.map_cons, Decoder.decodeFields, h, ih]
    rfl

/-- A map is read back with its keys in the same order. -/
theorem table {kinds : List Kind} (hkinds : .record ∈ kinds) {encode : α → Value}
    (h : ∀ item, Reads schema decode (encode item) item) (m : OrderedMap α) :
    Reads (.table kinds schema) (Decoder.map decode) (mapValue encode m) m where
  accepts := by
    have hkind : ∀ fields, Schema.isOfKind kinds (.record fields) = true := fun fields ↦
      List.any_eq_true.mpr ⟨.record, hkinds, rfl⟩
    simp only [mapValue, Schema.accepts, hkind, Bool.true_and, List.all_map, List.all_eq_true,
      Function.comp_apply]
    exact fun entry _ ↦ (h entry.2).accepts
  decodes := by
    rw [mapValue, Decoder.map, decodeFields_map fun item ↦ (h item).decodes]
    exact congrArg Except.ok m.ofEntries_entries

theorem map {encode : α → Value} (h : ∀ item, Reads schema decode (encode item) item)
    (m : OrderedMap α) : Reads schema.map (Decoder.map decode) (mapValue encode m) m :=
  table List.mem_cons_self h m

/-! ## Alternatives -/

theorem first {name : String} {second : Decoder α} (h : Reads schema decode value a) :
    Reads (.anyOf [schema, other]) (Decoder.oneOf name decode second) value a where
  accepts := by
    rw [Schema.accepts, Schema.acceptsAny, h.accepts]
    rfl
  decodes := by rw [Decoder.oneOf, h.decodes]

theorem second {name : String} {first : Decoder α} {error : DecodeError}
    (hfirst : first value = .error error) (h : Reads other decode value a) :
    Reads (.anyOf [schema, other]) (Decoder.oneOf name first decode) value a where
  accepts := by
    rw [Schema.accepts, Schema.acceptsAny, Schema.acceptsAny, h.accepts, Bool.true_or, Bool.or_true]
  decodes := by
    rw [Decoder.oneOf, hfirst]
    simp only [h.decodes]

end Reads

/-! ## Slots -/

/-- A slot is read: from its value if it has one, and as the usual datum if it has none. -/
structure ReadsSlot (slots : OrderedMap (Option Value)) (name : String) (schema : Schema)
    (decode : Decoder α) (usual : Option α) (a : α) : Prop where
  reads : ∀ value, slots.value? name = some value → Reads schema decode value a
  missing : slots.value? name = none → usual = some a

namespace ReadsSlot

variable {slots : OrderedMap (Option Value)} {name : String} {usual : Option α}

theorem given (hslot : slots.value? name = some value) (h : Reads schema decode value a) :
    ReadsSlot slots name schema decode usual a where
  reads found hfound := by
    rw [hslot, Option.some.injEq] at hfound
    exact hfound ▸ h
  missing hnone := by
    rw [hslot] at hnone
    cases hnone

/-- A slot that is left empty where the datum is the usual one. -/
theorem unlessUsual {written : Bool} {usual : α}
    (hslot : slots.value? name = if written then some value else none)
    (h : Reads schema decode value a) (husual : written = false → usual = a) :
    ReadsSlot slots name schema decode (some usual) a where
  reads found hfound := by
    rw [hslot] at hfound
    split at hfound
    · rw [Option.some.injEq] at hfound
      exact hfound ▸ h
    · cases hfound
  missing hnone := by
    rw [hslot] at hnone
    cases written with
    | true => cases hnone
    | false => rw [husual rfl]

/-- A slot for an option whose data are never written as null. -/
theorem option {encode : α → Value} {datum : Option α}
    (hslot : slots.value? name = datum.map encode) (hnull : ∀ x, encode x ≠ .null)
    (h : ∀ x, Reads schema decode (encode x) x) :
    ReadsSlot slots name schema decode.nullable (some none) datum where
  reads found hfound := by
    rw [hslot] at hfound
    obtain ⟨x, rfl, rfl⟩ := Option.map_eq_some_iff.mp hfound
    refine ⟨(h x).accepts, ?_⟩
    rw [Decoder.nullable, (h x).decodes]
    · rfl
    · exact hnull x
  missing hnone := by
    rw [hslot, Option.map_eq_none_iff] at hnone
    rw [hnone]

theorem text {s : String} (hslot : slots.value? name = some (.text s)) {usual : Option String} :
    ReadsSlot slots name .text Decoder.text usual s :=
  given hslot (.text s)

theorem optionalText {datum : Option String} (hslot : slots.value? name = datum.map .text) :
    ReadsSlot slots name .optionalText (Decoder.nullable Decoder.text) (some none) datum :=
  option hslot (fun _ ↦ nofun) .optionalText

theorem boolean {written b usual : Bool}
    (hslot : slots.value? name = if written then some (.bool b) else none)
    (husual : written = false → usual = b) :
    ReadsSlot slots name .boolean Decoder.bool (some usual) b :=
  unlessUsual hslot (.boolean b) husual

/-- A list of texts that is written unless it is empty. -/
theorem texts {items : List String}
    (hslot : slots.value? name = if !items.isEmpty then some (Value.texts items) else none) :
    ReadsSlot slots name (.list .text) (Decoder.list Decoder.text) (some []) items := by
  refine unlessUsual hslot (.texts items) fun hempty ↦ ?_
  cases items with
  | nil => rfl
  | cons item rest => cases hempty

/-- A map that is written unless it is empty. -/
theorem map {encode : α → Value} {m : OrderedMap α}
    (hslot : slots.value? name = if !m.isEmpty then some (mapValue encode m) else none)
    (h : ∀ item, Reads schema decode (encode item) item) :
    ReadsSlot slots name schema.map (Decoder.map decode) (some ∅) m := by
  refine unlessUsual hslot (.map h m) fun hempty ↦ ?_
  have hentries : m.entries = [] := OrderedMap.isEmpty_iff.mp (by simpa using hempty)
  exact OrderedMap.ext hentries.symm

/-! ### Reading a slot -/

variable {type : RecordType}

theorem required (h : ReadsSlot slots name schema decode none a) :
    Given.required ⟨type, slots.written, false⟩ name decode = .ok a := by
  cases hvalue : slots.value? name with
  | none => cases h.missing hvalue
  | some value =>
    exact Given.read_of_value?_eq_some hvalue (fun _ hother ↦ absurd hother List.not_mem_nil)
      (h.reads value hvalue).decodes

theorem read {others : List String} {usual : α} (h : ReadsSlot slots name schema decode (some usual) a)
    (hothers : ∀ other ∈ others, other ∉ slots.keys) :
    Given.read ⟨type, slots.written, false⟩ name others decode (.ok usual) = .ok a := by
  cases hvalue : slots.value? name with
  | none =>
    have husual : usual = a := Option.some.inj (h.missing hvalue)
    exact Given.read_of_value?_eq_none hvalue hothers (congrArg Except.ok husual)
  | some value =>
    exact Given.read_of_value?_eq_some hvalue hothers (h.reads value hvalue).decodes

theorem defaulted {usual : α} (h : ReadsSlot slots name schema decode (some usual) a) :
    Given.defaulted ⟨type, slots.written, false⟩ name decode usual = .ok a :=
  h.read fun _ hother ↦ absurd hother List.not_mem_nil

theorem optional {datum : Option α} (h : ReadsSlot slots name schema decode.nullable (some none) datum) :
    Given.optional ⟨type, slots.written, false⟩ name decode = .ok datum :=
  h.defaulted

theorem accepts (h : ReadsSlot slots name schema decode usual a) :
    ∀ value, slots.value? name = some value → schema.accepts value = true :=
  fun value hvalue ↦ (h.reads value hvalue).accepts

end ReadsSlot

/-! ## Records -/

theorem acceptsProperties_written {properties : List (String × Schema)}
    {slots : OrderedMap (Option Value)}
    (h : ∀ property ∈ properties, ∀ value, slots.value? property.1 = some value →
      property.2.accepts value = true) :
    Schema.acceptsProperties properties slots.written = true := by
  induction properties with
  | nil => rfl
  | cons property rest ih =>
    obtain ⟨name, schema⟩ := property
    obtain ⟨hfirst, hrest⟩ := List.forall_mem_cons.mp h
    rw [Schema.acceptsProperties, ih hrest, Bool.and_true, slots.get?_written]
    cases hvalue : slots.value? name with
    | none => rfl
    | some value => exact hfirst value hvalue

/-- A record is accepted if all it must have has a value and every value fits its property. -/
theorem accepts_record_written {required : List String} {properties : List (String × Schema)}
    {slots : OrderedMap (Option Value)}
    (hrequired : required.all (fun name ↦ (slots.value? name).isSome) = true)
    (hproperties : ∀ property ∈ properties, ∀ value, slots.value? property.1 = some value →
      property.2.accepts value = true) :
    (Schema.record required properties).accepts (.record slots.written) = true := by
  simp only [Schema.accepts, slots.get?_written, hrequired, Bool.true_and]
  exact acceptsProperties_written hproperties

section Record

variable {required : List String} {properties : List (String × Schema)}
  {slots : OrderedMap (Option Value)} {type : RecordType} {read : Given → Outcome α}

theorem Reads.record (hrequired : required.all (fun name ↦ (slots.value? name).isSome) = true)
    (hproperties : ∀ property ∈ properties, ∀ value, slots.value? property.1 = some value →
      property.2.accepts value = true)
    (hread : read ⟨type, slots.written, false⟩ = .ok a) :
    Reads (.record required properties) (Decoder.record type read) (.record slots.written) a where
  accepts := accepts_record_written hrequired hproperties
  decodes := by
    rw [Decoder.record, hread]
    rfl

theorem Reads.openRecord (hrequired : required.all (fun name ↦ (slots.value? name).isSome) = true)
    (hproperties : ∀ property ∈ properties, ∀ value, slots.value? property.1 = some value →
      property.2.accepts value = true)
    (hread : read ⟨type, slots.written, false⟩ = .ok a) :
    Reads (.record required properties) (Decoder.openRecord type read) (.record slots.written) a where
  accepts := accepts_record_written hrequired hproperties
  decodes := by
    rw [Decoder.openRecord, hread]
    rfl

end Record

end SourceGen.Spec
