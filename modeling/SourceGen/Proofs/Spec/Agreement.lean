import SourceGen.Proofs.Outcome
import SourceGen.Proofs.Spec.Written
import SourceGen.Proofs.Value.DistinctKeys
import SourceGen.Spec.DocumentSchema

/-!
# Where schema and decoder agree

On the values of some domain a schema accepts exactly what a decoder reads. What agrees for items, map
entries and fields is put together here to what agrees for lists, maps and records. A record agrees as soon
as its fields do, provided that it gives them by name and none of them twice.
-/

namespace SourceGen

variable {α β : Type}

/-- The decoder makes a datum of the value. -/
def Readable (decode : Decoder α) (value : Value) : Prop :=
  ∃ a, decode value = .ok a

/-! ## Outcomes of several fields -/

namespace Outcome

@[simp] theorem exists_ok_map {f : α → β} {outcome : Outcome α} :
    (∃ b, f <$> outcome = .ok b) ↔ ∃ a, outcome = .ok a := by
  cases outcome with
  | ok a => exact ⟨fun _ ↦ ⟨a, rfl⟩, fun _ ↦ ⟨f a, rfl⟩⟩
  | fault place error => exact ⟨nofun, nofun⟩

/-- Several fields are read if each of them is. -/
@[simp] theorem exists_ok_seq {f : Outcome (α → β)} {outcome : Outcome α} :
    (∃ b, f <*> outcome = .ok b) ↔ (∃ g, f = .ok g) ∧ ∃ a, outcome = .ok a := by
  change (∃ b, f.seq outcome = .ok b) ↔ _
  cases f with
  | ok g =>
    cases outcome with
    | ok a => exact ⟨fun _ ↦ ⟨⟨g, rfl⟩, a, rfl⟩, fun _ ↦ ⟨g a, rfl⟩⟩
    | fault place error => exact ⟨nofun, nofun⟩
  | fault place error =>
    cases outcome with
    | ok a => exact ⟨nofun, nofun⟩
    | fault place' error' =>
      simp only [seq]
      split <;> exact ⟨nofun, nofun⟩

theorem exists_toExcept_ok {outcome : Outcome α} :
    (∃ a, outcome.toExcept = .ok a) ↔ ∃ a, outcome = .ok a := by
  cases outcome with
  | ok a => exact ⟨fun _ ↦ ⟨a, rfl⟩, fun _ ↦ ⟨a, rfl⟩⟩
  | fault place error => exact ⟨nofun, nofun⟩

end Outcome

/-! ## Fields of a record -/

/-- What a record gives under a name, if anything, is of some kind. -/
def Fits (fields : Entries Value) (name : String) (kind : Value → Prop) : Prop :=
  ∀ value, fields.get? name = some value → kind value

namespace Given

variable {type : RecordType} {fields : Entries Value} {name : String} {decode : Decoder α}

/-- A field under one of its names only is read if its value is, or if it may be missing. -/
theorem exists_read_iff (hnodup : fields.keys.Nodup) {others : List String}
    (hothers : ∀ other ∈ others, other ∉ fields.keys) {fallback : Except DecodeError α} :
    (∃ a, Given.read ⟨type, fields, false⟩ name others decode fallback = .ok a) ↔
      (fields.get? name = none → ∃ a, fallback = .ok a) ∧ Fits fields name (Readable decode) := by
  cases hget : fields.get? name with
  | none =>
    have hfound : valuesOf (name :: others) 0 fields = [] := by
      apply valuesOf_eq_nil
      intro other hother
      rcases List.mem_cons.mp hother with rfl | hother
      · exact Entries.get?_eq_none_iff.mp hget
      · exact hothers other hother
    simp only [Given.read, hfound, Fits, hget]
    cases fallback <;> simp
  | some value =>
    obtain ⟨place, hfound⟩ := exists_valuesOf_eq hnodup hget hothers 0
    simp only [Given.read, hfound, Fits, hget, Option.some.injEq, forall_eq', Readable]
    cases decode value <;> simp

@[simp] theorem exists_required_iff (hnodup : fields.keys.Nodup) :
    (∃ a, Given.required ⟨type, fields, false⟩ name decode = .ok a) ↔
      (fields.get? name).isSome ∧ Fits fields name (Readable decode) := by
  rw [Given.required, exists_read_iff hnodup (by simp)]
  cases fields.get? name <;> simp

@[simp] theorem exists_defaulted_iff (hnodup : fields.keys.Nodup) {usual : α} :
    (∃ a, Given.defaulted ⟨type, fields, false⟩ name decode usual = .ok a) ↔
      Fits fields name (Readable decode) := by
  rw [Given.defaulted, exists_read_iff hnodup (by simp)]
  simp

@[simp] theorem exists_optional_iff (hnodup : fields.keys.Nodup) :
    (∃ a, Given.optional ⟨type, fields, false⟩ name decode = .ok a) ↔
      Fits fields name (Readable decode.nullable) :=
  exists_defaulted_iff hnodup

end Given

namespace Spec

theorem acceptsProperties_iff {properties : List (String × Schema)} {fields : Entries Value} :
    Schema.acceptsProperties properties fields = true ↔
      ∀ property ∈ properties, Fits fields property.1 fun value ↦ property.2.accepts value = true := by
  induction properties with
  | nil => simp [Schema.acceptsProperties]
  | cons property rest ih =>
    obtain ⟨name, schema⟩ := property
    rw [Schema.acceptsProperties, Bool.and_eq_true, ih, List.forall_mem_cons]
    refine and_congr_left fun _ ↦ ?_
    cases hget : Entries.get? name fields <;> simp [Fits, hget]

/-- On a domain of values without repeated keys the schema accepts what the decoder reads. -/
def Agrees (domain : Value → Prop) (schema : Schema) (decode : Decoder α) : Prop :=
  ∀ value, value.KeysDistinct → domain value → (schema.accepts value = true ↔ Readable decode value)

namespace Agrees

variable {domain other : Value → Prop} {schema schema' : Schema} {decode second : Decoder α}

theorem mono (h : Agrees domain schema decode) (hdomain : ∀ value, other value → domain value) :
    Agrees other schema decode :=
  fun value hkeys hvalue ↦ h value hkeys (hdomain value hvalue)

/-! ## Scalars -/

theorem text : Agrees domain .text Decoder.text := by
  intro value _ _
  cases value <;> simp [Schema.text, Schema.accepts, Schema.isOfKind, Kind.holds, Readable, Decoder.text]

theorem boolean : Agrees domain .boolean Decoder.bool := by
  intro value _ _
  cases value <;> simp [Schema.boolean, Schema.accepts, Schema.isOfKind, Kind.holds, Readable, Decoder.bool]

/-! ## Wrapping -/

/-- Notes say nothing about values. -/
@[simp] theorem accepts_noted (description : Option String) (usual : Option Value) (schema : Schema)
    (value : Value) : (Schema.noted description usual schema).accepts value = schema.accepts value := by
  rw [Schema.accepts]

@[simp] theorem accepts_about (description : String) (schema : Schema) (value : Value) :
    (Schema.about description schema).accepts value = schema.accepts value :=
  accepts_noted (some description) none schema value

@[simp] theorem accepts_usually (usual : Value) (schema : Schema) (value : Value) :
    (Schema.usually usual schema).accepts value = schema.accepts value :=
  accepts_noted none (some usual) schema value

theorem type {name description : String} (h : Agrees domain schema decode) :
    Agrees domain (.type name description schema) decode := by
  intro value hkeys hvalue
  rw [Schema.type, Schema.accepts, Schema.accepts]
  exact h value hkeys hvalue

theorem exists_map_eq_ok_iff {ε : Type} {f : α → β} {outcome : Except ε α} :
    (∃ b, f <$> outcome = .ok b) ↔ ∃ a, outcome = .ok a := by
  cases outcome with
  | ok a => exact ⟨fun _ ↦ ⟨a, rfl⟩, fun _ ↦ ⟨f a, rfl⟩⟩
  | error error => exact ⟨nofun, nofun⟩

theorem mapped {f : α → β} (h : Agrees domain schema decode) :
    Agrees domain schema fun value ↦ f <$> decode value := by
  intro value hkeys hvalue
  rw [Readable, exists_map_eq_ok_iff]
  exact h value hkeys hvalue

/-! ## Null -/

theorem readable_nullable_iff {value : Value} :
    Readable decode.nullable value ↔ value = .null ∨ Readable decode value := by
  cases value with
  | null => exact ⟨fun _ ↦ .inl rfl, fun _ ↦ ⟨none, rfl⟩⟩
  | _ =>
    simp only [reduceCtorEq, false_or]
    exact exists_map_eq_ok_iff

/-- Null stands for a missing datum on both sides. -/
theorem nullable (h : Agrees domain schema decode)
    (hschema : ∀ value, schema'.accepts value = true ↔ value = .null ∨ schema.accepts value = true) :
    Agrees domain schema' decode.nullable := by
  intro value hkeys hvalue
  rw [readable_nullable_iff, hschema, h value hkeys hvalue]

theorem orNull (h : Agrees domain schema decode) : Agrees domain schema.orNull decode.nullable := by
  refine h.nullable fun value ↦ ?_
  have hnull : Schema.isOfKind [.null] value = true ↔ value = .null := by
    cases value <;> simp [Schema.isOfKind, Kind.holds]
  rw [← hnull, Schema.orNull, Schema.accepts, Schema.acceptsAny, Schema.acceptsAny,
    Schema.acceptsAny, Schema.accepts, Bool.or_false, Bool.or_eq_true, or_comm]

theorem optionalText : Agrees domain .optionalText Decoder.text.nullable := by
  refine text.nullable fun value ↦ ?_
  cases value <;> simp [Schema.optionalText, Schema.text, Schema.accepts, Schema.isOfKind, Kind.holds]

/-! ## Lists and maps -/

theorem exists_ok_pair {ε γ : Type} {first : Except ε α} {second : Except ε β} {f : α → β → γ} :
    (∃ c, (first >>= fun a ↦ second >>= fun b ↦ .ok (f a b)) = .ok c) ↔
      (∃ a, first = .ok a) ∧ ∃ b, second = .ok b := by
  cases first with
  | error error => exact ⟨nofun, nofun⟩
  | ok a =>
    cases second with
    | error error => exact ⟨nofun, nofun⟩
    | ok b => exact ⟨fun _ ↦ ⟨⟨a, rfl⟩, b, rfl⟩, fun _ ↦ ⟨f a b, rfl⟩⟩

theorem exists_decodeItems_iff {items : List Value} :
    (∃ decoded, Decoder.decodeItems decode items = .ok decoded) ↔
      ∀ item ∈ items, Readable decode item := by
  induction items with
  | nil => simp [Decoder.decodeItems]
  | cons item rest ih =>
    rw [List.forall_mem_cons, ← ih]
    exact exists_ok_pair

theorem exists_decodeFields_iff {fields : Entries Value} :
    (∃ decoded, Decoder.decodeFields decode fields = .ok decoded) ↔
      ∀ field ∈ fields, Readable decode field.2 := by
  induction fields with
  | nil => simp [Decoder.decodeFields]
  | cons field rest ih =>
    rw [List.forall_mem_cons, ← ih]
    exact exists_ok_pair

/-- The items of a list are in the domain. -/
def Items (domain : Value → Prop) : Value → Prop
  | .list items => ∀ item ∈ items, domain item
  | _ => True

theorem list (h : Agrees domain schema decode) :
    Agrees (Items domain) (.list schema) (Decoder.list decode) := by
  intro value hkeys hvalue
  cases value with
  | list items =>
    simp only [Schema.accepts, List.all_eq_true]
    rw [Readable, Decoder.list, exists_decodeItems_iff]
    exact forall₂_congr fun item hitem ↦ h item (Value.KeysDistinct.list_iff.mp hkeys item hitem) (hvalue item hitem)
  | _ => simp [Schema.accepts, Readable, Decoder.list]

theorem list_of_forall (h : Agrees (fun _ ↦ True) schema decode) :
    Agrees (fun _ ↦ True) (.list schema) (Decoder.list decode) := by
  refine h.list.mono fun value _ ↦ ?_
  cases value <;> simp [Items]

/-- The values of a map are in the domain. -/
def Values (domain : Value → Prop) : Value → Prop
  | .record fields => ∀ field ∈ fields, domain field.2
  | _ => True

theorem map (h : Agrees domain schema decode) :
    Agrees (Values domain) schema.map (Decoder.map decode) := by
  intro value hkeys hvalue
  cases value with
  | record fields =>
    have hkind : Schema.isOfKind [.record] (.record fields) = true := rfl
    rw [Readable, Decoder.map, exists_map_eq_ok_iff, exists_decodeFields_iff]
    simp only [Schema.map, Schema.accepts, hkind, Bool.true_and, List.all_eq_true]
    exact forall₂_congr fun field hfield ↦
      h field.2 ((Value.KeysDistinct.record_iff.mp hkeys).2 field hfield) (hvalue field hfield)
  | _ => simp [Schema.map, Schema.accepts, Schema.isOfKind, Kind.holds, Readable, Decoder.map]

theorem map_of_forall (h : Agrees (fun _ ↦ True) schema decode) :
    Agrees (fun _ ↦ True) schema.map (Decoder.map decode) := by
  refine h.map.mono fun value _ ↦ ?_
  cases value <;> simp [Values]

/-! ## Alternatives and records -/

/-- Alternatives agree if each of them does. -/
theorem oneOf {name : String} (h : Agrees domain schema decode) (h' : Agrees domain schema' second) :
    Agrees domain (.anyOf [schema, schema']) (Decoder.oneOf name decode second) := by
  intro value hkeys hvalue
  have hread : Readable (Decoder.oneOf name decode second) value ↔
      Readable decode value ∨ Readable second value := by
    simp only [Readable, Decoder.oneOf]
    cases decode value with
    | ok a => simp
    | error error => cases second value <;> simp
  rw [hread, ← h value hkeys hvalue, ← h' value hkeys hvalue, Schema.accepts, Schema.acceptsAny,
    Schema.acceptsAny, Schema.acceptsAny, Bool.or_false, Bool.or_eq_true]

/-! ### Records -/

theorem accepts_record_iff {required : List String} {properties : List (String × Schema)}
    {fields : Entries Value} :
    (Schema.record required properties).accepts (.record fields) = true ↔
      (∀ name ∈ required, (fields.get? name).isSome) ∧
        ∀ property ∈ properties, Fits fields property.1 (property.2.accepts · = true) := by
  rw [Schema.accepts, Bool.and_eq_true, acceptsProperties_iff, List.all_eq_true]

/-- What stands under the given names of a record is in the domains beside them. -/
def Parts (parts : List (String × (Value → Prop))) : Value → Prop
  | .record fields => ∀ part ∈ parts, Fits fields part.1 part.2
  | _ => True

/-- A value that gives its fields by name if it gives any, with parts in the domains beside their names. -/
def ByName (parts : List (String × (Value → Prop))) (value : Value) : Prop :=
  (∀ items, value ≠ .list items) ∧ Parts parts value

section Record

variable {required : List String} {properties : List (String × Schema)} {type : RecordType}
  {read : Given → Outcome α} {parts : List (String × (Value → Prop))}

theorem record
    (h : ∀ fields : Entries Value, (Value.record fields).KeysDistinct → Parts parts (.record fields) →
      (((∀ name ∈ required, (fields.get? name).isSome) ∧
          ∀ property ∈ properties, Fits fields property.1 (property.2.accepts · = true)) ↔
        ∃ a, read ⟨type, fields, false⟩ = .ok a)) :
    Agrees (ByName parts) (.record required properties) (Decoder.record type read) := by
  intro value hkeys hvalue
  cases value with
  | record fields =>
    rw [accepts_record_iff, Readable, Decoder.record, Outcome.exists_toExcept_ok]
    exact h fields hkeys hvalue.2
  | list items => exact absurd rfl (hvalue.1 items)
  | _ => simp [Schema.accepts, Readable, Decoder.record]

/-- Fields of an alternative are never given by position. -/
theorem openRecord
    (h : ∀ fields : Entries Value, (Value.record fields).KeysDistinct → Parts parts (.record fields) →
      (((∀ name ∈ required, (fields.get? name).isSome) ∧
          ∀ property ∈ properties, Fits fields property.1 (property.2.accepts · = true)) ↔
        ∃ a, read ⟨type, fields, false⟩ = .ok a)) :
    Agrees (Parts parts) (.record required properties) (Decoder.openRecord type read) := by
  intro value hkeys hvalue
  cases value with
  | record fields =>
    rw [accepts_record_iff, Readable, Decoder.openRecord, Outcome.exists_toExcept_ok]
    exact h fields hkeys hvalue
  | _ => simp [Schema.accepts, Readable, Decoder.openRecord]

theorem openRecord_of_forall
    (h : ∀ fields : Entries Value, (Value.record fields).KeysDistinct →
      (((∀ name ∈ required, (fields.get? name).isSome) ∧
          ∀ property ∈ properties, Fits fields property.1 (property.2.accepts · = true)) ↔
        ∃ a, read ⟨type, fields, false⟩ = .ok a)) :
    Agrees domain (.record required properties) (Decoder.openRecord type read) := by
  have hopen : Agrees (Parts []) (.record required properties) (Decoder.openRecord type read) :=
    openRecord fun fields hkeys _ ↦ h fields hkeys
  refine hopen.mono fun value _ ↦ ?_
  cases value <;> simp [Parts]

end Record

/-! ### Fields -/

theorem fits_iff {fields : Entries Value} {name : String} (h : Agrees domain schema decode)
    (hkeys : (Value.record fields).KeysDistinct) (hfield : Fits fields name domain) :
    Fits fields name (schema.accepts · = true) ↔ Fits fields name (Readable decode) := by
  refine forall₂_congr fun value hvalue ↦ ?_
  have hmem : (name, value) ∈ fields := Entries.mem_of_get?_eq_some hvalue
  exact h value ((Value.KeysDistinct.record_iff.mp hkeys).2 _ hmem) (hfield value hvalue)

/-- Where all values agree, nothing has to be known of the field. -/
theorem field_iff {fields : Entries Value} (h : Agrees (fun _ ↦ True) schema decode)
    (hkeys : (Value.record fields).KeysDistinct) (name : String) :
    Fits fields name (schema.accepts · = true) ↔ Fits fields name (Readable decode) :=
  h.fits_iff hkeys fun _ _ ↦ trivial

end Agrees

end Spec

end SourceGen
