/-!
# Maps that keep insertion order

`Entries` are key-value pairs in the order of their first insertion. Putting a value under a known
key keeps the key's position. `OrderedMap` adds that no key occurs twice; its order is what becomes
enumeration order and emission order further on.
-/

namespace SourceGen

abbrev Entries (α : Type) := List (String × α)

namespace Entries

variable {α β : Type}

def keys (entries : Entries α) : List String :=
  entries.map Prod.fst

def values (entries : Entries α) : List α :=
  entries.map Prod.snd

def get? (key : String) : Entries α → Option α
  | [] => none
  | (k, value) :: rest => if k = key then some value else get? key rest

/-- Gives `key` the value that `f` makes of its present one; a new key goes to the end. -/
def alter (key : String) (f : Option α → α) : Entries α → Entries α
  | [] => [(key, f none)]
  | (k, value) :: rest => if k = key then (k, f (some value)) :: rest else (k, value) :: alter key f rest

def put (key : String) (value : α) (entries : Entries α) : Entries α :=
  entries.alter key fun _ ↦ value

def putAll (entries : Entries α) (later : Entries α) : Entries α :=
  later.foldl (fun acc entry ↦ acc.put entry.1 entry.2) entries

theorem keys_alter (key : String) (f : Option α → α) (entries : Entries α) :
    (entries.alter key f).keys = if key ∈ entries.keys then entries.keys else entries.keys ++ [key] := by
  induction entries with
  | nil => simp [alter, keys]
  | cons entry rest ih =>
    obtain ⟨k, value⟩ := entry
    by_cases h : k = key
    · simp [alter, keys, h]
    · have h' : ¬ key = k := fun e ↦ h e.symm
      simp only [keys] at ih
      by_cases hmem : key ∈ List.map Prod.fst rest <;> simp_all [alter, keys]

theorem nodup_keys_alter (key : String) (f : Option α → α) {entries : Entries α}
    (h : entries.keys.Nodup) : (entries.alter key f).keys.Nodup := by
  rw [keys_alter]
  split
  · exact h
  · next hmem =>
    rw [List.nodup_append]
    exact ⟨h, by simp, by simp; rintro a ha rfl; exact hmem ha⟩

theorem nodup_keys_putAll {entries : Entries α} (later : Entries α) (h : entries.keys.Nodup) :
    (entries.putAll later).keys.Nodup := by
  induction later generalizing entries with
  | nil => exact h
  | cons entry rest ih => exact ih (nodup_keys_alter _ _ h)

end Entries

structure OrderedMap (α : Type) where
  entries : Entries α
  nodup : entries.keys.Nodup

namespace OrderedMap

variable {α β : Type}

theorem ext {a b : OrderedMap α} (h : a.entries = b.entries) : a = b := by
  cases a; cases b; cases h; rfl

instance [DecidableEq α] : DecidableEq (OrderedMap α) := fun a b ↦
  decidable_of_iff (a.entries = b.entries) ⟨ext, congrArg entries⟩

def empty : OrderedMap α := ⟨[], List.nodup_nil⟩

instance : EmptyCollection (OrderedMap α) := ⟨empty⟩

instance : Inhabited (OrderedMap α) := ⟨empty⟩

def keys (m : OrderedMap α) : List String := m.entries.keys

def values (m : OrderedMap α) : List α := m.entries.values

def isEmpty (m : OrderedMap α) : Bool := m.entries.isEmpty

def size (m : OrderedMap α) : Nat := m.entries.length

def get? (m : OrderedMap α) (key : String) : Option α := m.entries.get? key

def contains (m : OrderedMap α) (key : String) : Bool := (m.get? key).isSome

def alter (m : OrderedMap α) (key : String) (f : Option α → α) : OrderedMap α :=
  ⟨m.entries.alter key f, Entries.nodup_keys_alter key f m.nodup⟩

def put (m : OrderedMap α) (key : String) (value : α) : OrderedMap α :=
  m.alter key fun _ ↦ value

def putAll (m : OrderedMap α) (later : Entries α) : OrderedMap α :=
  ⟨m.entries.putAll later, Entries.nodup_keys_putAll later m.nodup⟩

/-- A repeated key keeps its first position and takes its last value. -/
def ofEntries (entries : Entries α) : OrderedMap α :=
  ⟨Entries.putAll [] entries, Entries.nodup_keys_putAll entries List.nodup_nil⟩

end OrderedMap

end SourceGen
