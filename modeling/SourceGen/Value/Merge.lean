import SourceGen.Value.Basic

/-!
# Deep merge

Records merge field by field: a known field keeps its position and merges with the later value, a
new field follows the others. Of any other two values the later one stands.
-/

namespace SourceGen.Value

mutual

def merge (base : Value) : Value → Value
  | .record later =>
    match base with
    | .record fields => .record (mergeFields fields later)
    | _ => .record later
  | later => later

def mergeFields (fields : List (String × Value)) : List (String × Value) → List (String × Value)
  | [] => fields
  | (key, value) :: rest =>
    mergeFields (Entries.alter key (fun present ↦
      match present with
      | some base => merge base value
      | none => value) fields) rest

end

/-- Merges documents in order, starting from the empty record. -/
def mergeAll (documents : List Value) : Value :=
  documents.foldl merge (.record [])

end SourceGen.Value
