import SourceGen.Distinct
import SourceGen.OrderedMap
import SourceGen.Template.Source

/-!
# Templates with their handlers

A handler answers with the text of a slot or fails. Every handler that a slot names answers once, the ones
named by markers first, and the texts are put in as they are. A template that was accepted has a handler
for every slot, so rendering it fails only where a handler does.
-/

namespace SourceGen

variable {ε : Type}

namespace Template

/-- The names of the slots in the order of their first occurrence. -/
def slotNames (pieces : List Piece) : List String :=
  distinct (pieces.filterMap fun
    | .slot name => some name
    | _ => none)

/-- The names of the markers in the order of their occurrence. -/
def markerNames (pieces : List Piece) : List String :=
  pieces.filterMap fun
    | .marker name => some name
    | _ => none

end Template

/-- Pieces, and for every slot among them a handler's answer. -/
structure Template (ε : Type) where
  pieces : List Template.Piece
  handlers : OrderedMap (Except ε String)
  handled : ∀ name ∈ Template.slotNames pieces, (handlers.get? name).isSome

namespace Template

/-- Reads a source and binds it to handlers; of several handlers of one name the last counts. -/
def ofSource (source : String) (handlers : Entries (Except ε String)) :
    Except Fault (Template ε) :=
  match readSource source with
  | .error fault => .error fault
  | .ok pieces =>
    let table := OrderedMap.ofEntries handlers
    if h : ∀ name ∈ slotNames pieces, (table.get? name).isSome then .ok ⟨pieces, table, h⟩
    else
      let unhandled := (slotNames pieces).find? fun name ↦ (table.get? name).isNone
      .error (.unhandled (unhandled.getD ""))

def placeholders (template : Template ε) : List String :=
  slotNames template.pieces

def markers (template : Template ε) : List String :=
  markerNames template.pieces

/-- The order in which the handlers answer: slots that markers name, then the others. -/
def evaluationOrder (template : Template ε) : List String :=
  distinct (template.markers.filter (· ∈ template.placeholders) ++ template.placeholders)

/-! ## Rendering -/

/-- The answers asked for one after the other, up to the first failure, and the names asked. -/
structure Evaluation (ε : Type) where
  calls : List String
  values : Except ε (Entries String)

def evaluate (answer : String → Except ε String) : List String → Evaluation ε
  | [] => ⟨[], .ok []⟩
  | name :: rest =>
    match answer name with
    | .error error => ⟨[name], .error error⟩
    | .ok value =>
      let later := evaluate answer rest
      ⟨name :: later.calls, ((name, value) :: ·) <$> later.values⟩

def answer (template : Template ε) (name : String) : Except ε String :=
  (template.handlers.get? name).getD (.ok "")

def evaluation (template : Template ε) : Evaluation ε :=
  evaluate template.answer template.evaluationOrder

def Piece.fill (values : Entries String) : Piece → List Char
  | .char c => [c]
  | .slot name => ((values.get? name).getD "").toList
  | .marker _ => []

def render (template : Template ε) : Except ε String :=
  (fun values ↦ String.ofList (template.pieces.flatMap (·.fill values))) <$>
    template.evaluation.values

/-- The names of the handlers that answer during rendering, in their order. -/
def calls (template : Template ε) : List String :=
  template.evaluation.calls

end Template

end SourceGen
