import SourceGen.Json.Reader

/-!
# Passing over JSON values

A value that nobody asks for is only checked for its form: numbers are not evaluated, surrogates are not
paired, and containers may be nested to any depth.
-/

namespace SourceGen.Json

/-- Passes over the rest of a text; every step takes a character. -/
def skipText : Nat → Cursor → Except (Failure Fault) Cursor
  | 0, c => c.fail .textCutOff
  | fuel + 1, c =>
    match c.rest with
    | [] => c.fail .textCutOff
    | '"' :: _ => .ok (c.skip 1)
    | '\\' :: rest =>
      let c := c.skip 1
      match rest with
      | [] => c.fail .textCutOff
      | 'u' :: _ => do
        let (_, c) ← readHex (c.skip 1)
        skipText fuel c
      | head :: _ =>
        if "\"\\/bfnrt".toList.contains head then skipText fuel (c.skip 1)
        else c.failNext .invalidEscape
    | head :: _ => if head.toNat < 32 then c.fail .controlCharacter else skipText fuel (c.skip 1)

def skipExponent (c : Cursor) : Except (Failure Fault) Cursor :=
  let c := c.skip 1
  let c := match c.rest with
    | '+' :: _ | '-' :: _ => c.skip 1
    | _ => c
  match c.rest with
  | [] => c.fail .invalidNumber
  | head :: _ =>
    if head.isDigit then .ok (c.skipWhile Char.isDigit) else c.failNext .invalidNumber

def skipAfterDigits (c : Cursor) : Except (Failure Fault) Cursor :=
  match c.rest with
  | 'e' :: _ | 'E' :: _ => skipExponent c
  | _ => .ok c

def skipFraction (c : Cursor) : Except (Failure Fault) Cursor :=
  let c := c.skip 1
  match c.rest with
  | [] => c.fail .invalidNumber
  | head :: _ =>
    if head.isDigit then skipAfterDigits (c.skipWhile Char.isDigit)
    else c.failNext .invalidNumber

/-- Passes over a number; the cursor is behind a minus sign if there is one. -/
def skipNumber (c : Cursor) : Except (Failure Fault) Cursor :=
  match c.rest with
  | [] => c.fail .invalidNumber
  | head :: rest =>
    if !head.isDigit then c.failNext .invalidNumber
    else if head = '0' && rest.head?.any Char.isDigit then (c.skip 1).failNext .invalidNumber
    else
      let c := if head = '0' then c.skip 1 else c.skipWhile Char.isDigit
      match c.rest with
      | '.' :: _ => skipFraction c
      | _ => skipAfterDigits c

inductive Bracket where
  | list
  | record
deriving DecidableEq, Repr

def Bracket.closing : Bracket → Char
  | .list => ']'
  | .record => '}'

def Bracket.cutOff : Bracket → Fault
  | .list => .listCutOff
  | .record => .recordCutOff

def Bracket.expectedEnd : Bracket → Fault
  | .list => .expectedListEnd
  | .record => .expectedRecordEnd

/-- In a record a key and its colon come before the value. -/
def skipKey (bracket : Bracket) (c : Cursor) : Except (Failure Fault) Cursor :=
  match bracket with
  | .list => .ok c
  | .record =>
    let c := c.skipSpace
    match c.rest with
    | [] => c.fail .recordCutOff
    | '"' :: _ => do
      let c ← skipText c.rest.length (c.skip 1)
      readColon c
    | _ => c.failNext .keyNotText

/-- Where passing over a value stands, with the brackets open there. -/
inductive SkipState where
  | value (open_ : List Bracket)
  | opened (bracket : Bracket) (open_ : List Bracket)
  | after (open_ : List Bracket)

def skipSteps : Nat → SkipState → Cursor → Except (Failure Fault) Cursor
  | 0, _, c => c.fail .valueCutOff
  | _ + 1, .after [], c => .ok c
  | fuel + 1, .after (bracket :: open_), c =>
    let c := c.skipSpace
    match c.rest with
    | [] => c.fail bracket.cutOff
    | head :: _ =>
      if head = ',' then do
        let c ← skipKey bracket (c.skip 1)
        skipSteps fuel (.value (bracket :: open_)) c
      else if head = bracket.closing then skipSteps fuel (.after open_) (c.skip 1)
      else c.failNext bracket.expectedEnd
  | fuel + 1, .opened bracket open_, c =>
    let c := c.skipSpace
    match c.rest with
    | [] => c.fail bracket.cutOff
    | head :: _ =>
      if head = bracket.closing then skipSteps fuel (.after open_) (c.skip 1)
      else do
        let c ← skipKey bracket c
        skipSteps fuel (.value (bracket :: open_)) c
  | fuel + 1, .value open_, c =>
    let c := c.skipSpace
    match c.rest with
    | [] => c.fail .valueCutOff
    | 'n' :: _ => do skipSteps fuel (.after open_) (← readWord ['u', 'l', 'l'] (c.skip 1))
    | 't' :: _ => do skipSteps fuel (.after open_) (← readWord ['r', 'u', 'e'] (c.skip 1))
    | 'f' :: _ => do skipSteps fuel (.after open_) (← readWord ['a', 'l', 's', 'e'] (c.skip 1))
    | '"' :: _ => do skipSteps fuel (.after open_) (← skipText c.rest.length (c.skip 1))
    | '-' :: _ => do skipSteps fuel (.after open_) (← skipNumber (c.skip 1))
    | '[' :: _ => skipSteps fuel (.opened .list open_) (c.skip 1)
    | '{' :: _ => skipSteps fuel (.opened .record open_) (c.skip 1)
    | head :: _ =>
      if head.isDigit then do skipSteps fuel (.after open_) (← skipNumber c)
      else c.failNext .expectedValue

/-- The cursor behind a value. Every two steps take a character. -/
def skipValue (c : Cursor) : Except (Failure Fault) Cursor :=
  skipSteps (2 * c.rest.length + 2) (.value []) c

end SourceGen.Json
