import SourceGen.Value.Basic

/-!
# What a plain YAML scalar says

An unquoted scalar is null, a truth value, an integer, a real or, failing all of these, a text. Digits
behind a leading zero are a text, and so is a real that exceeds binary64.
-/

namespace SourceGen.Yaml

def digitIn? (base : Nat) (c : Char) : Option Nat :=
  let digit :=
    if c.isDigit then some (c.toNat - 48)
    else if 'a' ≤ c && c ≤ 'z' then some (c.toNat - 87)
    else if 'A' ≤ c && c ≤ 'Z' then some (c.toNat - 55)
    else none
  digit.filter (· < base)

/-- A nonempty run of digits. -/
def natural? (base : Nat) (digits : List Char) : Option Nat :=
  if digits.isEmpty then none
  else do
    let values ← digits.mapM (digitIn? base)
    some (values.foldl (fun n d ↦ n * base + d) 0)

/-- Several digits the first of which is zero, a sign aside. -/
def isZeroPadded (cs : List Char) : Bool :=
  let digits := match cs with
    | '-' :: rest | '+' :: rest => rest
    | _ => cs
  digits.length > 1 && digits.head? == some '0' && digits.all Char.isDigit

/-- An integer without its sign; `padded` says that the written form has padding zeros. -/
def magnitude? (padded : Bool) (cs : List Char) : Option Nat :=
  let decimal := if padded then none else natural? 10 cs
  match cs with
  | '0' :: 'x' :: digits => (natural? 16 digits).or decimal
  | '0' :: 'o' :: digits => (natural? 8 digits).or decimal
  | '0' :: 'b' :: digits => (natural? 2 digits).or decimal
  | _ => decimal

def integer? (cs : List Char) : Option Int :=
  let padded := isZeroPadded cs
  match cs with
  | '-' :: rest => (magnitude? padded rest).map fun n ↦ -(n : Int)
  | '+' :: rest => (magnitude? padded rest).map fun n ↦ (n : Int)
  | _ => (magnitude? padded cs).map fun n ↦ (n : Int)

/-- Digits, a point and more digits, at least one digit in all; then an exponent or nothing. What is
sure to vanish or to exceed binary64 is never computed. -/
def decimal? (cs : List Char) : Option Float := do
  let whole := cs.takeWhile Char.isDigit
  let rest := cs.dropWhile Char.isDigit
  let (places, rest) := match rest with
    | '.' :: more => (more.takeWhile Char.isDigit, more.dropWhile Char.isDigit)
    | _ => ([], rest)
  let mantissa ← natural? 10 (whole ++ places)
  let exponent ← match rest with
    | [] => some 0
    | e :: more =>
      if e == 'e' || e == 'E' then integerExponent more else none
  let shift : Int := exponent - places.length
  let length : Int := (whole ++ places).length
  if mantissa = 0 || shift + length < -400 then some 0.0
  else if 400 < shift then none
  else
    let x := Float.ofScientific mantissa (decide (shift < 0)) shift.natAbs
    if x.isInf then none else some x
where
  integerExponent (cs : List Char) : Option Int :=
    match cs with
    | '-' :: rest => (natural? 10 rest).map fun n ↦ -(n : Int)
    | '+' :: rest => (natural? 10 rest).map fun n ↦ (n : Int)
    | _ => (natural? 10 cs).map fun n ↦ (n : Int)

def real? (cs : List Char) : Option Float :=
  match cs with
  | '+' :: rest => decimal? rest
  | '-' :: rest => (decimal? rest).map fun x ↦ -x
  | _ => decimal? cs

/-- Infinities and the number that is none; a document has no way to hold them. -/
def isUnbounded (text : String) : Bool :=
  [".inf", ".Inf", ".INF", "+.inf", "+.Inf", "+.INF", "-.inf", "-.Inf", "-.INF",
    ".nan", ".NaN", ".NAN"].contains text

inductive PlainFault where
  | integerOutOfRange
deriving DecidableEq, Repr

def isNull (text : String) : Bool :=
  ["", "~", "null", "Null", "NULL"].contains text

def truth? (text : String) : Option Bool :=
  if ["true", "True", "TRUE"].contains text then some true
  else if ["false", "False", "FALSE"].contains text then some false
  else none

/-- Whether an integer has at most `bits` bits; a negative one needs one of them for its sign. -/
def fitsBits (bits : Nat) (n : Int) : Bool :=
  let values := Nat.pow 2 bits
  if n < 0 then n.natAbs ≤ values / 2 else n.natAbs < values

/-- The value of an integer. One beyond 64 bits but within 128 has no place in a document, and one
beyond 128 bits is none. -/
def integerValue? (text : String) : Option (Except PlainFault Value) := do
  let n ← integer? text.toList
  if fitsBits 64 n then some (.ok (.number (.integer n)))
  else if fitsBits 128 n then some (.error .integerOutOfRange)
  else none

/-- The value of a real; an infinity or the number that is none has null in its place. -/
def realValue? (text : String) : Option Value :=
  if isUnbounded text then some .null
  else (real? text.toList).map fun x ↦ .number (.real x)

/-- The value of an unquoted scalar. -/
def plainValue (text : String) : Except PlainFault Value :=
  if isNull text then .ok .null
  else
    match truth? text, integerValue? text with
    | some b, _ => .ok (.bool b)
    | none, some value => value
    | none, none =>
      if isZeroPadded text.toList then .ok (.text text)
      else .ok ((realValue? text).getD (.text text))

end SourceGen.Yaml
