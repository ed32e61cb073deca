import SourceGen.Json.Cursor
import SourceGen.Value.Basic

/-!
# JSON words, texts and numbers

The readers of what stands between brackets and commas. Every reader starts at its first character
and ends behind its last one.

A number without fraction and exponent is an integer while it fits in 64 bits, unsigned or, behind a
minus sign, signed and nonzero. Any other number is the significand of its digits, as many as fit in
64 bits, times or divided by one power of ten in binary64 arithmetic.
-/

namespace SourceGen.Json

/-- The rest of a word whose first character has been seen. -/
def readWord (word : List Char) (c : Cursor) : Except (Failure Fault) Cursor :=
  match word with
  | [] => .ok c
  | expected :: more =>
    match c.rest with
    | [] => c.fail .valueCutOff
    | head :: rest =>
      if head = expected then readWord more ⟨rest, c.offset + 1⟩
      else c.failNext .expectedWord

/-! ## Texts -/

def hexValue? (c : Char) : Option Nat :=
  if '0' ≤ c && c ≤ '9' then some (c.toNat - 48)
  else if 'a' ≤ c && c ≤ 'f' then some (c.toNat - 87)
  else if 'A' ≤ c && c ≤ 'F' then some (c.toNat - 55)
  else none

/-- The four hexadecimal digits of an escape; without them the fault lies four bytes on. -/
def readHex (c : Cursor) : Except (Failure Fault) (Nat × Cursor) :=
  match (c.rest.take 4).mapM hexValue? with
  | some [a, b, d, e] => .ok (((a * 16 + b) * 16 + d) * 16 + e, c.skip 4)
  | _ =>
    let left := (c.rest.take 4).foldl (fun sum head ↦ sum + head.utf8Size) 0
    if left < 4 then .error ⟨.textCutOff, c.offset + left⟩
    else .error ⟨.invalidEscape, c.offset + 4⟩

/-- The character behind `\u`. A leading surrogate wants a trailing one right behind it. -/
def readUnicodeEscape (c : Cursor) : Except (Failure Fault) (Char × Cursor) := do
  let (high, c) ← readHex c
  if 0xDC00 ≤ high && high ≤ 0xDFFF then c.fail .loneSurrogate
  else if high < 0xD800 || 0xDBFF < high then .ok (Char.ofNat high, c)
  else
    match c.rest with
    | [] => c.fail .textCutOff
    | '\\' :: [] => (c.skip 1).fail .textCutOff
    | '\\' :: 'u' :: _ =>
      let (low, c) ← readHex (c.skip 2)
      if low < 0xDC00 || 0xDFFF < low then c.fail .loneSurrogate
      else .ok (Char.ofNat ((high - 0xD800) * 1024 + (low - 0xDC00) + 0x10000), c)
    | '\\' :: _ => (c.skip 1).failNext .hexEscapeCutOff
    | _ => c.failNext .hexEscapeCutOff

/-- The character an escape stands for; the cursor is behind the backslash. -/
def readEscape (c : Cursor) : Except (Failure Fault) (Char × Cursor) :=
  match c.rest with
  | [] => c.fail .textCutOff
  | '"' :: _ => .ok ('"', c.skip 1)
  | '\\' :: _ => .ok ('\\', c.skip 1)
  | '/' :: _ => .ok ('/', c.skip 1)
  | 'b' :: _ => .ok (Char.ofNat 8, c.skip 1)
  | 'f' :: _ => .ok (Char.ofNat 12, c.skip 1)
  | 'n' :: _ => .ok ('\n', c.skip 1)
  | 'r' :: _ => .ok ('\r', c.skip 1)
  | 't' :: _ => .ok ('\t', c.skip 1)
  | 'u' :: _ => readUnicodeEscape (c.skip 1)
  | _ => c.failNext .invalidEscape

/-- The rest of a text up to its closing quote. Each step reads at least one character, so the
number of characters left bounds the steps. -/
def readTextFrom (done : List Char) : Nat → Cursor → Except (Failure Fault) (String × Cursor)
  | 0, c => c.fail .textCutOff
  | fuel + 1, c =>
    match c.rest with
    | [] => c.fail .textCutOff
    | '"' :: _ => .ok (String.ofList done.reverse, c.skip 1)
    | '\\' :: _ => do
      let (head, c) ← readEscape (c.skip 1)
      readTextFrom (head :: done) fuel c
    | head :: _ =>
      if head.toNat < 32 then (c.skip 1).fail .controlCharacter
      else readTextFrom (head :: done) fuel (c.skip 1)

/-- A text; the cursor is behind its opening quote. -/
def readText (c : Cursor) : Except (Failure Fault) (String × Cursor) :=
  readTextFrom [] (c.rest.length + 1) c

/-! ## Numbers -/

def digitValue (c : Char) : Nat :=
  c.toNat - 48

def greatestWord : Nat := UInt64.size - 1

/-- Adds digits to a significand while it fits in 64 bits; gives the significand, how many digits it
took and how many were left. -/
def absorb (significand taken : Nat) : List Char → Nat × Nat × Nat
  | [] => (significand, taken, 0)
  | d :: rest =>
    let next := significand * 10 + digitValue d
    if greatestWord < next then (significand, taken, rest.length + 1)
    else absorb next (taken + 1) rest

def powerOfTen (n : Nat) : Float :=
  Float.ofScientific 1 false n

/-- `significand * 10 ^ exponent`; `none` above the greatest finite number. Three divisions by
`1e308` take every 64-bit significand to zero. -/
def scale (significand : Float) (exponent : Int) : Nat → Option Float
  | 0 => some significand
  | fuel + 1 =>
    if exponent.natAbs ≤ 308 then
      if 0 ≤ exponent then
        let scaled := significand * powerOfTen exponent.natAbs
        if scaled.isInf then none else some scaled
      else some (significand / powerOfTen exponent.natAbs)
    else if significand == 0 then some significand
    else if 0 ≤ exponent then none
    else scale (significand / powerOfTen 308) (exponent + 308) fuel

def realOf (negative : Bool) (significand : Nat) (exponent : Int) (c : Cursor) :
    Except (Failure Fault) (Number × Cursor) :=
  match scale significand.toUInt64.toFloat exponent 5 with
  | none => c.fail .numberOutOfRange
  | some x => .ok (.real (if negative then -x else x), c)

def greatestExponent : Nat := 0x7fffffff

/-- The digits of an exponent up to the first with which it exceeds 32 bits; that one is read too,
and the answer is `none`. -/
def readExponentDigits (exponent : Nat) (c : Cursor) : List Char → Option Nat × Cursor
  | [] => (some exponent, c)
  | d :: rest =>
    let next := exponent * 10 + digitValue d
    if greatestExponent < next then (none, c.skip 1)
    else readExponentDigits next (c.skip 1) rest

/-- From `e` or `E` on. -/
def readExponent (negative : Bool) (significand : Nat) (start : Int) (c : Cursor) :
    Except (Failure Fault) (Number × Cursor) :=
  let c := c.skip 1
  let (down, c) := match c.rest with
    | '+' :: _ => (false, c.skip 1)
    | '-' :: _ => (true, c.skip 1)
    | _ => (false, c)
  match c.rest with
  | [] => c.fail .valueCutOff
  | head :: _ =>
    if !head.isDigit then c.failNext .invalidNumber
    else
      match readExponentDigits 0 c (c.rest.takeWhile Char.isDigit) with
      | (some exponent, c) =>
        realOf negative significand (if down then start - exponent else start + exponent) c
      | (none, c) =>
        if significand != 0 && !down then c.fail .numberOutOfRange
        else .ok (.real (if negative then -0.0 else 0.0), c.skipWhile Char.isDigit)

def readAfterDigits (negative : Bool) (significand : Nat) (exponent : Int) (c : Cursor) :
    Except (Failure Fault) (Number × Cursor) :=
  match c.rest with
  | 'e' :: _ | 'E' :: _ => readExponent negative significand exponent c
  | _ => realOf negative significand exponent c

/-- From the decimal point on; `exponent` counts the integer digits that did not fit. -/
def readFraction (negative : Bool) (significand exponent : Nat) (c : Cursor) :
    Except (Failure Fault) (Number × Cursor) :=
  let c := c.skip 1
  let digits := c.rest.takeWhile Char.isDigit
  let (significand, taken, _) := absorb significand 0 digits
  let behind := c.skipWhile Char.isDigit
  if digits.isEmpty then
    if c.rest.isEmpty then c.fail .valueCutOff else c.failNext .invalidNumber
  else readAfterDigits negative significand ((exponent : Int) - taken) behind

/-- The greatest magnitude of a negative integer. -/
def greatestNegative : Nat := UInt64.size / 2

def readAfterInteger (negative : Bool) (significand dropped : Nat) (c : Cursor) :
    Except (Failure Fault) (Number × Cursor) :=
  match c.rest with
  | '.' :: _ => readFraction negative significand dropped c
  | 'e' :: _ | 'E' :: _ => readExponent negative significand dropped c
  | _ =>
    if dropped != 0 then realOf negative significand dropped c
    else if !negative then .ok (.integer significand, c)
    else if significand = 0 || greatestNegative < significand then realOf true significand 0 c
    else .ok (.integer (-significand), c)

/-- A number; the cursor is behind a minus sign if there is one. -/
def readNumber (negative : Bool) (c : Cursor) : Except (Failure Fault) (Number × Cursor) :=
  match c.rest with
  | [] => c.fail .valueCutOff
  | '0' :: next :: _ =>
    if next.isDigit then (c.skip 1).failNext .invalidNumber
    else readAfterInteger negative 0 0 (c.skip 1)
  | '0' :: [] => readAfterInteger negative 0 0 (c.skip 1)
  | head :: _ =>
    if !head.isDigit then c.failNext .invalidNumber
    else
      let (significand, _, dropped) := absorb 0 0 (c.rest.takeWhile Char.isDigit)
      readAfterInteger negative significand dropped (c.skipWhile Char.isDigit)

end SourceGen.Json
