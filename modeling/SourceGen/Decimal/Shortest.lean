/-!
# Shortest decimal of a binary64 number

A finite nonzero binary64 number is `m * 2 ^ q`; the reals that round to it form an interval, its
ends included exactly when `m` is even. `Shortest.ofFloat` gives the decimal with the fewest digits
in that interval, and of those the nearest one. Whether a decimal lies in the interval is decided in
exact natural-number arithmetic.
-/

namespace SourceGen

/-- The number `digits * 10 ^ exponent`. -/
structure Decimal where
  digits : Nat
  exponent : Int
deriving Repr, DecidableEq

namespace Decimal

/-- The rounding interval of a positive number, in units of `unit / scale`: the number itself is
`centre` units and decimals from `low` to `high` round to it. -/
structure Interval where
  centre : Nat
  low : Nat
  high : Nat
  closed : Bool
  unit : Nat
  scale : Nat

def power (base : Nat) (exponent : Int) : Nat :=
  base.pow exponent.toNat

/-- The interval of `m * 2 ^ q`. Below a power of two the neighbours lie twice as dense. -/
def Interval.ofDyadic (m : Nat) (q : Int) (denseBelow : Bool) : Interval where
  centre := 4 * m
  low := if denseBelow then 4 * m - 1 else 4 * m - 2
  high := 4 * m + 2
  closed := m % 2 == 0
  unit := power 2 (q - 2)
  scale := power 2 (2 - q)

/-- The weight of the bit that numbers of full precision lead with and do not store. -/
def hiddenBit : Nat := 0x10000000000000

/-- The weight of the bit that holds the sign. -/
def signBit : Nat := 0x8000000000000000

def Interval.ofBits (bits : Nat) : Interval :=
  let field := bits / hiddenBit % 0x800
  let fraction := bits % hiddenBit
  if field = 0 then .ofDyadic fraction (-1074) false
  else .ofDyadic (hiddenBit + fraction) ((field : Int) - 1075) (fraction == 0 && field != 1)

/-- Whether `digits * 10 ^ exponent` rounds to the number. -/
def Interval.holds (i : Interval) (d : Decimal) : Bool :=
  let point := d.digits * power 10 d.exponent * i.scale
  let unit := i.unit * power 10 (-d.exponent)
  if i.closed then i.low * unit ≤ point && point ≤ i.high * unit
  else i.low * unit < point && point < i.high * unit

/-- The greatest multiple of `10 ^ exponent` that is no more than the number. -/
def Interval.floorAt (i : Interval) (exponent : Int) : Decimal :=
  ⟨i.centre * i.unit * power 10 (-exponent) / (i.scale * power 10 exponent), exponent⟩

/-- Of the two neighbours on the grid of `10 ^ exponent`, the nearer one that rounds to the number;
of two as near, the even one. -/
def Interval.nearestAt (i : Interval) (exponent : Int) : Option Decimal :=
  let below := i.floorAt exponent
  let above : Decimal := ⟨below.digits + 1, exponent⟩
  match i.holds below, i.holds above with
  | false, false => none
  | true, false => some below
  | false, true => some above
  | true, true =>
    let step := power 10 exponent * i.scale
    let twice := 2 * (i.centre * i.unit * power 10 (-exponent))
    let middle := (2 * below.digits + 1) * step
    if twice < middle || (twice = middle && below.digits % 2 == 0) then some below
    else some above

/-- The least `j` up to `fuel` with `10 ^ j * numerator ≥ denominator`. -/
def leadingZeros (numerator denominator : Nat) : Nat → Nat
  | 0 => 0
  | fuel + 1 =>
    if denominator ≤ numerator then 0
    else leadingZeros (numerator * 10) denominator fuel + 1

/-- The exponent of the leading digit. -/
def Interval.order (i : Interval) : Int :=
  let numerator := i.centre * i.unit
  if i.scale ≤ numerator then ((Nat.toDigits 10 (numerator / i.scale)).length : Int) - 1
  else -(leadingZeros numerator i.scale 400 : Int)

def Interval.search (i : Interval) (order : Int) : Nat → Nat → Decimal
  | _, 0 => i.floorAt (order - 16)
  | count, more + 1 =>
    match i.nearestAt (order - count) with
    | some d => d
    | none => i.search order (count + 1) more

def normalize (d : Decimal) : Nat → Decimal
  | 0 => d
  | fuel + 1 =>
    if d.digits % 10 = 0 && d.digits != 0 then
      normalize ⟨d.digits / 10, d.exponent + 1⟩ fuel
    else d

/-- The shortest decimal of the magnitude of a finite number; zero is zero. -/
def Shortest.ofFloat (x : Float) : Decimal :=
  let bits := x.toBits.toNat % signBit
  if bits = 0 then ⟨0, 0⟩
  else
    let i := Interval.ofBits bits
    (i.search i.order 0 17).normalize 20

/-- The exponents of the leading digit that are written positionally, ends included. -/
structure Layout where
  least : Int
  most : Int

/-- Positional text keeps a decimal point and a digit after it; otherwise the exponent follows the
digits with its sign. -/
def Layout.magnitude (layout : Layout) (d : Decimal) : String :=
  let digits := Nat.toDigits 10 d.digits
  let order := d.exponent + digits.length - 1
  if order < layout.least || layout.most < order then
    let tail := match digits.tail with
      | [] => []
      | rest => '.' :: rest
    let sign := if order < 0 then '-' else '+'
    String.ofList (digits.take 1 ++ tail ++ 'e' :: sign :: Nat.toDigits 10 order.natAbs)
  else if order < 0 then
    String.ofList ('0' :: '.' :: List.replicate (order.natAbs - 1) '0' ++ digits)
  else if (digits.length : Int) ≤ order + 1 then
    String.ofList (digits ++ List.replicate (order.toNat + 1 - digits.length) '0' ++ ['.', '0'])
  else
    String.ofList (digits.take (order.toNat + 1) ++ '.' :: digits.drop (order.toNat + 1))

def Layout.write (layout : Layout) (x : Float) : String :=
  let magnitude := layout.magnitude (Shortest.ofFloat x)
  if x.toBits.toNat / signBit = 1 then "-" ++ magnitude else magnitude

end Decimal

end SourceGen
