/-! The shortest decimal that reads back as a given double.

Decimals are tried on ever finer grids of powers of ten. The first grid with a point in the
interval of reals that round to the double wins; of two such points the nearer one. Which of two
equally near ones is taken belongs to the written form. -/
namespace RelationalQuery.Decimal

/-! ### Doubles by their bits

The magnitude is `mantissa * 2 ^ exponent`. -/

def isNegative (bits : UInt64) : Bool := bits >>> 63 == 1

def isZero (bits : UInt64) : Bool := bits <<< 1 == 0

def biasedExponent (bits : UInt64) : Nat := ((bits >>> 52) &&& 0x7ff).toNat

def fraction (bits : UInt64) : Nat := (bits &&& 0xfffffffffffff).toNat

/-- The hidden leading bit is added unless the number is subnormal. -/
def mantissa (bits : UInt64) : Nat :=
  if biasedExponent bits = 0 then fraction bits else fraction bits + 0x10000000000000

def exponent (bits : UInt64) : Int :=
  if biasedExponent bits = 0 then -1074 else (biasedExponent bits : Int) - 1075

/-- The gap below a power of two is half the gap above it. -/
def isLeastOfBinade (bits : UInt64) : Bool := fraction bits == 0 && 1 < biasedExponent bits

/-! ### Decimals -/

structure Scaled where
  digits : Nat
  scale : Int
deriving DecidableEq

inductive Tie where
  | even
  | up
deriving DecidableEq

/-- The reals that round to a double, in units of `2 ^ unit`: from `low` to `high` around `mid`,
ends included when `closed`. -/
structure Interval where
  low : Nat
  mid : Nat
  high : Nat
  unit : Int
  closed : Bool

def interval (bits : UInt64) : Interval :=
  let m := mantissa bits
  { low := if isLeastOfBinade bits then 4 * m - 1 else 4 * m - 2
    mid := 4 * m
    high := 4 * m + 2
    unit := exponent bits - 2
    closed := m % 2 == 0 }

/-- `x * 2 ^ unit` and `10 ^ scale`, both times the power of two and the power of ten that make
them whole. -/
def wholeUnits (unit scale : Int) (x : Nat) : Nat :=
  x * Nat.pow 2 unit.toNat * Nat.pow 10 (-scale).toNat

def wholeStep (unit scale : Int) : Nat := Nat.pow 10 scale.toNat * Nat.pow 2 (-unit).toNat

def Interval.holds (i : Interval) (scale : Int) (c : Nat) : Bool :=
  let point := c * wholeStep i.unit scale
  let low := wholeUnits i.unit scale i.low
  let high := wholeUnits i.unit scale i.high
  if i.closed then low ≤ point && point ≤ high else low < point && point < high

def Interval.onGrid (i : Interval) (tie : Tie) (scale : Int) : Option Nat :=
  let mid := wholeUnits i.unit scale i.mid
  let step := wholeStep i.unit scale
  let c := mid / step
  let twice := 2 * (mid % step)
  match i.holds scale c, i.holds scale (c + 1) with
  | true, false => some c
  | false, true => some (c + 1)
  | false, false => none
  | true, true =>
    if twice < step then some c
    else if step < twice then some (c + 1)
    else if tie = .even ∧ c % 2 = 0 then some c else some (c + 1)

def Interval.search (i : Interval) (tie : Tie) : Nat → Int → Scaled
  | 0, scale => ⟨wholeUnits i.unit scale i.mid / wholeStep i.unit scale, scale⟩
  | fuel + 1, scale =>
    match i.onGrid tie scale with
    | some c => ⟨c, scale⟩
    | none => i.search tie fuel (scale - 1)

/-- The magnitude of a nonzero finite double. Seventeen digits always suffice, and the search
starts above the first of them. -/
def shortest (tie : Tie) (bits : UInt64) : Scaled :=
  let i := interval bits
  let bitLength : Int := (Nat.log2 i.mid : Int) + 1 + i.unit
  i.search tie 24 (bitLength * 30103 / 100000 + 2)

def Scaled.leading (d : Scaled) : Int := d.scale + (Nat.toDigits 10 d.digits).length - 1

end RelationalQuery.Decimal
