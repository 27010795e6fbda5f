import RelationalQuery.Json.Value
import RelationalQuery.Text.Characters

/-! The numbers of a JSON text. Up to nineteen or twenty digits are gathered into one 64-bit
significand; a double is that significand scaled by one power of ten, rounded at each of the two
steps. -/
namespace RelationalQuery.Json

open Text (isDigit digitValue natOfDigits)

def significandBound : Nat := UInt64.size

structure Literal where
  negative : Bool
  whole : List Char
  places : Option (List Char)
  /-- Whether the exponent is negative, and its digits. -/
  power : Option (Bool × List Char)

/-- Gathers digits of the whole part; those that no longer fit only raise the power of ten. -/
def gatherWhole : Nat → List Char → Nat × Nat
  | m, [] => (m, 0)
  | m, c :: cs =>
    if m * 10 + digitValue c < significandBound then gatherWhole (m * 10 + digitValue c) cs
    else (m, (c :: cs).length)

/-- Gathers digits behind the point; those that no longer fit are dropped. -/
def gatherPlaces : Nat → Nat → List Char → Nat × Nat
  | m, used, [] => (m, used)
  | m, used, c :: cs =>
    if m * 10 + digitValue c < significandBound then
      gatherPlaces (m * 10 + digitValue c) (used + 1) cs
    else (m, used)

def powerOfTen (n : Nat) : Float := Float.ofScientific 1 false n

/-- `f * 10 ^ e`, in steps of the largest power of ten that a double holds; nothing when the
result is infinite. -/
def scaleByTen : Nat → Float → Int → Option Float
  | 0, f, _ => some f
  | fuel + 1, f, e =>
    if e.natAbs ≤ 308 then
      if 0 ≤ e then
        let g := f * powerOfTen e.natAbs
        if g.isInf then none else some g
      else some (f / powerOfTen e.natAbs)
    else if f == 0.0 then some f
    else if 0 ≤ e then none
    else scaleByTen fuel (f / powerOfTen 308) (e + 308)

def exponentBound : Nat := 0x80000000

def Literal.float? (l : Literal) : Option UInt64 := do
  let (m, surplus) := gatherWhole 0 l.whole
  let (m, used) := gatherPlaces m 0 (l.places.getD [])
  let start : Int := (surplus : Int) - used
  let magnitude ← match l.power with
    | none => scaleByTen 8 m.toUInt64.toFloat start
    | some (negative, ds) =>
      let e := natOfDigits ds
      if exponentBound ≤ e then
        if m ≠ 0 && !negative then none else some 0.0
      else scaleByTen 8 m.toUInt64.toFloat (if negative then start - e else start + e)
  return (if l.negative then -magnitude else magnitude).toBits

/-- A literal without point and exponent is a whole number if 64 bits hold it; minus zero and
everything else are doubles. -/
def Literal.number? (l : Literal) : Option Number :=
  let n := natOfDigits l.whole
  if l.places.isNone && l.power.isNone &&
      (if l.negative then 0 < n && n ≤ 0x8000000000000000 else n < UInt64.size) then
    some (.int (if l.negative then -(n : Int) else n))
  else l.float?.map .float

def readLiteral (cs : List Char) : Option (Literal × List Char) := do
  let (negative, cs) := match cs with
    | '-' :: rest => (true, rest)
    | _ => (false, cs)
  let whole := cs.takeWhile isDigit
  let cs := cs.dropWhile isDigit
  match whole with
  | [] => none
  | '0' :: _ :: _ => none
  | _ => some ()
  let (places, cs) ← match cs with
    | '.' :: rest =>
      match rest.takeWhile isDigit with
      | [] => none
      | ds => some (some ds, rest.dropWhile isDigit)
    | _ => some (none, cs)
  let (power, cs) ← match cs with
    | c :: rest =>
      if c = 'e' || c = 'E' then
        let (negative, rest) := match rest with
          | '+' :: r => (false, r)
          | '-' :: r => (true, r)
          | _ => (false, rest)
        match rest.takeWhile isDigit with
        | [] => none
        | ds => some (some (negative, ds), rest.dropWhile isDigit)
      else some (none, cs)
    | [] => some (none, cs)
  return ({ negative, whole, places, power }, cs)

end RelationalQuery.Json
