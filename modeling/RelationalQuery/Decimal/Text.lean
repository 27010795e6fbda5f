import RelationalQuery.Decimal.Shortest

/-! Written forms of a double: with a point and, where the exponent is small enough, without a
power of ten; or always positional. -/
namespace RelationalQuery.Decimal

def positional (d : Scaled) : List Char × List Char :=
  let digits := Nat.toDigits 10 d.digits
  if 0 ≤ d.scale then (digits ++ List.replicate d.scale.toNat '0', [])
  else
    let places := (-d.scale).toNat
    if places < digits.length then
      (digits.take (digits.length - places), digits.drop (digits.length - places))
    else (['0'], List.replicate (places - digits.length) '0' ++ digits)

def scientific (d : Scaled) : List Char :=
  let tail := match Nat.toDigits 10 d.digits with
    | first :: [] => [first]
    | first :: rest => first :: '.' :: rest
    | [] => []
  let e := d.leading
  tail ++ 'e' :: (if e < 0 then '-' else '+') :: Nat.toDigits 10 e.natAbs

def signed (bits : UInt64) (text : List Char) : String :=
  String.ofList (if isNegative bits then '-' :: text else text)

/-- Positional from `10 ^ -5` up to below `10 ^ 16`, always with a point; scientific outside. Of
two equally near decimals the even one is written. -/
def text (bits : UInt64) : String :=
  signed bits <|
    if isZero bits then ['0', '.', '0']
    else
      let d := shortest .even bits
      if -5 ≤ d.leading ∧ d.leading ≤ 15 then
        match positional d with
        | (whole, []) => whole ++ ['.', '0']
        | (whole, places) => whole ++ '.' :: places
      else scientific d

/-- Positional whatever the exponent, and without a point when the number is whole. Of two equally
near decimals the greater magnitude is written; infinite and undefined numbers go by their
names. -/
def plainText (bits : UInt64) : String :=
  if biasedExponent bits = 0x7ff then
    if fraction bits = 0 then signed bits ['i', 'n', 'f'] else "NaN"
  else signed bits <|
    if isZero bits then ['0']
    else match positional (shortest .up bits) with
      | (whole, []) => whole
      | (whole, places) => whole ++ '.' :: places

end RelationalQuery.Decimal
