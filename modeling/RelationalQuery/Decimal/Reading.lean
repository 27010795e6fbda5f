import RelationalQuery.Text.Characters

/-! Doubles read from text: an optional sign, then digits with an optional point among or around
them and an optional power of ten, or the name of infinity or of the undefined number. -/
namespace RelationalQuery.Decimal

open Text (isDigit natOfDigits)

structure Written where
  whole : List Char
  places : List Char
  power : Int

def readPower : List Char → Option Int
  | [] => some 0
  | c :: rest =>
    if c = 'e' || c = 'E' then
      let (negative, ds) := match rest with
        | '+' :: ds => (false, ds)
        | '-' :: ds => (true, ds)
        | ds => (false, ds)
      if ds.isEmpty || !ds.all isDigit then none
      else some (if negative then -(natOfDigits ds : Int) else natOfDigits ds)
    else none

def readUnsigned (cs : List Char) : Option Written := do
  let whole := cs.takeWhile isDigit
  let (places, rest) := match cs.dropWhile isDigit with
    | '.' :: rest => (rest.takeWhile isDigit, rest.dropWhile isDigit)
    | rest => ([], rest)
  if whole.isEmpty && places.isEmpty then none
  else return { whole, places, power := ← readPower rest }

/-- The nearest double. Exponents far outside the range of doubles are settled by the number of
digits alone. -/
def Written.toFloat (w : Written) : Float :=
  let m := natOfDigits (w.whole ++ w.places)
  let e := w.power - w.places.length
  let size := (Nat.toDigits 10 m).length + e
  if m = 0 then 0.0
  else if 310 < size then 1.0 / 0.0
  else if size < -400 then 0.0
  else Float.ofScientific m (e < 0) e.natAbs

def splitSign : List Char → Bool × List Char
  | '+' :: rest => (false, rest)
  | '-' :: rest => (true, rest)
  | cs => (false, cs)

def readFloat (text : List Char) : Option Float := do
  let (negative, cs) := splitSign text
  let name := String.ofList (cs.map Char.toLower)
  let magnitude ←
    if name = "inf" || name = "infinity" then some (1.0 / 0.0)
    else if name = "nan" then some (0.0 / 0.0)
    else (readUnsigned cs).map Written.toFloat
  return if negative then -magnitude else magnitude

def isNumeric (text : List Char) : Bool :=
  !text.isEmpty &&
  (text.all fun c => isDigit c || c = '+' || c = '-' || c = '.' || c = 'e' || c = 'E') &&
  (readUnsigned (splitSign text).2).isSome

end RelationalQuery.Decimal
