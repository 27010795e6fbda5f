import RelationalQuery.Config.Fault
import RelationalQuery.Text.Characters

/-! Whole numbers of bounded width, read from text. -/
namespace RelationalQuery

/-- Adds digits to what was read so far. At each place a character that is no digit is met before
a number that is too large. -/
def readDigits (bound : Nat) : Nat → List Char → Except IntegerFault Nat
  | n, [] => .ok n
  | n, c :: cs =>
    if Text.isDigit c then
      let next := n * 10 + Text.digitValue c
      if next < bound then readDigits bound next cs else .error .tooLarge
    else .error .invalidDigit

def readNatural (bound : Nat) (text : String) : Except IntegerFault Nat :=
  match text.toList with
  | [] => .error .empty
  | [c] => readDigits bound 0 [c]
  | '+' :: cs => readDigits bound 0 cs
  | cs => readDigits bound 0 cs

def readInteger (bound : Nat) (text : String) : Except IntegerFault Int :=
  match text.toList with
  | '-' :: c :: cs => (readDigits (bound + 1) 0 (c :: cs)).map fun n => -(n : Int)
  | _ => (readNatural bound text).map fun n => (n : Int)

end RelationalQuery
