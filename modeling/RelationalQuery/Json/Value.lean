/-! JSON values. Fields keep the order in which they were first put; a number is either a whole
number written without point and exponent or a double given by its bits, and the two never
coincide. -/
namespace RelationalQuery.Json

inductive Number where
  | int (n : Int)
  | float (bits : UInt64)
deriving DecidableEq, Inhabited

inductive Value where
  | null
  | bool (b : Bool)
  | num (n : Number)
  | str (s : String)
  | arr (items : List Value)
  | obj (fields : List (String × Value))
deriving Inhabited

namespace Fields
variable {α : Type}

def put : List (String × α) → String → α → List (String × α)
  | [], key, v => [(key, v)]
  | (k, old) :: rest, key, v =>
    if k = key then (k, v) :: rest else (k, old) :: put rest key v

/-- One pair per key: the place of the first, the value of the last. -/
def collapse (pairs : List (String × α)) : List (String × α) :=
  pairs.foldl (fun fields (k, v) => put fields k v) []

def get? : List (String × α) → String → Option α
  | [], _ => none
  | (k, v) :: rest, key => if k = key then some v else get? rest key

theorem get?_put_self (fields : List (String × α)) (key : String) (v : α) :
    get? (put fields key v) key = some v := by
  induction fields with
  | nil => simp [put, get?]
  | cons p rest ih =>
    obtain ⟨k, old⟩ := p
    by_cases h : k = key <;> simp [put, get?, h, ih]

theorem get?_put_of_ne (fields : List (String × α)) {key other : String} (v : α)
    (h : key ≠ other) : get? (put fields key v) other = get? fields other := by
  induction fields with
  | nil => simp [put, get?, h]
  | cons p rest ih =>
    obtain ⟨k, old⟩ := p
    by_cases hk : k = key
    · subst hk; simp [put, get?, h]
    · by_cases ho : k = other
      · subst ho; simp [put, get?, hk]
      · simp [put, get?, hk, ho, ih]

end Fields

namespace Value

def isNull : Value → Bool
  | .null => true
  | _ => false

def field? : Value → String → Option Value
  | .obj fields, key => Fields.get? fields key
  | _, _ => none

def putField : Value → String → Value → Value
  | .obj fields, key, v => .obj (Fields.put fields key v)
  | v, _, _ => v

end Value

mutual

def Value.depth : Value → Nat
  | .arr items => itemsDepth items + 1
  | .obj fields => fieldsDepth fields + 1
  | _ => 0

def Value.itemsDepth : List Value → Nat
  | [] => 0
  | v :: rest => max v.depth (itemsDepth rest)

def Value.fieldsDepth : List (String × Value) → Nat
  | [] => 0
  | (_, v) :: rest => max v.depth (fieldsDepth rest)

end

def Number.toFloat : Number → Float
  | .int n => Float.ofInt n
  | .float bits => Float.ofBits bits

def Number.isZero : Number → Bool
  | .int n => n == 0
  | .float bits => bits <<< 1 == 0

end RelationalQuery.Json
