import RelationalQuery.Config.Environment
import RelationalQuery.Decimal.Reading
import RelationalQuery.Decimal.Text
import RelationalQuery.Json.Reader
import RelationalQuery.Text.Case

/-! Settings from a file with environment variables laid over them. Every setting is converted
leniently to the kind that is needed. -/
namespace RelationalQuery

open Json (Value)

inductive Setting where
  | bool (b : Bool)
  | int (n : Int)
  | float (bits : UInt64)
  | text (s : String)
  /-- Null, a list or a table. -/
  | none

namespace Setting

/-- Whole numbers of 64 bits with sign stay whole; greater ones become doubles. -/
def ofValue : Value → Setting
  | .bool b => .bool b
  | .num (.int n) => if n < 0x8000000000000000 then .int n else .float (Float.ofInt n).toBits
  | .num (.float bits) => .float bits
  | .str s => .text s
  | _ => .none

/-- A variable is a boolean, a whole number or a double if it reads as one, in that order. -/
def ofVariable (s : String) : Setting :=
  let word := Text.lower s
  if word = "true" then .bool true
  else if word = "false" then .bool false
  else match readInteger 0x8000000000000000 s with
    | .ok n => .int n
    | .error _ =>
      match Decimal.readFloat s.toList with
      | some f => .float f.toBits
      | Option.none => .text s

def isYes (word : String) : Bool := word = "true" || word = "on" || word = "yes"

def isNo (word : String) : Bool := word = "false" || word = "off" || word = "no"

def toUInt64? : Setting → Option UInt64
  | .bool b => some (if b then 1 else 0)
  | .int n => if n < 0 then Option.none else some n.toNat.toUInt64
  | .float bits => some (Float.ofBits bits).round.toUInt64
  | .text s =>
    let word := Text.lower s
    if isYes word then some 1
    else if isNo word then some 0
    else match readNatural UInt64.size s with
      | .ok n => some n.toUInt64
      | .error _ => Option.none
  | .none => Option.none

def toUInt32? (s : Setting) : Option UInt32 := do
  let n ← s.toUInt64?
  if n.toNat < UInt32.size then return n.toUInt32 else Option.none

def toBool? : Setting → Option Bool
  | .bool b => some b
  | .int n => some (n ≠ 0)
  | .float bits => some (!(Float.ofBits bits == 0.0))
  | .text s =>
    let word := Text.lower s
    if isYes word || word = "1" then some true
    else if isNo word || word = "0" then some false
    else Option.none
  | .none => Option.none

def toText? : Setting → Option String
  | .bool b => some (if b then "true" else "false")
  | .int n => some (toString n)
  | .float bits => some (Decimal.plainText bits)
  | .text s => some s
  | .none => Option.none

end Setting

abbrev Settings := List (String × Setting)

def isNameChar (c : Char) : Bool := c.isAlphanum || c = '_' || c = '-' || c = ' '

/-- A position in a list, blanks and the closing bracket with it; what follows it. Positions are
words of 64 bits with sign. -/
def dropIndex (cs : List Char) : Option (List Char) :=
  let cs := cs.dropWhile isIndexBlank
  let (bound, cs) := match cs with
    | '-' :: rest => (0x8000000000000001, rest)
    | _ => (0x8000000000000000, cs)
  let ds := cs.takeWhile Text.isDigit
  match (cs.dropWhile Text.isDigit).dropWhile isIndexBlank with
  | ']' :: rest => if ds ≠ [] ∧ Text.natOfDigits ds < bound then some rest else none
  | _ => none
where
  isIndexBlank (c : Char) : Bool := c = ' ' || c = '\t'

def isPathTail : Nat → List Char → Bool
  | _, [] => true
  | fuel + 1, '.' :: cs =>
    !(cs.takeWhile isNameChar).isEmpty && isPathTail fuel (cs.dropWhile isNameChar)
  | fuel + 1, '[' :: cs =>
    match dropIndex cs with
    | some rest => isPathTail fuel rest
    | none => false
  | _, _ => false

/-- A field of a file as a setting. Names are not case-sensitive; a name with steps into a setting
gives that setting parts, so it has no plain value. -/
def Settings.ofField (name : String) (v : Value) : String × Setting :=
  let start := name.toList.takeWhile isNameChar
  let tail := name.toList.dropWhile isNameChar
  if !start.isEmpty && !tail.isEmpty && isPathTail tail.length tail then
    (Text.lower (String.ofList start), .none)
  else (Text.lower name, .ofValue v)

def Settings.ofFields (fields : List (String × Value)) : Settings :=
  Json.Fields.collapse (fields.map fun (name, v) => ofField name v)

def Settings.ofEnvironment (env : Environment) : Settings :=
  env.filterMap fun (name, text) =>
    let cs := (Text.lower name).toList
    let start := "json_query_".toList
    if start.isPrefixOf cs then
      some (String.ofList (cs.drop start.length), Setting.ofVariable text)
    else none

def Settings.get {α : Type} (settings : Settings) (name : String) (default : α)
    (convert : Setting → Option α) : Except QueryError α :=
  match Json.Fields.get? settings name with
  | none => .ok default
  | some s =>
    match convert s with
    | some x => .ok x
    | none => .error (.configuration .unreadable)

def dropMark (text : String) : String :=
  match text.toList with
  | '\ufeff' :: rest => String.ofList rest
  | _ => text

def Config.load (text : String) (env : Environment) : Except QueryError Config := do
  match Json.readValue (dropMark text) with
  | some (.obj fields) =>
    let settings : Settings := Json.Fields.collapse
      (Settings.ofFields fields ++ Settings.ofEnvironment env)
    let c : Config := {}
    let databaseUrl ← settings.get "database_url" c.databaseUrl Setting.toText?
    let maxConnections ← settings.get "max_connections" c.maxConnections Setting.toUInt32?
    let maxPageSize ← settings.get "max_page_size" c.maxPageSize Setting.toUInt64?
    let logQueries ← settings.get "log_queries" c.logQueries Setting.toBool?
    let c : Config := { databaseUrl, maxConnections, maxPageSize, logQueries }
    c.validate
    return c
  | _ => throw (.configuration .unreadable)

end RelationalQuery
