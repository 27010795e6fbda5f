import RelationalQuery.Json.Value
import RelationalQuery.Decimal.Text

/-! Compact JSON text: no blanks, and escapes only where the grammar asks for them. -/
namespace RelationalQuery.Json

def Number.text : Number → String
  | .int n => toString n
  | .float bits => Decimal.text bits

def lowHexPair (n : Nat) : List Char := [Nat.digitChar (n / 16), Nat.digitChar (n % 16)]

def escapedChar (c : Char) : List Char :=
  if c = '"' then ['\\', '"']
  else if c = '\\' then ['\\', '\\']
  else if c.toNat < 0x20 then
    if c = '\x08' then ['\\', 'b']
    else if c = '\t' then ['\\', 't']
    else if c = '\n' then ['\\', 'n']
    else if c = '\x0c' then ['\\', 'f']
    else if c = '\r' then ['\\', 'r']
    else ['\\', 'u', '0', '0'] ++ lowHexPair c.toNat
  else [c]

def stringText (s : String) : String :=
  String.ofList ('"' :: s.toList.flatMap escapedChar ++ ['"'])

mutual

def Value.text : Value → String
  | .null => "null"
  | .bool true => "true"
  | .bool false => "false"
  | .num n => n.text
  | .str s => stringText s
  | .arr items => "[" ++ ",".intercalate (itemTexts items) ++ "]"
  | .obj fields => "\x7b" ++ ",".intercalate (fieldTexts fields) ++ "\x7d"

def Value.itemTexts : List Value → List String
  | [] => []
  | v :: rest => v.text :: itemTexts rest

def Value.fieldTexts : List (String × Value) → List String
  | [] => []
  | (k, v) :: rest => (stringText k ++ ":" ++ v.text) :: fieldTexts rest

end

/-- A scalar without quotes: nothing for null, a string as it is, else compact JSON. -/
def Value.plainText : Value → String
  | .null => ""
  | .str s => s
  | v => v.text

end RelationalQuery.Json
