import RelationalQuery.Json.Document
import RelationalQuery.Json.Number

/-! Reads JSON texts. A text that breaks the grammar has no document; one that follows it has,
and only the parts of it that are used must denote values. -/
namespace RelationalQuery.Json

open Text (isDigit digitValue)

def skipBlanks (cs : List Char) : List Char :=
  cs.dropWhile fun c => c = ' ' || c = '\n' || c = '\t' || c = '\r'

def hexValue? (c : Char) : Option Nat :=
  if isDigit c then some (digitValue c)
  else if 'a' ≤ c && c ≤ 'f' then some (c.toNat - 'a'.toNat + 10)
  else if 'A' ≤ c && c ≤ 'F' then some (c.toNat - 'A'.toNat + 10)
  else none

def readUnit : List Char → Option (Nat × List Char)
  | a :: b :: c :: d :: rest => do
    let a ← hexValue? a
    let b ← hexValue? b
    let c ← hexValue? c
    let d ← hexValue? d
    return (((a * 16 + b) * 16 + c) * 16 + d, rest)
  | _ => none

/-- The text up to the closing quote, last character first in `done`; `paired` turns false at a
surrogate without its partner. -/
def readString : Nat → List Char → Bool → List Char → Option (Option String × List Char)
  | 0, _, _, _ => none
  | _ + 1, _, _, [] => none
  | fuel + 1, done, paired, c :: cs =>
    if c = '"' then
      some (if paired then some (String.ofList done.reverse) else none, cs)
    else if c.toNat < 0x20 then none
    else if c ≠ '\\' then readString fuel (c :: done) paired cs
    else match cs with
      | '"' :: rest => readString fuel ('"' :: done) paired rest
      | '\\' :: rest => readString fuel ('\\' :: done) paired rest
      | '/' :: rest => readString fuel ('/' :: done) paired rest
      | 'b' :: rest => readString fuel ('\x08' :: done) paired rest
      | 'f' :: rest => readString fuel ('\x0c' :: done) paired rest
      | 'n' :: rest => readString fuel ('\n' :: done) paired rest
      | 'r' :: rest => readString fuel ('\r' :: done) paired rest
      | 't' :: rest => readString fuel ('\t' :: done) paired rest
      | 'u' :: rest => do
        let (high, rest) ← readUnit rest
        if 0xd800 ≤ high && high < 0xdc00 then
          match rest with
          | '\\' :: 'u' :: tail =>
            let (low, tail) ← readUnit tail
            if 0xdc00 ≤ low && low < 0xe000 then
              let code := 0x10000 + (high - 0xd800) * 0x400 + (low - 0xdc00)
              readString fuel (Char.ofNat code :: done) paired tail
            else readString fuel done false rest
          | _ => readString fuel done false rest
        else if 0xdc00 ≤ high && high < 0xe000 then readString fuel done false rest
        else readString fuel (Char.ofNat high :: done) paired rest
      | _ => none

def depthLimit : Nat := 127

def wholeText (found : Option (Document × List Char)) : Option Document := do
  let (d, rest) ← found
  if (skipBlanks rest).isEmpty then return d else none

def objectOf (content : List Char → Document) : List (String × Document) → Document
  | [(key, .str text)] =>
    if key = carrierKey then .carrier text (content text.toList) else .obj [(key, .str text)]
  | members => .obj members

mutual

def readDocument : Nat → Nat → List Char → Option (Document × List Char)
  | 0, _, _ => none
  | fuel + 1, room, cs =>
    match skipBlanks cs with
    | 'n' :: 'u' :: 'l' :: 'l' :: rest => some (.null, rest)
    | 't' :: 'r' :: 'u' :: 'e' :: rest => some (.bool true, rest)
    | 'f' :: 'a' :: 'l' :: 's' :: 'e' :: rest => some (.bool false, rest)
    | '"' :: rest => do
      let (s, rest) ← readString fuel [] true rest
      return ((s.map .str).getD .unreadable, rest)
    | '[' :: rest => do
      let (items, rest) ← match skipBlanks rest with
        | ']' :: tail => some ([], tail)
        | _ => readItems fuel (room - 1) rest
      return (if room = 0 then .unreadable else .arr items, rest)
    | '\x7b' :: rest => do
      let (members, rest) ← match skipBlanks rest with
        | '\x7d' :: tail => some (some [], tail)
        | _ => readMembers fuel (room - 1) rest
      let content := fun cs => (wholeText (readDocument fuel depthLimit cs)).getD .unreadable
      return (if room = 0 then .unreadable
        else (members.map (objectOf content)).getD .unreadable, rest)
    | rest => do
      let (l, rest) ← readLiteral rest
      return ((l.number?.map .num).getD .unreadable, rest)

def readItems : Nat → Nat → List Char → Option (List Document × List Char)
  | 0, _, _ => none
  | fuel + 1, room, cs => do
    let (d, rest) ← readDocument fuel room cs
    match skipBlanks rest with
    | ']' :: rest => return ([d], rest)
    | ',' :: rest =>
      let (ds, rest) ← readItems fuel room rest
      return (d :: ds, rest)
    | _ => none

/-- Members and the closing brace; at least one member. A key that is no text spoils them all. -/
def readMembers : Nat → Nat → List Char →
    Option (Option (List (String × Document)) × List Char)
  | 0, _, _ => none
  | fuel + 1, room, cs =>
    match skipBlanks cs with
    | '"' :: rest => do
      let (key, rest) ← readString fuel [] true rest
      match skipBlanks rest with
      | ':' :: rest =>
        let (d, rest) ← readDocument fuel room rest
        match skipBlanks rest with
        | '\x7d' :: rest => return (key.map fun k => [(k, d)], rest)
        | ',' :: rest =>
          let (members, rest) ← readMembers fuel room rest
          return (do return (← key, d) :: (← members), rest)
        | _ => none
      | _ => none
    | _ => none

end

/-- The document of a text, blanks around it aside. Each step into an item reads at least one
character, and a carried text is shorter than what it is written as, so twice the length bounds the
depth of the recursion. -/
def read (text : String) : Option Document :=
  let cs := text.toList
  wholeText (readDocument (2 * cs.length + 2) depthLimit cs)

def readValue (text : String) : Option Value := do (← read text).value?

end RelationalQuery.Json
