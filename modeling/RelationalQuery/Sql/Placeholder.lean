/-! Placeholders in query text: the question marks outside quotes. -/
namespace RelationalQuery.Sql

abbrev Quoting := Option Char

/-- The state behind one more character. The other quote is inert inside a run; a doubled quote
closes the run and opens it again. -/
def Quoting.after : Quoting → Char → Quoting
  | some quote, c => if c = quote then none else some quote
  | none, c => if c = '\'' || c = '"' then some c else none

inductive Segment where
  | text (cs : List Char)
  | placeholder
deriving DecidableEq

def Segment.cons (c : Char) : List Segment → List Segment
  | .text cs :: rest => .text (c :: cs) :: rest
  | segments => .text [c] :: segments

def segments : Quoting → List Char → List Segment
  | _, [] => []
  | q, c :: cs =>
    if q = none ∧ c = '?' then .placeholder :: segments none cs
    else Segment.cons c (segments (q.after c) cs)

def splitPlaceholders (text : String) : List Segment := segments none text.toList

end RelationalQuery.Sql
