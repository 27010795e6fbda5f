import RelationalQuery.Json.Value
import RelationalQuery.Text.Split

/-! Pieces of query text: quoted names, and fragments with the values that their placeholders bind,
in order. -/
namespace RelationalQuery.Sql

open Json (Value)

/-! ### Names

Each part between points stands in double quotes, a quote inside it written twice. A part that is
only a star stays bare. -/

def doubled (quote : Char) (cs : List Char) : List Char :=
  cs.flatMap fun c => if c = quote then [c, c] else [c]

def quotePart (part : List Char) : List Char :=
  if part = ['*'] then part else '"' :: doubled '"' part ++ ['"']

def quoteChars (cs : List Char) : List Char :=
  ['.'].intercalate ((Text.splitChars '.' cs).map quotePart)

def quoteIdentifier (name : String) : String := String.ofList (quoteChars name.toList)

def qualified (table column : String) : String := table ++ "." ++ column

/-! ### Fragments -/

structure Fragment where
  sql : String
  bindings : List Value := []

namespace Fragment

instance : Append Fragment := ⟨fun a b => ⟨a.sql ++ b.sql, a.bindings ++ b.bindings⟩⟩

instance : Coe String Fragment := ⟨fun sql => ⟨sql, []⟩⟩

def placeholder (v : Value) : Fragment := ⟨"?", [v]⟩

def empty : Fragment := ⟨"", []⟩

def join (sep : String) : List Fragment → Fragment
  | [] => empty
  | [f] => f
  | f :: rest => f ++ (sep : Fragment) ++ join sep rest

@[simp] theorem sql_append (a b : Fragment) : (a ++ b).sql = a.sql ++ b.sql := rfl

@[simp] theorem bindings_append (a b : Fragment) :
    (a ++ b).bindings = a.bindings ++ b.bindings := rfl

theorem sql_join (sep : String) (fs : List Fragment) :
    (join sep fs).sql = sep.intercalate (fs.map sql) := by
  induction fs with
  | nil => rfl
  | cons f rest ih =>
    cases rest with
    | nil => simp [join]
    | cons g rest =>
      rw [join, sql_append, sql_append, ih]
      · simp [String.intercalate_cons_cons]
      · simp

theorem bindings_join (sep : String) (fs : List Fragment) :
    (join sep fs).bindings = fs.flatMap bindings := by
  induction fs with
  | nil => rfl
  | cons f rest ih =>
    cases rest with
    | nil => exact (List.append_nil f.bindings).symm
    | cons g rest =>
      have hjoin : join sep (f :: g :: rest) = f ++ (sep : Fragment) ++ join sep (g :: rest) := rfl
      rw [List.flatMap_cons, hjoin, bindings_append, bindings_append, ih, List.append_nil]

end Fragment
end RelationalQuery.Sql
