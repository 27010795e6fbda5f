import RelationalQuery.Proofs.Sql.Precedence
import RelationalQuery.Proofs.Sql.WellFormed
import RelationalQuery.Sql.Query

/-! Printed conditions and how they are read: as tokens, `and` binding tighter than `or`. What the
tokens of well-formed clauses are read as is what the clauses say. -/
namespace RelationalQuery.Sql

open Json (Value)

inductive Token where
  | test (c : Condition)
  | link (l : Link)
  | word (join : Join)
  | opening
  | closing

def Token.render (hole : Value → Fragment) : Token → Fragment
  | .test c => c.render hole
  | .link l => (l.sql : Fragment)
  | .word join => (" " ++ join.sql ++ " " : Fragment)
  | .opening => ("(" : Fragment)
  | .closing => (")" : Fragment)

def renderTokens (hole : Value → Fragment) : List Token → Fragment
  | [] => Fragment.empty
  | t :: rest => t.render hole ++ renderTokens hole rest

def whereText (hole : Value → Fragment) (tokens : List Token) : Fragment :=
  if tokens.isEmpty then Fragment.empty else (" WHERE " : Fragment) ++ renderTokens hole tokens

mutual

def Condition.tokens : Condition → List Token
  | .group clauses => .opening :: (clauseTokens clauses ++ [.closing])
  | c => [.test c]

def clauseTokens : List Clause → List Token
  | [] => []
  | ⟨_, c⟩ :: rest => c.tokens ++ joinedTokens rest

def joinedTokens : List Clause → List Token
  | [] => []
  | ⟨join, c⟩ :: rest => .word join :: (c.tokens ++ joinedTokens rest)

end

def Subquery.whereTokens : Subquery → List Token
  | .related _ _ link clauses =>
    .link link ::
      if clauses.isEmpty then [] else .word .and :: .opening :: (clauseTokens clauses ++ [.closing])
  | .verbatim _ => []

/-! ### The text of tokens -/

section
variable (hole : Value → Fragment)

theorem Fragment.eq_of {f g : Fragment} (hsql : f.sql = g.sql)
    (hbindings : f.bindings = g.bindings) : f = g := by
  obtain ⟨sql, bindings⟩ := f
  obtain ⟨sql', bindings'⟩ := g
  cases hsql
  cases hbindings
  rfl

theorem Fragment.append_assoc (f g h : Fragment) : f ++ g ++ h = f ++ (g ++ h) :=
  Fragment.eq_of (String.append_assoc ..) (List.append_assoc ..)

theorem Fragment.append_empty (f : Fragment) : f ++ Fragment.empty = f :=
  Fragment.eq_of (String.append_empty ..) (List.append_nil _)

theorem Fragment.empty_append (f : Fragment) : Fragment.empty ++ f = f :=
  Fragment.eq_of (String.empty_append ..) rfl

theorem renderTokens_append (xs ys : List Token) :
    renderTokens hole (xs ++ ys) = renderTokens hole xs ++ renderTokens hole ys := by
  induction xs with
  | nil => exact (Fragment.empty_append _).symm
  | cons x xs ih => rw [List.cons_append, renderTokens, renderTokens, ih, Fragment.append_assoc]

theorem renderTokens_singleton (t : Token) : renderTokens hole [t] = t.render hole :=
  Fragment.append_empty _

mutual

theorem Condition.renderTokens_tokens (c : Condition) :
    renderTokens hole c.tokens = c.render hole := by
  match c with
  | .group clauses =>
    rw [Condition.tokens, renderTokens, renderTokens_append, renderTokens_clauseTokens clauses,
      renderTokens_singleton, Condition.render, Fragment.append_assoc]
    rfl
  | .compare .. | .oneOf .. | .between .. | .isNull .. | .datePart .. | .exists .. | .count .. =>
    exact renderTokens_singleton hole _

theorem renderTokens_clauseTokens (clauses : List Clause) :
    renderTokens hole (clauseTokens clauses) = renderClauses hole clauses := by
  match clauses with
  | [] => rfl
  | ⟨join, c⟩ :: rest =>
    rw [clauseTokens, renderTokens_append, Condition.renderTokens_tokens c,
      renderTokens_joinedTokens rest, renderClauses]

theorem renderTokens_joinedTokens (clauses : List Clause) :
    renderTokens hole (joinedTokens clauses) = renderJoined hole clauses := by
  match clauses with
  | [] => rfl
  | ⟨join, c⟩ :: rest =>
    rw [joinedTokens, renderTokens, renderTokens_append, Condition.renderTokens_tokens c,
      renderTokens_joinedTokens rest, renderJoined, Fragment.append_assoc]
    rfl

end

theorem isEmpty_clauseTokens (clauses : List Clause) :
    (clauseTokens clauses).isEmpty = clauses.isEmpty := by
  match clauses with
  | [] => rfl
  | ⟨_, c⟩ :: rest => cases c <;> rfl

theorem Query.whereFragment_eq (q : Query) :
    q.whereFragment hole = whereText hole (clauseTokens q.clauses) := by
  rw [whereFragment, whereText, isEmpty_clauseTokens, renderTokens_clauseTokens]

theorem Subquery.render_related (projection : Projection) (source : Source) (link : Link)
    (clauses : List Clause) :
    (Subquery.related projection source link clauses).render hole =
      ("SELECT " ++ projection.sql ++ " FROM " ++ source.sql ++ " WHERE " : Fragment) ++
        renderTokens hole (Subquery.related projection source link clauses).whereTokens := by
  rw [Subquery.render, whereTokens, renderTokens]
  cases clauses.isEmpty with
  | true => simp only [if_true, renderTokens, Token.render, Fragment.append_assoc]
  | false =>
    have hand : (" AND (" : Fragment) =
        (Token.word .and).render hole ++ Token.opening.render hole := rfl
    simp only [Bool.false_eq_true, if_false, hand, renderTokens, renderTokens_append,
      renderTokens_clauseTokens, Token.render, Fragment.append_assoc, Fragment.append_empty]

end

/-! ### Reading -/

structure Assignment where
  test : Condition → Bool
  link : Link → Bool

structure ReadSoFar where
  /-- Whether a conjunction in front of the last `or` holds. -/
  before : Bool := false
  /-- Whether the conjunction after it holds so far. -/
  here : Bool := true

namespace ReadSoFar

def value (l : ReadSoFar) : Bool := l.before || l.here

def and (l : ReadSoFar) (b : Bool) : ReadSoFar := { l with here := l.here && b }

def or (l : ReadSoFar) : ReadSoFar := { before := l.value, here := true }

def next (l : ReadSoFar) : Join × Bool → ReadSoFar
  | (.and, b) => l.and b
  | (.or, b) => l.or.and b

theorem value_foldl_next (l : ReadSoFar) (entries : List (Join × Bool)) :
    (entries.foldl next l).value = (l.before || joinedValue l.here entries) := by
  induction entries generalizing l with
  | nil => rfl
  | cons e entries ih =>
    obtain ⟨join, b⟩ := e
    rw [List.foldl_cons, ih]
    cases join with
    | and => rfl
    | or => exact Bool.or_assoc ..

end ReadSoFar

mutual

/-- Reads on where a test, a link or a pair of parentheses has to come. `outer` is what is read so
far in the pairs around this one. -/
def readOperand (a : Assignment) (outer : List ReadSoFar) (l : ReadSoFar) :
    List Token → Option Bool
  | .test c :: rest => readOperator a outer (l.and (a.test c)) rest
  | .link k :: rest => readOperator a outer (l.and (a.link k)) rest
  | .opening :: rest => readOperand a (l :: outer) {} rest
  | _ => none

def readOperator (a : Assignment) (outer : List ReadSoFar) (l : ReadSoFar) :
    List Token → Option Bool
  | [] => if outer.isEmpty then some l.value else none
  | .word .and :: rest => readOperand a outer l rest
  | .word .or :: rest => readOperand a outer l.or rest
  | .closing :: rest =>
    match outer with
    | [] => none
    | l' :: outer => readOperator a outer (l'.and l.value) rest
  | _ => none

end

def readTokens (a : Assignment) (tokens : List Token) : Option Bool := readOperand a [] {} tokens

def readWhere (a : Assignment) (tokens : List Token) : Option Bool :=
  if tokens.isEmpty then some true else readTokens a tokens

/-! ### What clauses say -/

section
variable (truth : Condition → Bool)

mutual

def Condition.meaning : Condition → Bool
  | .group clauses => listValue (meanings clauses)
  | c => truth c

def meanings : List Clause → List (Join × Bool)
  | [] => []
  | ⟨join, c⟩ :: rest => (join, c.meaning) :: meanings rest

end

mutual

theorem Condition.meaning_requalify (table name : String) (c : Condition) :
    (c.requalify table name).meaning truth = c.meaning fun c => truth (c.requalify table name) := by
  match c with
  | .group clauses =>
    rw [Condition.requalify, Condition.meaning, Condition.meaning,
      meanings_requalifyAll table name clauses]
  | .compare .. | .oneOf .. | .between .. | .isNull .. | .datePart .. | .exists .. | .count .. =>
    rfl

theorem meanings_requalifyAll (table name : String) (clauses : List Clause) :
    meanings truth (requalifyAll table name clauses) =
      meanings (fun c => truth (c.requalify table name)) clauses := by
  match clauses with
  | [] => rfl
  | ⟨join, c⟩ :: rest =>
    rw [requalifyAll, meanings, meanings, Condition.meaning_requalify table name c,
      meanings_requalifyAll table name rest]

end
end

section
variable (a : Assignment)

mutual

theorem Condition.WellFormed.readOperand_tokens {c : Condition} (h : c.WellFormed)
    (outer : List ReadSoFar) (l : ReadSoFar) (rest : List Token) :
    readOperand a outer l (c.tokens ++ rest) =
      readOperator a outer (l.and (c.meaning a.test)) rest := by
  match c with
  | .group clauses =>
    obtain ⟨hne, hall⟩ : clauses ≠ [] ∧ WellFormedAll clauses := h
    obtain ⟨l', hvalue, hread⟩ :=
      readOperand_clauseTokens hne hall (l :: outer) (.closing :: rest)
    rw [Condition.tokens, List.cons_append, List.append_assoc, readOperand, List.singleton_append,
      hread, readOperator, hvalue, Condition.meaning]
  | .compare .. | .oneOf .. | .between .. | .isNull .. | .datePart .. | .exists .. | .count .. =>
    rfl

/-- What is read within parentheses starts anew. -/
theorem readOperand_clauseTokens {clauses : List Clause} (hne : clauses ≠ [])
    (h : WellFormedAll clauses) (outer : List ReadSoFar) (rest : List Token) :
    ∃ l : ReadSoFar, l.value = listValue (meanings a.test clauses) ∧
      readOperand a outer {} (clauseTokens clauses ++ rest) = readOperator a outer l rest := by
  match clauses with
  | [] => exact absurd rfl hne
  | ⟨join, c⟩ :: clauses =>
    obtain ⟨hc, hrest⟩ : c.WellFormed ∧ WellFormedAll clauses := h
    let first : ReadSoFar := ({} : ReadSoFar).and (c.meaning a.test)
    refine ⟨(meanings a.test clauses).foldl ReadSoFar.next first, ?_, ?_⟩
    · rw [ReadSoFar.value_foldl_next]
      simp [first, meanings, listValue, ReadSoFar.and]
    · rw [clauseTokens, List.append_assoc, hc.readOperand_tokens, readOperator_joinedTokens hrest]

theorem readOperator_joinedTokens {clauses : List Clause} (h : WellFormedAll clauses)
    (outer : List ReadSoFar) (l : ReadSoFar) (rest : List Token) :
    readOperator a outer l (joinedTokens clauses ++ rest) =
      readOperator a outer ((meanings a.test clauses).foldl ReadSoFar.next l) rest := by
  match clauses with
  | [] => rfl
  | ⟨join, c⟩ :: clauses =>
    obtain ⟨hc, hrest⟩ : c.WellFormed ∧ WellFormedAll clauses := h
    rw [joinedTokens, List.cons_append, List.append_assoc, meanings, List.foldl_cons]
    cases join with
    | and =>
      rw [readOperator, hc.readOperand_tokens, readOperator_joinedTokens hrest, ReadSoFar.next]
    | or =>
      rw [readOperator, hc.readOperand_tokens, readOperator_joinedTokens hrest, ReadSoFar.next]

end

variable {a}

theorem readTokens_clauseTokens {clauses : List Clause} (hne : clauses ≠ [])
    (h : WellFormedAll clauses) :
    readTokens a (clauseTokens clauses) = some (listValue (meanings a.test clauses)) := by
  obtain ⟨l, hvalue, hread⟩ := readOperand_clauseTokens a hne h [] []
  rw [List.append_nil] at hread
  rw [readTokens, hread, ← hvalue]
  rfl

theorem readWhere_clauseTokens {clauses : List Clause} (h : WellFormedAll clauses) :
    readWhere a (clauseTokens clauses) = some (listValue (meanings a.test clauses)) := by
  rw [readWhere, isEmpty_clauseTokens]
  cases clauses with
  | nil => rfl
  | cons cl rest => exact readTokens_clauseTokens (List.cons_ne_nil cl rest) h

/-- The clauses of a subquery stand in parentheses, so the link holds for each of their
alternatives. -/
theorem readTokens_whereTokens (projection : Projection) (source : Source) (link : Link)
    {clauses : List Clause} (h : WellFormedAll clauses) :
    readTokens a (Subquery.related projection source link clauses).whereTokens =
      some (a.link link && listValue (meanings a.test clauses)) := by
  cases clauses with
  | nil => simp [Subquery.whereTokens, readTokens, readOperand, readOperator, ReadSoFar.value,
      ReadSoFar.and, meanings, listValue]
  | cons cl rest =>
    obtain ⟨l, hvalue, hread⟩ := readOperand_clauseTokens a (List.cons_ne_nil cl rest) h
      [({} : ReadSoFar).and (a.link link)] [.closing]
    rw [Subquery.whereTokens, readTokens, readOperand, List.isEmpty_cons, if_neg Bool.false_ne_true,
      readOperator, readOperand, hread, readOperator, hvalue, readOperator]
    simp [ReadSoFar.value, ReadSoFar.and]

end
end RelationalQuery.Sql
