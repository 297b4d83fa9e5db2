import RowQuery.Query.Token
import RowQuery.Query.Tree
import Mathlib.Data.List.Basic
/-!
# The grammar of queries

Which lists of tokens are queries, and of which tree, told without a
reader. `Derives` has a constructor for each rule of the grammar

    query      := terms ( OR terms )*
    terms      := term ( AND term )*
    term       := NOT term | "(" query ")" | comparison
    comparison := reference operator ( text | reference )

in which the repetitions grow from the front. A reader grows them at the
end, which comes to the same (`Derives.and_last`, `Derives.or_last`).
-/

namespace RowQuery

namespace Query

/-- The token that writes a reference. -/
inductive Reference.Written : Reference → Token → Prop
  /-- A bare name. -/
  | name {s : String} : Written (.name s) (.name s)
  /-- A quoted name. -/
  | quotedName {s : String} : Written (.quotedName s) (.quotedName s)
  /-- The number zero stands for the position of the row. -/
  | position : Written .position (.index 0)
  /-- Any other number for a column. -/
  | index {n : ℕ} : 0 < n → Written (.index n) (.index n)

/-- The token that writes an operand. -/
inductive Operand.Written : Operand → Token → Prop
  /-- A text. -/
  | text {s : String} : Written (.text s) (.text s)
  /-- A reference. -/
  | reference {r : Reference} {t : Token} : r.Written t → Written (.reference r) t

/-- What a list of tokens can be. -/
inductive Phrase
  /-- A query. -/
  | query (t : Tree)
  /-- Terms that hold together. -/
  | terms (c : Conjunction)
  /-- A term. -/
  | term (t : Term)

/-- **The grammar**: the phrases that a list of tokens is. -/
inductive Derives : List Token → Phrase → Prop
  /-- A query of one alternative. -/
  | alternative {ts : List Token} {c : Conjunction} :
      Derives ts (.terms c) → Derives ts (.query [c])
  /-- A query of several. -/
  | or {ts us : List Token} {c : Conjunction} {q : Tree} :
      Derives ts (.terms c) → Derives us (.query q) → Derives (ts ++ .or :: us) (.query (c :: q))
  /-- A single term. -/
  | single {ts : List Token} {t : Term} : Derives ts (.term t) → Derives ts (.terms [t])
  /-- Several. -/
  | and {ts us : List Token} {t : Term} {c : Conjunction} :
      Derives ts (.term t) → Derives us (.terms c) → Derives (ts ++ .and :: us) (.terms (t :: c))
  /-- The negation of a term. -/
  | not {ts : List Token} {t : Term} :
      Derives ts (.term t) → Derives (.not :: ts) (.term (.negation t))
  /-- A query in parentheses. -/
  | group {ts : List Token} {q : Tree} :
      Derives ts (.query q) → Derives (.opening :: ts ++ [.closing]) (.term (.group q))
  /-- A comparison. -/
  | comparison {x : Reference} {op : Operator} {y : Operand} {t u : Token} :
      x.Written t → y.Written u → Derives [t, .operator op, u] (.term (.comparison ⟨x, op, y⟩))

namespace Derives

variable {ts us : List Token}

/-- Nothing derives from no tokens. -/
theorem ne_nil {p : Phrase} (h : Derives ts p) : ts ≠ [] := by
  induction h with
  | alternative _ ih | single _ ih => exact ih
  | _ => simp

/-- Terms can be joined behind others. -/
theorem and_append {c d : Conjunction} (hc : Derives ts (.terms c)) (hd : Derives us (.terms d)) :
    Derives (ts ++ .and :: us) (.terms (c ++ d)) := by
  induction c generalizing ts with
  | nil => nomatch hc
  | cons t c ih =>
    cases hc with
    | single ht => exact .and ht hd
    | and ht hc =>
      rw [List.append_assoc, List.cons_append, List.cons_append]
      exact .and ht (ih hc)

/-- Of which there may be one. -/
theorem and_last {c : Conjunction} {t : Term} (hc : Derives ts (.terms c))
    (ht : Derives us (.term t)) : Derives (ts ++ .and :: us) (.terms (c ++ [t])) :=
  hc.and_append (.single ht)

/-- And alternatives behind others. -/
theorem or_append {q r : Tree} (hq : Derives ts (.query q)) (hr : Derives us (.query r)) :
    Derives (ts ++ .or :: us) (.query (q ++ r)) := by
  induction q generalizing ts with
  | nil => nomatch hq
  | cons d q ih =>
    cases hq with
    | alternative hd => exact .or hd hr
    | or hd hq =>
      rw [List.append_assoc, List.cons_append, List.cons_append]
      exact .or hd (ih hq)

/-- Of which there may be one as well. -/
theorem or_last {q : Tree} {c : Conjunction} (hq : Derives ts (.query q))
    (hc : Derives us (.terms c)) : Derives (ts ++ .or :: us) (.query (q ++ [c])) :=
  hq.or_append (.alternative hc)

/-- A term below any number of NOTs. -/
theorem negations {t : Term} (ht : Derives ts (.term t)) (n : ℕ) :
    Derives (List.replicate n .not ++ ts) (.term (n.repeat Term.negation t)) := by
  induction n with
  | zero => exact ht
  | succ n ih => exact .not ih

end Derives

end Query

end RowQuery
