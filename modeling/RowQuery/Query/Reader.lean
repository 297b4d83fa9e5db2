import RowQuery.Query.Scanner
import RowQuery.Query.Tree
/-!
# Reading queries

From tokens to trees, by the grammar

    query      := terms ( OR terms )*
    terms      := term ( AND term )*
    term       := NOT term | "(" query ")" | comparison
    comparison := reference operator ( text | reference )

A token is all that the reading has to look at: `State.step` takes a state
and a token to the next state, to a finished tree, or to what was expected
instead. The state holds one level for each parenthesis that is open. A
`Reader` drives the steps by a scanner and stops at the first error of
either; it can be asked again, and goes on from where it stopped.
-/

namespace RowQuery

namespace Query

/-- What was read of the query in one pair of parentheses, or outside all. -/
structure Level where
  /-- The alternatives before the last OR, last one first. -/
  alternatives : List Conjunction
  /-- The terms since then, last one first. -/
  terms : List Term
  /-- How many NOTs stand before the term that is read next. -/
  negations : Nat

namespace Level

/-- Nothing read yet. -/
def start : Level := ⟨[], [], 0⟩

/-- Adds a term below the NOTs that wait for it. -/
def add (l : Level) (t : Term) : Level :=
  ⟨l.alternatives, l.negations.repeat Term.negation t :: l.terms, 0⟩

/-- Starts a new alternative. -/
def next (l : Level) : Level :=
  ⟨l.terms.reverse :: l.alternatives, [], 0⟩

/-- The query that was read. -/
def tree (l : Level) : Tree :=
  l.next.alternatives.reverse

end Level

/-- What the query has to go on with. -/
inductive Phase
  /-- A term. -/
  | term
  /-- The operator behind a reference. -/
  | operator (subject : Reference)
  /-- The operand behind an operator. -/
  | operand (subject : Reference) (op : Operator)
  /-- A word that joins or ends what was read. -/
  | joint

/-- How far the reading has come. -/
structure State where
  /-- What comes next. -/
  phase : Phase
  /-- What was read since the last parenthesis that is open. -/
  level : Level
  /-- The levels outside it, nearest first. -/
  outer : List Level

/-- What comes of a token. -/
inductive Verdict
  /-- The reading goes on. -/
  | proceed (s : State)
  /-- The query is complete. -/
  | complete (t : Tree)
  /-- The token does not fit. -/
  | reject (wanted : Expected)

/-- The reference that a token writes. -/
def Token.reference? : Token → Option Reference
  | .name s => some (.name s)
  | .quotedName s => some (.quotedName s)
  | .index 0 => some .position
  | .index n => some (.index n)
  | _ => none

/-- The operand that a token writes. -/
def Token.operand? : Token → Option Operand
  | .text s => some (.text s)
  | t => t.reference?.map .reference

namespace State

/-- Nothing read yet. -/
def start : State := ⟨.term, .start, []⟩

/-- The next state. -/
def step (s : State) (t : Token) : Verdict :=
  match s.phase with
  | .term =>
    match t with
    | .not => .proceed { s with level.negations := s.level.negations + 1 }
    | .opening => .proceed ⟨.term, .start, s.level :: s.outer⟩
    | t =>
      match t.reference? with
      | some r => .proceed { s with phase := .operator r }
      | none => .reject .reference
  | .operator subject =>
    match t with
    | .operator op => .proceed { s with phase := .operand subject op }
    | _ => .reject .operator
  | .operand subject op =>
    match t.operand? with
    | some operand =>
      .proceed { s with phase := .joint, level := s.level.add (.comparison ⟨subject, op, operand⟩) }
    | none => .reject .operand
  | .joint =>
    match t, s.outer with
    | .and, _ => .proceed { s with phase := .term }
    | .or, _ => .proceed { s with phase := .term, level := s.level.next }
    | .closing, outside :: outer => .proceed ⟨.joint, outside.add (.group s.level.tree), outer⟩
    | .finish, [] => .complete s.level.tree
    | _, _ :: _ => .reject .closing
    | _, [] => .reject .joint

/-- The end of the query is never a reason to go on. -/
theorem step_finish_ne_proceed (s s' : State) : s.step .finish ≠ .proceed s' := by
  obtain ⟨phase, level, outer⟩ := s
  cases phase <;> cases outer <;> simp [step, Token.reference?, Token.operand?]

end State

/-- A scanner with the token that is read next and the place of it. -/
structure Reader where
  /-- What the tokens come from. -/
  scanner : Scanner
  /-- The token that is read next. -/
  token : Token
  /-- Its place. -/
  position : Nat

namespace Reader

/-- A reader at the start of a text, unless the text starts with no token. -/
def ofText (s : String) : Except ReadError Reader :=
  let (outcome, scanner) := (Scanner.ofText s).next
  outcome.map fun t => ⟨scanner, t, scanner.start⟩

/-- How much is left to read: the rest of the text, and the next token
unless that is the end. -/
def size (r : Reader) : Nat :=
  r.scanner.rest.length + if r.token = .finish then 0 else 1

/-- The reader when no token follows the one it has taken. The place stays,
and so does the token, unless it was a part of a comparison that is taken
by value: the end of the query stands in for that. -/
def stuck (r : Reader) : Reader :=
  { r with
    scanner := r.scanner.next.2
    token := if r.token.operand?.isSome then .finish else r.token }

/-- Reads on from a state, to a tree or to the first error. -/
def run (r : Reader) (s : State) : Except ReadError Tree × Reader :=
  match hv : s.step r.token with
  | .reject wanted => (.error ⟨r.position, .unexpected wanted r.token⟩, r)
  | .complete t => (.ok t, r)
  | .proceed s' =>
    match hn : r.scanner.next.1 with
    | .error e => (.error e, r.stuck)
    | .ok t =>
      have : (Reader.mk r.scanner.next.2 t r.scanner.next.2.start).size < r.size := by
        have hne : r.token ≠ .finish := fun h => s.step_finish_ne_proceed s' (h ▸ hv)
        by_cases ht : t = .finish
        · have := r.scanner.length_next_le
          simp [size, ht, hne]
          omega
        · have := Scanner.length_next hn ht
          simp [size, ht, hne]
          omega
      run ⟨r.scanner.next.2, t, r.scanner.next.2.start⟩ s'
termination_by r.size

/-- Reads a whole query. -/
def query (r : Reader) : Except ReadError Tree × Reader :=
  r.run .start

end Reader

/-- The tree of a query. -/
def read (s : String) : Except ReadError Tree :=
  (Reader.ofText s).bind fun r => r.query.1

end Query

end RowQuery
