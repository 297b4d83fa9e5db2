/-!
# Recall of queries

The queries that were submitted, newest first, and a cursor that steps
through them as at a prompt. Submitting from an older query drops the
queries that are newer than it.
-/

namespace RowQuery

/-- The queries that can be recalled. -/
structure Recall where
  /-- The queries, newest first. -/
  entries : List String
  /-- The index of the query that was recalled last. -/
  cursor : Nat
  /-- Whether submissions are passed over, since they come from a recall. -/
  paused : Bool
deriving DecidableEq

namespace Recall

/-- How many queries are kept. -/
def capacity : Nat := 1000

/-- Nothing to recall yet. -/
def empty : Recall := ⟨[], 0, false⟩

/-- Passes over submissions from now on, or takes them again. -/
def setPaused (r : Recall) (paused : Bool) : Recall :=
  { r with paused }

/-- Submits a query. -/
def submit (r : Recall) (query : String) : Recall :=
  if r.paused then r
  else { r with entries := (query :: r.entries.drop r.cursor).take capacity, cursor := 0 }

/-- Steps to the next older query; the answer is empty when there is none. -/
def older (r : Recall) : String × Recall :=
  match r.entries[r.cursor + 1]? with
  | some query => (query, { r with cursor := r.cursor + 1 })
  | none => ("", r)

/-- Steps to the next newer query, or stays at the newest; the answer is
empty when there is none. -/
def newer (r : Recall) : String × Recall :=
  (r.entries[r.cursor - 1]?.getD "", { r with cursor := r.cursor - 1 })

end Recall

end RowQuery
