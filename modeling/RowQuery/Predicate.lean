import RowQuery.Header
import RowQuery.Pattern.Whole
/-!
# Predicates

What a query tree asks of a row. References are resolved and patterns read
once, so testing a row never fails. A tree has no predicate when one of its
comparisons has none; the first of them, in the order of the text, gives the
error, whether or not it would ever be tested.
-/

namespace RowQuery

/-- A condition on a row and on its index, counted from zero. -/
abbrev Predicate := Row → Nat → Bool

namespace Query

variable [Pattern.Engine]

/-- What a comparison of two references says of a value and a pattern, either
of which may be absent. -/
def Operator.holds (op : Operator) (value pattern : Cell) : Bool :=
  match op with
  | equal => value = pattern
  | notEqual => value ≠ pattern
  | less => (value.order pattern).isLT
  | greater => (value.order pattern).isGT
  | lessOrEqual => (value.order pattern).isLE
  | greaterOrEqual => (value.order pattern).isGE
  | like => pattern.occurs value
  | ilike => pattern.occursIgnoringCase value
  | regex =>
    match value, pattern with
    | some v, some p => Pattern.matchesWhole p v
    | _, _ => false

/-- The condition that a comparison with a text sets on values. What can be
prepared is prepared: the text in lower case, the expression of a pattern. -/
def Operator.against (op : Operator) (text : String) : Except BindError (Cell → Bool) :=
  match op with
  | equal => .ok fun value => value = some text
  | notEqual => .ok fun value => value ≠ some text
  | less => .ok fun value => (value.order (some text)).isLT
  | greater => .ok fun value => (value.order (some text)).isGT
  | lessOrEqual => .ok fun value => (value.order (some text)).isLE
  | greaterOrEqual => .ok fun value => (value.order (some text)).isGE
  | like => .ok fun value => Cell.occurs (some text) value
  | ilike =>
    let pattern := Cell.lower (some text)
    .ok fun value => pattern.occurs (Cell.lower value)
  | regex =>
    match Pattern.whole text with
    | .error why => .error (.invalidPattern text why)
    | .ok r => .ok fun value => value.any fun v => Pattern.Engine.occurs r v

/-- The predicate of a comparison. -/
def Comparison.predicate (h : Header) (c : Comparison) : Except BindError Predicate :=
  match h.resolve c.subject with
  | .error e => .error e
  | .ok subject =>
    match c.operand with
    | .text s =>
      (c.operator.against s).map fun holds row ordinal => holds (subject.read row ordinal)
    | .reference r =>
      (h.resolve r).map fun pattern row ordinal =>
        c.operator.holds (subject.read row ordinal) (pattern.read row ordinal)

/-- Holds where one of the predicates does. A predicate that stands alone is
taken as it is. -/
def anyOf : List Predicate → Predicate
  | [p] => p
  | ps => fun row ordinal => ps.any fun p => p row ordinal

/-- Holds where all of the predicates do. A predicate that stands alone is
taken as it is. -/
def allOf : List Predicate → Predicate
  | [p] => p
  | ps => fun row ordinal => ps.all fun p => p row ordinal

mutual

/-- The predicate of a term. -/
def Term.predicate (h : Header) : Term → Except BindError Predicate
  | .comparison c => c.predicate h
  | .negation t => (t.predicate h).map fun p row ordinal => !p row ordinal
  | .group alternatives => (predicates h alternatives).map anyOf

/-- The predicates of terms that hold together. -/
def termPredicates (h : Header) : List Term → Except BindError (List Predicate)
  | [] => .ok []
  | t :: rest =>
    match t.predicate h with
    | .error e => .error e
    | .ok p => (termPredicates h rest).map (p :: ·)

/-- The predicates of alternatives. -/
def predicates (h : Header) : List (List Term) → Except BindError (List Predicate)
  | [] => .ok []
  | terms :: rest =>
    match termPredicates h terms with
    | .error e => .error e
    | .ok ps => (predicates h rest).map (allOf ps :: ·)

end

/-- The predicate of a query tree. -/
def Tree.predicate (h : Header) (t : Tree) : Except BindError Predicate :=
  (predicates h t).map anyOf

end Query

end RowQuery
