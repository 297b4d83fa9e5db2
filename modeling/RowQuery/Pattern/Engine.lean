/-!
# Engines for patterns

What reads patterns and matches them is a part of its own. An engine makes
an expression of a pattern, or says in its own words why the text is none,
and finds out whether an expression matches some stretch of a text. Queries
mean the same over every engine.
-/

namespace RowQuery

namespace Pattern

/-- An engine for patterns. -/
class Engine where
  /-- What a pattern is compiled to. -/
  Expression : Type
  /-- The expression of a pattern, or why the text is no pattern. -/
  compile : String → Except String Expression
  /-- Whether an expression matches some stretch of a text. -/
  occurs : Expression → String → Bool

end Pattern

end RowQuery
