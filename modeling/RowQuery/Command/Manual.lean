import RowQuery.Unicode.Lowercase
/-!
# The manual

The texts that the command shows about the query language: an overview, and
a page for each topic.
-/

namespace RowQuery

namespace Command

/-- A topic of the manual. -/
inductive Topic
  /-- The grammar of queries. -/
  | grammar
  /-- The comparison operators. -/
  | operators
  /-- References to columns. -/
  | columns
deriving DecidableEq

namespace Topic

/-- The names of the topics. -/
def names : List (String × Topic) :=
  [("syntax", grammar), ("grammar", grammar), ("operators", operators), ("ops", operators),
   ("columns", columns), ("column", columns), ("refs", columns)]

/-- The topic that has a name, in any case and with hyphens for
underscores. -/
def ofName? (name : String) : Option Topic :=
  let name := (Unicode.lowercase name).toList.map fun c => if c = '-' then '_' else c
  (names.find? fun e => e.1.toList = name).map (·.2)

end Topic

/-- What the manual is about, and its topics. -/
def overview : String :=
  r#"TFQ DOCUMENTATION

tfq filters the rows of a table with a boolean query. Every value is text:
comparisons are alphabetical, not numeric.

DOCUMENTATION CATEGORIES

  syntax            Grammar, precedence, literals and escapes
  operators         Comparison operators and how they treat missing values
  columns           Referring to columns by name, quoted name, or position

QUICK REFERENCE

  col = 'x'                     Equality
  "first name" ILIKE 'ann'      Quoted column, case-insensitive contains
  $2 > 'h' OR $0 > '3'          Second column, row position
  NOT (a = 'x' AND b <> 'y')    Grouping and negation

Run 'tfq doc <category>' for detailed documentation.
"#

/-- The page on the grammar. -/
def grammarPage : String :=
  r#"SYNTAX

GRAMMAR

  expr       := orExpr
  orExpr     := andExpr ( OR andExpr )*
  andExpr    := notExpr ( AND notExpr )*
  notExpr    := NOT notExpr | primary
  primary    := "(" expr ")" | comparison
  comparison := column op 'literal' | column op column

PRECEDENCE (loosest first)

  OR, AND, NOT, comparison, parentheses

  p OR q AND r        is   p OR (q AND r)
  (p OR q) AND r      needs the parentheses

KEYWORDS

  AND, OR, NOT, LIKE, ILIKE and REGEX are case-insensitive.
  A column named like a keyword must be quoted: "and" = 'x'

LITERALS

  Single-quoted:   'hello'
  Escapes:         \' for a quote, \\ for a backslash
  Anything else after a backslash is kept as is, so '\d+' reaches the
  regular expression engine unchanged.

BLANK QUERIES

  An empty or whitespace-only query keeps every row.
"#

/-- The page on the operators. -/
def operatorsPage : String :=
  r#"OPERATORS

  =        equal (two missing values are equal)
  <>       not equal
  <  <=    alphabetical order; a missing value sorts before any text
  >  >=
  LIKE     left contains the right side:      name LIKE 'ann'
  ILIKE    LIKE ignoring case:                 name ILIKE 'ANN'
  REGEX    left fully matches the expression:  code REGEX '[0-9]+'

PATTERN SIDE

  With a literal, the literal is always the pattern. When both sides are
  columns, the right column holds the pattern for each row:

    text REGEX pattern_column

  A literal expression that does not compile is an error before any row is
  read. A pattern taken from a row that does not compile just doesn't match.

COST

  A literal REGEX is compiled once per query. A column REGEX compiles the
  row's pattern again for every row, which dominates the scan on large
  tables; prefer a literal pattern when one will do.

MISSING VALUES

  A missing value never matches a present pattern. With LIKE and ILIKE, a
  missing pattern matches only a missing value; with REGEX it never matches.
"#

/-- The page on references. -/
def columnsPage : String :=
  r#"COLUMNS

  name          bare name: letters, digits, underscore, not starting with a digit
  "any name"    quoted name; escapes: \" and \\
  $1, $2, ...   position, starting at 1; works whatever the names are
  $0            position of the row, starting at 1, as text

NAMES

  Names can only be used when every column has a name and no two columns
  share one. Otherwise use positions.

ROW POSITION

  $0 is compared as text, so $0 > '3' keeps rows 4 to 9, skips 10 to 29,
  and keeps 30 to 99 again.
"#

/-- The page of a topic. -/
def Topic.page : Topic → String
  | grammar => grammarPage
  | operators => operatorsPage
  | columns => columnsPage

end Command

end RowQuery
