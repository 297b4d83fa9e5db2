/-!
# Arguments

What the words of a command line ask for. A word that starts with a hyphen
is an option, a lone hyphen apart, until two hyphens end the options; an
option that has a value takes it from the same word or from the next one,
which must not be an option. Options other than the repeatable one are
given once at most.
-/

namespace RowQuery

namespace Command

/-- What a command line asks for. -/
inductive Request
  /-- Check a query. -/
  | check (query : String) (input : Option String) (pretty syntaxOnly : Bool)
  /-- Show what the manual is about. -/
  | overview
  /-- Show a page of the manual. -/
  | page (name : String)
  /-- Show the version. -/
  | version
  /-- Show how the command is called. -/
  | usage

/-- A subcommand. -/
inductive Subcommand
  /-- Checks the query that it is given. -/
  | check
  /-- Shows what the manual is about. -/
  | docs
  /-- Shows the page that it is given the name of. -/
  | doc
deriving DecidableEq

/-- What was collected behind a subcommand. -/
structure Collected where
  /-- The word that is no option. -/
  operand : Option String
  /-- The value of the option for input. -/
  input : Option String
  /-- Whether the output is spread over lines. -/
  pretty : Bool
  /-- Whether the query is read only. -/
  syntaxOnly : Bool

namespace Collected

/-- Nothing collected yet. -/
def start : Collected := ⟨none, none, false, false⟩

/-- Takes a word that is no option. The overview takes none, and the other
subcommands take one. -/
def withOperand (s : Subcommand) (c : Collected) (word : String) : Option Collected :=
  if s = .docs ∨ c.operand.isSome then none else some { c with operand := word }

/-- Takes a value for the input. -/
def withInput (c : Collected) (value : String) : Option Collected :=
  if c.input.isSome then none else some { c with input := value }

/-- Takes the option for spread output. -/
def withPretty (c : Collected) : Option Collected :=
  if c.pretty then none else some { c with pretty := true }

/-- Takes the option for reading only. -/
def withSyntaxOnly (c : Collected) : Option Collected :=
  if c.syntaxOnly then none else some { c with syntaxOnly := true }

/-- Takes words none of which is an option. -/
def withOperands (s : Subcommand) (c : Collected) : List String → Option Collected
  | [] => some c
  | word :: rest => (c.withOperand s word).bind fun c => c.withOperands s rest

/-- What a subcommand is asked for. -/
def request (c : Collected) : Subcommand → Option Request
  | .check => c.operand.map fun query => .check query c.input c.pretty c.syntaxOnly
  | .docs => some .overview
  | .doc => c.operand.map .page

end Collected

/-- What comes of a word of options. -/
inductive Taken
  /-- The options were collected. -/
  | collected (c : Collected)
  /-- The value of the option for input is the next word. -/
  | wantsInput (c : Collected)
  /-- The word asks for something else at once. -/
  | asks (r : Request)
  /-- The word is no option, or none that can be given here. -/
  | refused

/-- What comes of collecting, if it succeeds. -/
def Taken.ofOption : Option Collected → Taken
  | some c => collected c
  | none => refused

/-- Takes the letters behind a hyphen. -/
def takeLetters (s : Subcommand) (c : Collected) : List Char → Taken
  | [] => .collected c
  | 'v' :: rest => takeLetters s c rest
  | 'h' :: _ => .asks .usage
  | 'p' :: rest =>
    match s, c.withPretty with
    | .check, some c => takeLetters s c rest
    | _, _ => .refused
  | 'i' :: rest =>
    match s, rest with
    | .check, [] => .wantsInput c
    | .check, '=' :: value => .ofOption (c.withInput (String.ofList value))
    | .check, value => .ofOption (c.withInput (String.ofList value))
    | _, _ => .refused
  | _ :: _ => .refused

/-- Takes the name behind two hyphens. -/
def takeName (s : Subcommand) (c : Collected) (name : List Char) : Taken :=
  let inputName := "input".toList
  if name = "verbose".toList then .collected c
  else if name = "help".toList then .asks .usage
  else if s ≠ .check then .refused
  else if name = "pretty".toList then .ofOption c.withPretty
  else if name = "syntax-only".toList then .ofOption c.withSyntaxOnly
  else if name = inputName then .wantsInput c
  else if (inputName ++ ['=']).isPrefixOf name then
    .ofOption (c.withInput (String.ofList (name.drop (inputName.length + 1))))
  else .refused

/-- Whether a word is taken for options. -/
def isOption (word : String) : Bool :=
  match word.toList with
  | '-' :: _ :: _ => true
  | _ => false

/-- Takes a word of options. -/
def takeOption (s : Subcommand) (c : Collected) (word : String) : Taken :=
  match word.toList with
  | '-' :: '-' :: name => takeName s c name
  | '-' :: letters => takeLetters s c letters
  | _ => .refused

/-- Collects the words behind a subcommand. -/
def collect (s : Subcommand) (c : Collected) : List String → Option Request
  | [] => c.request s
  | word :: rest =>
    if word = "--" then (c.withOperands s rest).bind (·.request s)
    else if isOption word then
      match takeOption s c word, rest with
      | .collected c, rest => collect s c rest
      | .wantsInput _, [] => none
      | .wantsInput c, value :: rest =>
        if isOption value then none
        else (c.withInput value).bind fun c => collect s c rest
      | .asks r, _ => some r
      | .refused, _ => none
    else (c.withOperand s word).bind fun c => collect s c rest

/-- What letters behind a hyphen ask for before the subcommand: nothing, or
something else at once. -/
def leadingLetters : List Char → Option (Option Request)
  | [] => some none
  | 'v' :: rest => leadingLetters rest
  | 'V' :: _ => some (some .version)
  | 'h' :: _ => some (some .usage)
  | _ :: _ => none

/-- What a word of options asks for before the subcommand. -/
def leadingOption (word : String) : Option (Option Request) :=
  match word.toList with
  | '-' :: '-' :: name =>
    if name = "verbose".toList then some none
    else if name = "version".toList then some (some .version)
    else if name = "help".toList then some (some .usage)
    else none
  | '-' :: letters => leadingLetters letters
  | _ => none

/-- What the words behind a request for help ask for: how the command or a
subcommand is called. -/
def helpOn : List String → Option Request
  | [] => some .usage
  | [word] => if word ∈ ["check", "docs", "doc", "help"] then some .usage else none
  | _ => none

/-- What the words of a command line ask for, unless they are misused. -/
def requestOf : List String → Option Request
  | [] => none
  | word :: rest =>
    if isOption word then
      match leadingOption word with
      | some none => requestOf rest
      | some (some r) => some r
      | none => none
    else if word = "check" then collect .check .start rest
    else if word = "docs" then collect .docs .start rest
    else if word = "doc" then collect .doc .start rest
    else if word = "help" then helpOn rest
    else none

end Command

end RowQuery
