import RowQuery.Query.ReadError
import RowQuery.Text.Quoted
import RowQuery.Unicode.Letter
import RowQuery.Unicode.WhiteSpace
/-!
# Scanning

The tokens of a text, one at a time. `Lexeme.first` reads the token at the
start of a text, and says how many characters it takes; a `Scanner` passes
over white space, reads the lexeme behind it and remembers where it
started. A scanner can be asked again after an error: what starts no token
is not passed over, so the answer is then the same.
-/

namespace RowQuery

namespace Query

open Unicode

/-- What stands at the start of a text: a token or why there is none, and
how many characters it takes. -/
structure Lexeme where
  /-- The token, or why there is none. -/
  outcome : Except ReadError.Cause Token
  /-- The number of characters taken. -/
  length : Nat

/-- Whether a bare name can start with the character. -/
def startsName (c : Char) : Bool :=
  isAlphabetic c || c = '_'

/-- Whether a bare name can go on with the character. -/
def continuesName (c : Char) : Bool :=
  isAlphanumeric c || c = '_'

namespace Lexeme

/-- The bound of column numbers, 2 to the power of 64. -/
def indexBound : Nat := 18446744073709551616

/-- The token between quotes, by what follows the opening quote. -/
def ofQuoted (quote : Char) (token : String → Token) (unclosed : ReadError.Cause)
    (rest : List Char) : Lexeme :=
  match Text.body? quote rest with
  | some (body, _) => ⟨.ok (token (String.ofList (Text.unescape quote body))), body.length + 2⟩
  | none => ⟨.error unclosed, rest.length + 1⟩

/-- The column number behind a dollar sign. -/
def ofDollar (rest : List Char) : Lexeme :=
  let digits := rest.takeWhile Char.isDigit
  let outcome :=
    if digits.isEmpty then .error .missingIndex
    else if Text.numeral digits < indexBound then .ok (.index (Text.numeral digits))
    else .error (.indexTooLarge (String.ofList digits))
  ⟨outcome, digits.length + 1⟩

/-- The lexeme at the start of a text. The longer of two operators wins. -/
def first : List Char → Lexeme
  | [] => ⟨.ok .finish, 0⟩
  | '$' :: rest => ofDollar rest
  | '"' :: rest => ofQuoted '"' .quotedName .unclosedName rest
  | '\'' :: rest => ofQuoted '\'' .text .unclosedText rest
  | '(' :: _ => ⟨.ok .opening, 1⟩
  | ')' :: _ => ⟨.ok .closing, 1⟩
  | '=' :: _ => ⟨.ok (.operator .equal), 1⟩
  | '<' :: '=' :: _ => ⟨.ok (.operator .lessOrEqual), 2⟩
  | '<' :: '>' :: _ => ⟨.ok (.operator .notEqual), 2⟩
  | '<' :: _ => ⟨.ok (.operator .less), 1⟩
  | '>' :: '=' :: _ => ⟨.ok (.operator .greaterOrEqual), 2⟩
  | '>' :: _ => ⟨.ok (.operator .greater), 1⟩
  | '!' :: _ => ⟨.error .exclamation, 0⟩
  | c :: rest =>
    if startsName c then
      ⟨.ok (.ofWord (c :: rest.takeWhile continuesName)),
        (rest.takeWhile continuesName).length + 1⟩
    else if c.isDigit then ⟨.error (.bareDigit c), 0⟩
    else ⟨.error (.strayCharacter c), 0⟩

/-- A token takes characters of the text, the end of the query apart. -/
theorem length_first {text : List Char} {t : Token} (h : (first text).outcome = .ok t)
    (ht : t ≠ .finish) : 0 < (first text).length ∧ 0 < text.length := by
  fun_cases first text <;> simp_all [first, ofDollar, ofQuoted]
  all_goals split <;> simp

end Lexeme

/-- A text being scanned. -/
structure Scanner where
  /-- What is left of the text. -/
  rest : List Char
  /-- How many characters were passed. -/
  position : Nat
  /-- Where the last token started. -/
  start : Nat

namespace Scanner

/-- A scanner at the start of a text. -/
def ofText (s : String) : Scanner := ⟨s.toList, 0, 0⟩

/-- Reads the next token, and stands behind what it took. -/
def next (s : Scanner) : Except ReadError Token × Scanner :=
  let text := s.rest.dropWhile isWhiteSpace
  let start := s.position + (s.rest.takeWhile isWhiteSpace).length
  let lexeme := Lexeme.first text
  (lexeme.outcome.mapError (⟨start, ·⟩), ⟨text.drop lexeme.length, start + lexeme.length, start⟩)

/-- A token other than the end leaves less of the text. -/
theorem length_next {s : Scanner} {t : Token} (h : s.next.1 = .ok t) (ht : t ≠ .finish) :
    s.next.2.rest.length < s.rest.length := by
  have hdrop : (s.rest.dropWhile isWhiteSpace).length ≤ s.rest.length :=
    (List.dropWhile_sublist _).length_le
  have hok : (Lexeme.first (s.rest.dropWhile isWhiteSpace)).outcome = .ok t := by
    simp only [next] at h
    cases ho : (Lexeme.first (s.rest.dropWhile isWhiteSpace)).outcome with
    | error e => rw [ho] at h; contradiction
    | ok u => rw [ho] at h; exact congrArg Except.ok (Except.ok.inj h)
  have := Lexeme.length_first hok ht
  simp only [next, List.length_drop]
  omega

/-- No token leaves more of the text. -/
theorem length_next_le (s : Scanner) : s.next.2.rest.length ≤ s.rest.length := by
  have hdrop : (s.rest.dropWhile isWhiteSpace).length ≤ s.rest.length :=
    (List.dropWhile_sublist _).length_le
  simp only [next, List.length_drop]
  omega

/-- All tokens of the text with their starts, the end of the query last. -/
def tokens (s : Scanner) : Except ReadError (List (Token × Nat)) :=
  match h : s.next.1 with
  | .error e => .error e
  | .ok t =>
    if ht : t = .finish then .ok [(t, s.next.2.start)]
    else
      have := length_next h ht
      s.next.2.tokens.map ((t, s.next.2.start) :: ·)
termination_by s.rest.length

end Scanner

end Query

end RowQuery
