import Mathlib.Data.List.Basic
import RowQuery.Pattern.Whole
/-!
# What engines are known to do

A query asks an engine for two things only, so what its answers mean has to
be said of the engine. `Semantics` is what is behind the answers: the
stretches that an expression matches, and how a pattern is read. The laws of
`Semantics.Documented` are the little that anchors need: that searching looks
for a stretch, that groups and anchors mean what they are there for, and that
the parentheses of groups go together. Those of `Semantics.PassesComments`
are about comments. What a pattern matches between anchors follows from the
former (`Semantics.Documented.occurs_whole`), and that anchors can get lost in
a comment from both (`Semantics.PassesComments.anchored_eq_error`).
-/

namespace RowQuery

namespace Pattern

/-! ## Parentheses -/

/-- A parenthesis. -/
inductive Paren
  /-- It opens a group. -/
  | opening
  /-- It closes a group. -/
  | closing
deriving DecidableEq

/-- The parenthesis that a character is. -/
def Paren.ofChar? : Char → Option Paren
  | '(' => some opening
  | ')' => some closing
  | _ => none

/-- The parentheses in a text, in their order. -/
def parentheses (text : List Char) : List Paren :=
  text.filterMap Paren.ofChar?

/-- Whether all parentheses in a pattern have a meaning: it has no escapes, no
brackets and no comments that could hold one. -/
def Plain (text : List Char) : Prop :=
  '\\' ∉ text ∧ '[' ∉ text ∧ '#' ∉ text

/-- `Closes n ps`: the parentheses close `n` groups that are open, and all
those that they open themselves. -/
inductive Closes : ℕ → List Paren → Prop
  /-- Nothing is left to close. -/
  | done : Closes 0 []
  /-- A group more is open. -/
  | opening {n : ℕ} {ps : List Paren} : Closes (n + 1) ps → Closes n (.opening :: ps)
  /-- The last one is closed. -/
  | closing {n : ℕ} {ps : List Paren} : Closes n ps → Closes (n + 1) (.closing :: ps)

/-- **Parentheses that go together.** -/
def Balanced (ps : List Paren) : Prop :=
  Closes 0 ps

/-- The parentheses decide how many groups they close. -/
theorem Closes.unique {m n : ℕ} {ps : List Paren} (hm : Closes m ps) (hn : Closes n ps) :
    m = n := by
  induction hm generalizing n with
  | done =>
    cases hn
    rfl
  | opening _ ih =>
    cases hn with
    | opening hn => exact Nat.succ.inj (ih hn)
  | closing _ ih =>
    cases hn with
    | closing hn => exact congrArg Nat.succ (ih hn)

/-- So with one more that opens they do not go together. -/
theorem Balanced.not_opening {ps : List Paren} (h : Balanced ps) :
    ¬ Balanced (.opening :: ps) := by
  rintro (- | hone)
  exact Nat.zero_ne_one (Closes.unique h hone)

/-- The anchors stand round a group that holds the pattern. -/
theorem anchored_eq (pattern : String) :
    anchored pattern = "\\A" ++ ("(?:" ++ pattern ++ ")" ++ "\\z") := by
  simp [anchored, ← String.toList_inj]

section Engine

variable [Engine] {pattern : String} {r : Engine.Expression} {why : String}

/-! ## Patterns between anchors -/

/-- A pattern is accepted if it is one alone and between anchors, -/
theorem whole_eq_ok_iff : whole pattern = .ok r ↔
    (∃ r₀, Engine.compile pattern = .ok r₀) ∧ Engine.compile (anchored pattern) = .ok r := by
  rw [whole]
  cases Engine.compile pattern <;> simp

/-- and refused for the first of the two reasons otherwise. -/
theorem whole_eq_error_iff : whole pattern = .error why ↔
    Engine.compile pattern = .error why ∨
      (∃ r₀, Engine.compile pattern = .ok r₀) ∧ Engine.compile (anchored pattern) = .error why := by
  rw [whole]
  cases Engine.compile pattern <;> simp

/-! ## The laws -/

/-- What is behind the answers of an engine. Places of a text are between its
characters, and counted from zero. -/
structure Semantics where
  /-- The stretches of a text that an expression matches. -/
  Spans : Engine.Expression → String → ℕ → ℕ → Prop
  /-- The parentheses of a pattern that have a meaning, in their order. Others
  are escaped, or stand in brackets or comments. -/
  parens : String → List Paren
  /-- Whether a pattern ends with an item behind which comments are passed
  over. -/
  Verbose : String → Prop

namespace Semantics

/-- Whether an expression matches a text from its start to its end. -/
def Matches (S : Semantics) (r : Engine.Expression) (text : String) : Prop :=
  S.Spans r text 0 text.length

/-- `S.Composed pattern spans`: the pattern is a group with anchors round it,
and is to match the stretches `spans`. What is in the group has to be a pattern
by itself. -/
inductive Composed (S : Semantics) : String → (String → ℕ → ℕ → Prop) → Prop
  /-- A group matches what is in it. -/
  | group {pattern : String} {r : Engine.Expression} :
      Engine.compile pattern = .ok r → Composed S ("(?:" ++ pattern ++ ")") (S.Spans r)
  /-- An anchor in front holds at the start of the text. -/
  | textStart {pattern : String} {spans : String → ℕ → ℕ → Prop} :
      Composed S pattern spans →
      Composed S ("\\A" ++ pattern) fun text i j => i = 0 ∧ spans text i j
  /-- An anchor behind holds at its end. -/
  | textEnd {pattern : String} {spans : String → ℕ → ℕ → Prop} :
      Composed S pattern spans →
      Composed S (pattern ++ "\\z") fun text i j => spans text i j ∧ j = text.length

/-- **The laws of groups and anchors.** -/
structure Documented (S : Semantics) : Prop where
  /-- An expression occurs in a text if it matches some stretch of it. -/
  occurs_iff {pattern : String} {r : Engine.Expression} : Engine.compile pattern = .ok r →
    ∀ text, Engine.occurs r text = true ↔ ∃ i j, S.Spans r text i j
  /-- Groups and anchors match what they are to match, where they are a
  pattern. -/
  spans_iff {pattern : String} {spans : String → ℕ → ℕ → Prop} {r : Engine.Expression} :
    S.Composed pattern spans → Engine.compile pattern = .ok r →
    ∀ text i j, S.Spans r text i j ↔ spans text i j
  /-- Without escapes, brackets and comments all parentheses have one. -/
  parens_plain {pattern : String} : Plain pattern.toList →
    S.parens pattern = parentheses pattern.toList
  /-- A text with a parenthesis that is not closed, or closes nothing, is no
  pattern. -/
  balanced {pattern : String} {r : Engine.Expression} : Engine.compile pattern = .ok r →
    Balanced (S.parens pattern)

/-- **The laws of comments**, of a pattern alone and of the same behind an
anchor and an open group. -/
structure PassesComments (S : Semantics) : Prop where
  /-- The open group comes before those of the pattern. -/
  parens_opened {pattern : String} {r : Engine.Expression} : Engine.compile pattern = .ok r →
    S.parens ("\\A(?:" ++ pattern) = .opening :: S.parens pattern
  /-- Comments are passed over in the group as well. -/
  verbose_opened {pattern : String} {r : Engine.Expression} : Engine.compile pattern = .ok r →
    S.Verbose pattern → S.Verbose ("\\A(?:" ++ pattern)
  /-- A comment, which goes to the end of the line, makes no text a pattern and
  takes from none that it is one. -/
  comment {pattern line : String} : S.Verbose pattern → '\n' ∉ line.toList →
    ((∃ r, Engine.compile (pattern ++ "#" ++ line) = .ok r) ↔
      ∃ r, Engine.compile pattern = .ok r)

variable {S : Semantics}

/-- **Between anchors an expression matches the text as a whole.** The first
compilation is what the law of groups asks for: without it the parentheses of
the pattern could go together with those of the anchors. -/
theorem Documented.occurs_whole (hS : S.Documented) (h : whole pattern = .ok r) :
    ∃ r₀, Engine.compile pattern = .ok r₀ ∧
      ∀ text, Engine.occurs r text = true ↔ S.Matches r₀ text := by
  obtain ⟨⟨r₀, hr₀⟩, hr⟩ := whole_eq_ok_iff.1 h
  refine ⟨r₀, hr₀, fun text => ?_⟩
  have hcomposed : S.Composed (anchored pattern) fun text i j =>
      i = 0 ∧ S.Spans r₀ text i j ∧ j = text.length :=
    anchored_eq pattern ▸ .textStart (.textEnd (.group hr₀))
  rw [hS.occurs_iff hr]
  simp only [hS.spans_iff hcomposed hr]
  constructor
  · rintro ⟨_, _, rfl, hspans, rfl⟩
    exact hspans
  · intro hspans
    exact ⟨0, _, rfl, hspans, rfl⟩

/-- **A comment at the end takes the anchor behind along**, and with it the
parenthesis that closes the group. -/
theorem PassesComments.anchored_eq_error (hC : S.PassesComments) (hS : S.Documented)
    {front line : String} (hfront : ∃ r, Engine.compile front = .ok r) (hverbose : S.Verbose front)
    (hline : '\n' ∉ line.toList) :
    (∃ r, Engine.compile (front ++ "#" ++ line) = .ok r) ∧
      ∃ why, Engine.compile (anchored (front ++ "#" ++ line)) = .error why := by
  refine ⟨(hC.comment hverbose hline).2 hfront, ?_⟩
  obtain ⟨r, hr⟩ := hfront
  have htext : anchored (front ++ "#" ++ line) =
      "\\A(?:" ++ front ++ "#" ++ (line ++ ")\\z") := by
    simp [anchored, ← String.toList_inj]
  have hend : '\n' ∉ (line ++ ")\\z").toList := by
    simpa using hline
  rw [htext]
  cases hopen : Engine.compile ("\\A(?:" ++ front ++ "#" ++ (line ++ ")\\z")) with
  | error why => exact ⟨why, rfl⟩
  | ok r' =>
    -- without the comment the group is open at the end
    obtain ⟨r'', hr''⟩ := (hC.comment (hC.verbose_opened hr hverbose) hend).1 ⟨r', hopen⟩
    have hbalanced := hS.balanced hr''
    rw [hC.parens_opened hr] at hbalanced
    exact absurd hbalanced (hS.balanced hr).not_opening

end Semantics

end Engine

end Pattern

end RowQuery
