import Mathlib
import RowQuery.Pattern.Whole
import RowQuery.Proofs.Comparison
import RowQuery.Proofs.Pattern.Builtin
/-!
# Anchored patterns

A pattern is matched with whole values by setting it between anchors, as a
text that is compiled again. What that text matches is what the pattern
matches from the start of a value to its end, over every engine that keeps the
laws of groups and anchors, whatever the pattern does with flags, comments,
brackets and parentheses. It has to be a pattern by itself for that: a
parenthesis of the anchors could go together with one that closes nothing.
-/

namespace RowQuery

namespace Pattern

/-- What the law of balance refuses. -/
theorem Semantics.Documented.compile_eq_error [Engine] {S : Semantics} (hS : S.Documented)
    {pattern : String} (h : ¬ Balanced (S.parens pattern)) :
    ∃ why, Engine.compile pattern = .error why := by
  cases hc : Engine.compile pattern with
  | ok r => exact absurd (hS.balanced hc) h
  | error why => exact ⟨why, rfl⟩

end Pattern

namespace Query.Comparison

/-- **A pattern that is accepted between anchors** relates to the values that
it matches from their start to their end, as a text and read from a row. -/
theorem related_of_whole_eq_ok [Pattern.Engine] {S : Pattern.Semantics} (hS : S.Documented)
    {h : Header} {x : Reference} {src : Source} (hx : h.resolve x = .ok src) {pattern : String}
    {r : Pattern.Engine.Expression} (hr : Pattern.whole pattern = .ok r) :
    ∃ r₀, Pattern.Engine.compile pattern = .ok r₀ ∧
      (∃ p, Comparison.predicate h ⟨x, .regex, .text pattern⟩ = .ok p ∧
        ∀ row ordinal v, src.Reads row ordinal (some v) →
          (p row ordinal = true ↔ S.Matches r₀ v)) ∧
      ∀ y pat, h.resolve y = .ok pat →
        ∃ q, Comparison.predicate h ⟨x, .regex, .reference y⟩ = .ok q ∧
          ∀ row ordinal v, src.Reads row ordinal (some v) →
            pat.Reads row ordinal (some pattern) → (q row ordinal = true ↔ S.Matches r₀ v) := by
  obtain ⟨r₀, hr₀, hmatches⟩ := hS.occurs_whole hr
  refine ⟨r₀, hr₀, ?_, fun y pat hy => ?_⟩
  · refine ⟨fun row ordinal => (src.read row ordinal).any (Pattern.Engine.occurs r), ?_, ?_⟩
    · rw [predicate_text hx]
      simp only [Operator.against, hr]
      rfl
    · intro row ordinal v hv
      dsimp only
      rw [Source.reads_iff.1 hv, Option.any_some, hmatches]
  · refine ⟨_, predicate_reference hx hy, fun row ordinal v hv hp => ?_⟩
    rw [Source.reads_iff.1 hv, Source.reads_iff.1 hp, Operator.holds_iff, ← hmatches]
    simp [Operator.Relates, hr]

/-- What is refused between anchors is refused as a text, and relates to
nothing when it is read from a row. -/
theorem refused_of_whole_eq_error [Pattern.Engine] {h : Header} {x : Reference} {src : Source}
    (hx : h.resolve x = .ok src) {pattern why : String}
    (hwhy : Pattern.whole pattern = .error why) :
    Comparison.predicate h ⟨x, .regex, .text pattern⟩ = .error (.invalidPattern pattern why) ∧
      ∀ y pat, h.resolve y = .ok pat →
        ∃ q, Comparison.predicate h ⟨x, .regex, .reference y⟩ = .ok q ∧
          ∀ row ordinal, pat.Reads row ordinal (some pattern) → q row ordinal = false := by
  have hagainst : Operator.regex.against pattern = .error (.invalidPattern pattern why) :=
    Operator.against_eq_error_iff.2 ⟨rfl, why, hwhy, rfl⟩
  refine ⟨by rw [predicate_text hx, hagainst]; rfl, fun y pat hy => ?_⟩
  refine ⟨_, predicate_reference hx hy, fun row ordinal hp => ?_⟩
  rw [Source.reads_iff.1 hp]
  exact Operator.holds_eq_false_of_against hagainst _

/-- **No pattern escapes its anchors**, whatever the engine is. Take a left
side that resolves. If a pattern is accepted, then it is one by itself, and
whether it is given as a text or read from the row, it relates to just the
values that its own expression matches from their start to their end. If a text
is no pattern by itself it is refused with the reason for that, and relates to
nothing when it is read from a row; so it is with every pattern whose
parentheses do not go together when it is read alone. Without escapes, brackets
and comments those are all parentheses in it. -/
theorem regex_anchored [Pattern.Engine] (S : Pattern.Semantics) (hS : S.Documented) (h : Header)
    (x : Reference) (src : Source) (hx : h.resolve x = .ok src) (pattern : String) :
    (∀ r, Pattern.whole pattern = .ok r →
      ∃ r₀, Pattern.Engine.compile pattern = .ok r₀ ∧
        (∃ p, Comparison.predicate h ⟨x, .regex, .text pattern⟩ = .ok p ∧
          ∀ row ordinal v, src.Reads row ordinal (some v) →
            (p row ordinal = true ↔ S.Matches r₀ v)) ∧
        ∀ y pat, h.resolve y = .ok pat →
          ∃ q, Comparison.predicate h ⟨x, .regex, .reference y⟩ = .ok q ∧
            ∀ row ordinal v, src.Reads row ordinal (some v) →
              pat.Reads row ordinal (some pattern) →
                (q row ordinal = true ↔ S.Matches r₀ v)) ∧
    (∀ why, Pattern.Engine.compile pattern = .error why →
      Comparison.predicate h ⟨x, .regex, .text pattern⟩ = .error (.invalidPattern pattern why) ∧
        ∀ y pat, h.resolve y = .ok pat →
          ∃ q, Comparison.predicate h ⟨x, .regex, .reference y⟩ = .ok q ∧
            ∀ row ordinal, pat.Reads row ordinal (some pattern) → q row ordinal = false) ∧
    (¬ Pattern.Balanced (S.parens pattern) →
      ∃ why, Pattern.Engine.compile pattern = .error why) ∧
    (Pattern.Plain pattern.toList → ¬ Pattern.Balanced (Pattern.parentheses pattern.toList) →
      ∃ why, Pattern.Engine.compile pattern = .error why) := by
  refine ⟨fun r hr => related_of_whole_eq_ok hS hx hr, fun why hwhy => ?_, hS.compile_eq_error,
    fun hplain hunbalanced => ?_⟩
  · exact refused_of_whole_eq_error hx (Pattern.whole_eq_error_iff.2 (.inl hwhy))
  · rw [← hS.parens_plain hplain] at hunbalanced
    exact hS.compile_eq_error hunbalanced

/-- Alternatives at the outermost level are anchored together, and the
parentheses of the anchors do not complete a pattern whose own ones do not
go together, although they could. -/
theorem regex_anchored_alternatives :
    Pattern.Semantics.builtin.Documented ∧
      (Header.named ["a"]).resolve (.name "a") = .ok (.cell 0) ∧
      (∃ p, Comparison.predicate (.named ["a"]) ⟨.name "a", .regex, .text "x|yz"⟩ = .ok p ∧
        p [some "yz"] 0 = true ∧ p [some "xyz"] 0 = false) ∧
      (∃ r, Pattern.Engine.compile (Pattern.anchored "a)|(b") = .ok r) ∧
      ∃ why, Comparison.predicate (.named ["a"]) ⟨.name "a", .regex, .text "a)|(b"⟩ =
        .error (.invalidPattern "a)|(b" why) := by
  let single (c : Char) : Pattern.Regex Pattern.Atom := .atom (.chars (.single c.toNat))
  let xyz : Pattern.Regex Pattern.Atom := .alt (single 'x') (.cat (single 'y') (single 'z'))
  let part : Pattern.Part := ⟨xyz, 2⟩
  have halone : Pattern.Engine.compile "x|yz" = .ok part.regex :=
    Pattern.compile_eq_ok (by cbv) (by decide) (by cbv)
  have hwhole : ∃ r, Pattern.whole "x|yz" = .ok r :=
    ⟨_, Pattern.whole_eq_ok_iff.2
      ⟨⟨_, halone⟩, Pattern.compile_anchored_eq_ok (by cbv) (by cbv) (by cbv)⟩⟩
  refine ⟨Pattern.Semantics.documented_builtin, rfl, ?_, ?_, ?_⟩
  · obtain ⟨r, hr⟩ := hwhole
    obtain ⟨r₀, hr₀, ⟨p, hp, hmatches⟩, -⟩ :=
      (regex_anchored .builtin Pattern.Semantics.documented_builtin (.named ["a"]) (.name "a")
        (.cell 0) rfl "x|yz").1 r hr
    obtain rfl : xyz = r₀ := Except.ok.inj (halone.symm.trans hr₀)
    refine ⟨p, hp, ?_, ?_⟩
    · rw [hmatches _ _ "yz" (.cell rfl)]
      refine ⟨Nat.zero_le _, ?_⟩
      exact .altRight (.cat (.atom ⟨⟨'y', rfl, rfl⟩, rfl⟩) (.atom ⟨⟨'z', rfl, rfl⟩, rfl⟩))
    · rw [← Bool.not_eq_true, hmatches _ _ "xyz" (.cell rfl)]
      -- `x` leaves something of the value, and `yz` does not start it
      have hx : ¬ Pattern.Atom.admits "xyz".toList (.chars (.single 'x'.toNat)) 0 3 := by
        rintro ⟨-, hend⟩
        cases hend
      have hy (k : ℕ) : ¬ Pattern.Atom.admits "xyz".toList (.chars (.single 'y'.toNat)) 0 k := by
        rintro ⟨⟨c, hc, hy⟩, -⟩
        cases hc
        revert hy
        decide
      rintro ⟨-, hm⟩
      rcases Pattern.Regex.spans_alt_iff.1 hm with h | h
      · exact hx (Pattern.Regex.spans_atom_iff.1 h)
      · obtain ⟨k, h, -⟩ := Pattern.Regex.spans_cat_iff.1 h
        exact hy k (Pattern.Regex.spans_atom_iff.1 h)
  · exact ⟨_, Pattern.compile_anchored_eq_ok (by cbv) (by cbv) (by cbv)⟩
  · have hparens : ¬ Pattern.Balanced (Pattern.parentheses "a)|(b".toList) := by
      intro hclosed
      cases hclosed
    have hplain : Pattern.Plain "a)|(b".toList := by
      unfold Pattern.Plain
      decide
    obtain ⟨-, hrefused, -, hunbalanced⟩ :=
      regex_anchored .builtin Pattern.Semantics.documented_builtin (.named ["a"]) (.name "a")
        (.cell 0) rfl "a)|(b"
    obtain ⟨why, hwhy⟩ := hunbalanced hplain hparens
    exact ⟨why, (hrefused why hwhy).1⟩

end Query.Comparison

end RowQuery
