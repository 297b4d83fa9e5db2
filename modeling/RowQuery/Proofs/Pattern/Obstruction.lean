import RowQuery.Proofs.Pattern.Anchor
/-!
# Patterns that the anchors refuse

A text can be a pattern by itself and yet be refused between the anchors. So
it is, over every engine that passes over comments, with a pattern that ends
in a comment: the comment takes the anchor behind along, and with it the
parenthesis that closes the group. An engine with bounds on nesting or size may
refuse other patterns between anchors than alone. Which ones these are is a
matter of the engine, and shows in what it makes of the anchored text.
-/

namespace RowQuery

namespace Query.Comparison

/-- **What a comparison with a pattern is refused for**, whatever the engine
is. Take a left side that resolves. Given as a text, a pattern is refused
exactly if it is none by itself or is none between the anchors, and the reason
given is the first there is. Read from a row, a pattern relates to the values
that its own expression matches from their start to their end, provided that it
is one between the anchors. It is none there if it ends in a comment: then it
is refused, and relates to nothing, although it is a pattern by itself. -/
theorem regex_refused_iff [Pattern.Engine] (S : Pattern.Semantics) (hS : S.Documented)
    (hC : S.PassesComments) (h : Header) (x : Reference) (src : Source) (hx : h.resolve x = .ok src)
    (pattern : String) :
    (∀ e, Comparison.predicate h ⟨x, .regex, .text pattern⟩ = .error e ↔
      ∃ why, e = .invalidPattern pattern why ∧
        (Pattern.Engine.compile pattern = .error why ∨
          (∃ r, Pattern.Engine.compile pattern = .ok r) ∧
            Pattern.Engine.compile (Pattern.anchored pattern) = .error why)) ∧
    (∀ y pat r, h.resolve y = .ok pat → Pattern.Engine.compile pattern = .ok r →
      ∃ q, Comparison.predicate h ⟨x, .regex, .reference y⟩ = .ok q ∧
        ∀ row ordinal v, src.Reads row ordinal (some v) → pat.Reads row ordinal (some pattern) →
          (q row ordinal = true ↔
            S.Matches r v ∧ ∃ r', Pattern.Engine.compile (Pattern.anchored pattern) = .ok r')) ∧
    ∀ front line, pattern = front ++ "#" ++ line →
      (∃ r, Pattern.Engine.compile front = .ok r) → S.Verbose front → '\n' ∉ line.toList →
        (∃ r, Pattern.Engine.compile pattern = .ok r) ∧
        (∃ why, Comparison.predicate h ⟨x, .regex, .text pattern⟩ =
          .error (.invalidPattern pattern why)) ∧
        ∀ y pat, h.resolve y = .ok pat →
          ∃ q, Comparison.predicate h ⟨x, .regex, .reference y⟩ = .ok q ∧
            ∀ row ordinal, pat.Reads row ordinal (some pattern) → q row ordinal = false := by
  refine ⟨fun e => ?_, fun y pat r hy hr => ?_, ?_⟩
  · rw [predicate_text hx, Text.map_eq_error_iff, Operator.against_eq_error_iff]
    simp only [Pattern.whole_eq_error_iff, true_and]
    simp only [and_comm]
  · cases hanchored : Pattern.Engine.compile (Pattern.anchored pattern) with
    | ok r' =>
      obtain ⟨r₀, hr₀, -, hrow⟩ := related_of_whole_eq_ok hS hx
        (Pattern.whole_eq_ok_iff.2 ⟨⟨r, hr⟩, hanchored⟩)
      obtain rfl := Except.ok.inj (hr.symm.trans hr₀)
      obtain ⟨q, hq, hmatches⟩ := hrow y pat hy
      refine ⟨q, hq, fun row ordinal v hv hp => ?_⟩
      rw [hmatches row ordinal v hv hp]
      simp
    | error why =>
      obtain ⟨-, hrow⟩ := refused_of_whole_eq_error hx
        (Pattern.whole_eq_error_iff.2 (.inr ⟨⟨r, hr⟩, hanchored⟩))
      obtain ⟨q, hq, hnone⟩ := hrow y pat hy
      refine ⟨q, hq, fun row ordinal v _ hp => ?_⟩
      rw [hnone row ordinal hp]
      simp
  · rintro front line rfl hfront hverbose hline
    obtain ⟨halone, why, hanchored⟩ := hC.anchored_eq_error hS hfront hverbose hline
    obtain ⟨htext, hrow⟩ := refused_of_whole_eq_error hx
      (Pattern.whole_eq_error_iff.2 (.inr ⟨halone, hanchored⟩))
    exact ⟨halone, ⟨why, htext⟩, hrow⟩

/-- A comment that ends before the pattern does obstructs nothing, and one that
ends with it does. -/
theorem regex_refused_iff_line_feed :
    Pattern.Semantics.builtin.Documented ∧ Pattern.Semantics.builtin.PassesComments ∧
      (Header.named ["a", "p"]).resolve (.name "a") = .ok (.cell 0) ∧
      (∃ p, Comparison.predicate (.named ["a", "p"]) ⟨.name "a", .regex, .text "(?x)a#c\n"⟩ =
        .ok p) ∧
      (∃ q, Comparison.predicate (.named ["a", "p"]) ⟨.name "a", .regex, .reference (.name "p")⟩ =
          .ok q ∧
        q [some "a", some "(?x)a#c\n"] 0 = true) ∧
      ∃ why, Comparison.predicate (.named ["a", "p"]) ⟨.name "a", .regex, .text "(?x)a#c"⟩ =
        .error (.invalidPattern "(?x)a#c" why) := by
  have hS := Pattern.Semantics.documented_builtin
  have hC := Pattern.Semantics.passesComments_builtin
  let part : Pattern.Part := ⟨.atom (.chars (.single 'a'.toNat)), 1⟩
  have hfront : Pattern.Engine.compile "(?x)a" = .ok part.regex :=
    Pattern.compile_eq_ok (by cbv) (by decide) (by cbv)
  have halone : Pattern.Engine.compile "(?x)a#c\n" = .ok part.regex :=
    Pattern.compile_eq_ok (by cbv) (by decide) (by cbv)
  have hanchored : ∃ r, Pattern.Engine.compile (Pattern.anchored "(?x)a#c\n") = .ok r :=
    ⟨_, Pattern.compile_anchored_eq_ok (by cbv) (by cbv) (by cbv)⟩
  obtain ⟨r, hr⟩ := hanchored
  obtain ⟨hrefused, hrow, -⟩ :=
    regex_refused_iff .builtin hS hC (.named ["a", "p"]) (.name "a") (.cell 0) rfl "(?x)a#c\n"
  obtain ⟨-, -, hcomment⟩ :=
    regex_refused_iff .builtin hS hC (.named ["a", "p"]) (.name "a") (.cell 0) rfl "(?x)a#c"
  refine ⟨hS, hC, rfl, ?_, ?_, ?_⟩
  · cases hp : Comparison.predicate (.named ["a", "p"]) ⟨.name "a", .regex, .text "(?x)a#c\n"⟩ with
    | ok p => exact ⟨p, rfl⟩
    | error e =>
      obtain ⟨why, -, hwhy | ⟨-, hwhy⟩⟩ := (hrefused e).1 hp
      · cases halone.symm.trans hwhy
      · cases hr.symm.trans hwhy
  · obtain ⟨q, hq, hrelates⟩ := hrow (.name "p") (.cell 1) _ rfl halone
    refine ⟨q, hq, (hrelates _ 0 "a" (.cell rfl) (.cell rfl)).2 ⟨⟨Nat.zero_le _, ?_⟩, r, hr⟩⟩
    exact .atom ⟨⟨'a', rfl, rfl⟩, rfl⟩
  · have hverbose : Pattern.Semantics.builtin.Verbose "(?x)a" :=
      ⟨_, rfl, .step rfl rfl (.step rfl rfl .refl),
        fun line => .step rfl rfl (.step rfl rfl .refl)⟩
    exact (hcomment "(?x)a" "c" (by decide) ⟨_, hfront⟩ hverbose (by decide)).2.1

/-- A comment that ends with the pattern takes the parenthesis of the anchors
along: as a text the pattern is refused, and read from a row it does not
relate to a value that it matches. -/
theorem regex_refused_comment :
    (∃ r, Pattern.Engine.compile "(?x)a#c" = .ok r ∧ Pattern.Semantics.builtin.Matches r "a") ∧
      Comparison.predicate (.named ["a", "p"]) ⟨.name "a", .regex, .text "(?x)a#c"⟩ =
        .error (.invalidPattern "(?x)a#c" (Pattern.Defect.describe .unclosedGroup)) ∧
      ∃ q, Comparison.predicate (.named ["a", "p"]) ⟨.name "a", .regex, .reference (.name "p")⟩ =
          .ok q ∧
        q [some "a", some "(?x)a#c"] 0 = false := by
  let part : Pattern.Part := ⟨.atom (.chars (.single 'a'.toNat)), 1⟩
  have halone : Pattern.Engine.compile "(?x)a#c" = .ok part.regex :=
    Pattern.compile_eq_ok (by cbv) (by decide) (by cbv)
  have hanchored : Pattern.Engine.compile (Pattern.anchored "(?x)a#c") =
      .error (Pattern.Defect.describe .unclosedGroup) := by
    have hrun : Pattern.Progress.start.run
        ("\\A(?:".toList ++ "(?x)a#c".toList ++ ")\\z".toList) = .error .unclosedGroup := by
      cbv
    change (Pattern.parse _).mapError _ = _
    rw [Pattern.toList_anchored, Pattern.parse, hrun]
    rfl
  obtain ⟨htext, hrow⟩ := refused_of_whole_eq_error (x := .name "a") (h := .named ["a", "p"]) rfl
    (Pattern.whole_eq_error_iff.2 (.inr ⟨⟨_, halone⟩, hanchored⟩))
  obtain ⟨q, hq, hnone⟩ := hrow (.name "p") (.cell 1) rfl
  exact ⟨⟨part.regex, halone, Nat.zero_le _, .atom ⟨⟨'a', rfl, rfl⟩, rfl⟩⟩, htext, q, hq,
    hnone _ 0 (.cell rfl)⟩

end Query.Comparison

end RowQuery
