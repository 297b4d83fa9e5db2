import Mathlib
import RowQuery.Pattern.Builtin
import RowQuery.Proofs.Pattern.Parens
/-!
# The built-in engine keeps the laws

The built-in engine reads a pattern item by item, so what it does with the
text of a group depends on the items only, and not on what stands round the
group (`Semantics.Composed.reads`). With `Regex.Spans` for the stretches that
an expression matches, and with `Progress.parens` for the parentheses of a
pattern, it keeps the laws of groups and anchors
(`Semantics.documented_builtin`) and those of comments
(`Semantics.passesComments_builtin`).
-/

namespace RowQuery

namespace Pattern

/-- A pattern is a text that reads as an expression within the bounds. -/
theorem parse_eq_ok_iff {text : List Char} {r : Regex Atom} :
    parse text = .ok r ↔
      ∃ part, Progress.start.run text = .ok part ∧ part.depth ≤ depthBound ∧
        part.regex.fits = true ∧ part.regex = r := by
  unfold parse
  cases Progress.start.run text with
  | error e => simp
  | ok part =>
    by_cases hdepth : depthBound < part.depth
    · simp [hdepth, Nat.not_le.2 hdepth]
    · cases hfits : part.regex.fits <;> simp [hdepth, Nat.not_lt.1 hdepth, hfits]

/-- The engine accepts just the patterns. -/
theorem compile_eq_ok_iff {pattern : String} {r : Regex Atom} :
    Engine.compile pattern = .ok r ↔ parse pattern.toList = .ok r := by
  change (parse pattern.toList).mapError Defect.describe = .ok r ↔ _
  cases parse pattern.toList <;> simp [Except.mapError]

/-- So it accepts what it reads within the bounds. -/
theorem compile_eq_ok {pattern : String} {part : Part}
    (hrun : Progress.start.run pattern.toList = .ok part) (hdepth : part.depth ≤ depthBound)
    (hfits : part.regex.fits = true) : Engine.compile pattern = .ok part.regex :=
  compile_eq_ok_iff.2 (parse_eq_ok_iff.2 ⟨part, hrun, hdepth, hfits, rfl⟩)

theorem toList_anchored (pattern : String) :
    (anchored pattern).toList = "\\A(?:".toList ++ pattern.toList ++ ")\\z".toList := by
  simp [anchored]

theorem compile_anchored_eq_ok {pattern : String} {part : Part}
    (hrun : Progress.start.run ("\\A(?:".toList ++ pattern.toList ++ ")\\z".toList) = .ok part)
    (hdepth : part.depth ≤ depthBound) (hfits : part.regex.fits = true) :
    Engine.compile (anchored pattern) = .ok part.regex :=
  compile_eq_ok (toList_anchored pattern ▸ hrun) hdepth hfits

/-- The repetitions in the expression of a pattern can be made. -/
theorem ordered_parse {text : List Char} {r : Regex Atom} (h : parse text = .ok r) :
    r.Ordered := by
  have hstart : Progress.start.Ordered :=
    ⟨⟨by simp [Progress.start, Scope.start], by simp [Progress.start, Scope.start]⟩,
      by simp [Progress.start]⟩
  obtain ⟨part, hpart, -, -, rfl⟩ := parse_eq_ok_iff.1 h
  exact Progress.ordered_run hstart hpart

/-! ## Items in a row -/

section Row

variable {admits : Atom → ℕ → ℕ → Prop} {i k : ℕ}

theorem Item.spans_cons (p : Part) (items : List Item) :
    Regex.Spans admits (regex (part p :: items)) i k ↔
      ∃ j, Regex.Spans admits p.regex i j ∧ Regex.Spans admits (regex items) j k := by
  cases items with
  | nil => simp [regex]
  | cons item items => simp [regex]

/-- Items in a row match stretches in a row. -/
theorem Item.spans_append (items behind : List Item) :
    Regex.Spans admits (regex (items ++ behind)) i k ↔
      ∃ j, Regex.Spans admits (regex items) i j ∧ Regex.Spans admits (regex behind) j k := by
  induction items generalizing i with
  | nil => simp [regex]
  | cons item items ih =>
    cases item with
    | directive => simpa only [List.cons_append, regex] using ih
    | part p =>
      simp only [List.cons_append, spans_cons, ih]
      constructor
      · rintro ⟨j, hp, l, hitems, hbehind⟩
        exact ⟨l, ⟨j, hp, hitems⟩, hbehind⟩
      · rintro ⟨l, ⟨j, hp, hitems⟩, hbehind⟩
        exact ⟨j, hp, l, hitems, hbehind⟩

theorem Item.regex_row (items : List Item) : (row items).regex = regex items := by
  match items with
  | [] | [_] | _ :: _ :: _ => rfl

end Row

theorem admits_textStart {text : List Char} {i j : ℕ} :
    Atom.admits text (.look .textStart) i j ↔ i = 0 ∧ j = 0 := by
  rw [Atom.admits, Look.holds]
  constructor
  · rintro ⟨hi, hnone, rfl⟩
    by_cases h0 : j = 0
    · exact ⟨h0, h0⟩
    · have hlt : j - 1 < text.length := by omega
      simp [h0, hlt] at hnone
  · rintro ⟨rfl, rfl⟩
    simp

theorem admits_textEnd {text : List Char} {i j : ℕ} :
    Atom.admits text (.look .textEnd) i j ↔ i = text.length ∧ j = text.length := by
  rw [Atom.admits, Look.holds]
  constructor
  · rintro ⟨hi, hnone, rfl⟩
    have hge : text.length ≤ j := by simpa using hnone
    exact ⟨Nat.le_antisymm hi hge, Nat.le_antisymm hi hge⟩
  · rintro ⟨rfl, rfl⟩
    simp

/-! ## Groups -/

namespace Progress

/-- Items that were read outside of groups, last one first. -/
def ofItems (items : List Item) (names : List String) : Progress :=
  ⟨⟨[], items⟩, .initial, [], names⟩

/-- What was read before a group that takes the flags that hold. -/
def groupBehind (items : List Item) : Enclosing :=
  ⟨⟨[], items⟩, .initial, false⟩

/-- The head of a group leads into it. -/
theorem reads_head (items : List Item) (rest : List Char) :
    (ofItems items []).Reads ('(' :: '?' :: ':' :: rest) (start.under (groupBehind items))
      rest := by
  have hgroup : (ofItems items []).step '(' ('?' :: ':' :: rest) =
      .ok (start.under (groupBehind items), rest) := rfl
  exact .step rfl hgroup .refl

/-- **A pattern in a group is one item**, whatever was read before, unless it
ends within a comment. Then the group is not closed on that line. -/
theorem reads_group {text : List Char} {part : Part} (h : start.run text = .ok part) :
    (∃ names, ∀ items line, '\n' ∉ line →
      (ofItems items []).Reads ('(' :: '?' :: ':' :: (text ++ ')' :: line))
        (ofItems (.part ⟨part.regex, part.depth + 1⟩ :: items) names) line) ∨
    ∀ items line, '\n' ∉ line →
      (ofItems items []).run ('(' :: '?' :: ':' :: (text ++ ')' :: line)) =
        .error .unclosedGroup := by
  obtain ⟨q, left, hout, rfl, hreads, htrails⟩ := exists_reads h
  have hinside (items : List Item) (line : List Char) :
      (ofItems items []).Reads ('(' :: '?' :: ':' :: (text ++ ')' :: line))
        (q.under (groupBehind items)) (left line) :=
    (reads_head items _).trans (hreads line).under
  rcases htrails with hleft | ⟨-, hleft⟩
  · refine .inl ⟨q.names, fun items line _ => ?_⟩
    have hclose : (q.under (groupBehind items)).step ')' line =
        .ok (ofItems (.part ⟨q.scope.part.regex, q.scope.part.depth + 1⟩ :: items) q.names,
          line) := by
      simp only [step, closeGroup, under_outer, hout, List.nil_append]
      rfl
    exact (hinside items line).trans (.step (hleft line) hclose .refl)
  · refine .inr fun items line hline => ?_
    rw [(hinside items line).run_eq]
    exact run_eq_error (by simp) (hleft line hline)

end Progress

/-! ## The laws -/

namespace Semantics

/-- What is behind the answers of the built-in engine. -/
def builtin : Semantics where
  Spans r text i j := i ≤ text.length ∧ Regex.Spans (Atom.admits text.toList) r i j
  parens pattern := Progress.start.parens pattern.toList
  Verbose pattern := ∃ q : Progress, q.flags.verbose = true ∧
    Progress.start.Reads pattern.toList q [] ∧
    ∀ line, Progress.start.Reads (pattern.toList ++ '#' :: line) q ('#' :: line)

/-- **A group with anchors is read as items in a row**, which match what it is
to match, or it is not closed. The induction is on the anchors. -/
theorem Composed.reads {pattern : String} {spans : String → ℕ → ℕ → Prop}
    (h : builtin.Composed pattern spans) :
    (∃ items names,
      (∀ text i j, builtin.Spans (Item.regex items.reverse) text i j ↔ spans text i j) ∧
      ∀ front line, '\n' ∉ line → (Progress.ofItems front []).Reads (pattern.toList ++ line)
        (Progress.ofItems (items ++ front) names) line) ∨
    ∀ front line, '\n' ∉ line →
      (Progress.ofItems front []).run (pattern.toList ++ line) = .error .unclosedGroup := by
  induction h with
  | @group pattern r hr =>
    obtain ⟨part, hpart, -, -, rfl⟩ := parse_eq_ok_iff.1 (compile_eq_ok_iff.1 hr)
    have htext (line : List Char) : ("(?:" ++ pattern ++ ")").toList ++ line =
        '(' :: '?' :: ':' :: (pattern.toList ++ ')' :: line) := by simp
    simp only [htext]
    refine (Progress.reads_group hpart).imp_left ?_
    rintro ⟨names, hreads⟩
    exact ⟨[_], names, fun _ _ _ => Iff.rfl, hreads⟩
  | @textStart pattern spans _ ih =>
    let anchor : Item := .part ⟨.atom (.look .textStart), 0⟩
    have htext (line : List Char) : ("\\A" ++ pattern).toList ++ line =
        '\\' :: 'A' :: (pattern.toList ++ line) := by simp
    have hanchor (front : List Item) (rest : List Char) :
        (Progress.ofItems front []).Reads ('\\' :: 'A' :: rest)
          (Progress.ofItems (anchor :: front) []) rest :=
      .step rfl rfl .refl
    simp only [htext]
    rcases ih with ⟨items, names, hspans, hreads⟩ | hopen
    · refine .inl ⟨items ++ [anchor], names, fun text i j => ?_, fun front line hline => ?_⟩
      · rw [← hspans, List.reverse_append]
        change _ ∧ Regex.Spans _ (Item.regex (anchor :: items.reverse)) i j ↔ _ ∧ _ ∧ _
        simp only [Item.spans_cons, anchor, Regex.spans_atom_iff, admits_textStart]
        constructor
        · rintro ⟨hi, _, ⟨rfl, rfl⟩, hrest⟩
          exact ⟨rfl, hi, hrest⟩
        · rintro ⟨rfl, hi, hrest⟩
          exact ⟨hi, 0, ⟨rfl, rfl⟩, hrest⟩
      · rw [List.append_assoc]
        exact (hanchor front _).trans (hreads (anchor :: front) line hline)
    · refine .inr fun front line hline => ?_
      rw [(hanchor front _).run_eq]
      exact hopen _ line hline
  | @textEnd pattern spans _ ih =>
    let anchor : Item := .part ⟨.atom (.look .textEnd), 0⟩
    have htext (line : List Char) : (pattern ++ "\\z").toList ++ line =
        pattern.toList ++ '\\' :: 'z' :: line := by simp
    have hnext {line : List Char} (hline : '\n' ∉ line) : '\n' ∉ '\\' :: 'z' :: line := by
      simpa using hline
    simp only [htext]
    rcases ih with ⟨items, names, hspans, hreads⟩ | hopen
    · refine .inl ⟨anchor :: items, names, fun text i j => ?_, fun front line hline => ?_⟩
      · rw [← hspans, List.reverse_cons]
        change _ ∧ Regex.Spans _ (Item.regex (items.reverse ++ [anchor])) i j ↔ (_ ∧ _) ∧ _
        rw [Item.spans_append]
        simp only [Item.regex, anchor, Regex.spans_atom_iff, admits_textEnd, String.length_toList]
        constructor
        · rintro ⟨hi, _, hrest, rfl, rfl⟩
          exact ⟨⟨hi, hrest⟩, rfl⟩
        · rintro ⟨⟨hi, hrest⟩, rfl⟩
          exact ⟨hi, _, hrest, rfl, rfl⟩
      · have hanchor : (Progress.ofItems (items ++ front) names).Reads ('\\' :: 'z' :: line)
            (Progress.ofItems (anchor :: (items ++ front)) names) line :=
          .step rfl rfl .refl
        exact (hreads front _ (hnext hline)).trans hanchor
    · exact .inr fun front line hline => hopen front _ (hnext hline)

/-- **The built-in engine keeps the laws of groups and anchors.** -/
theorem documented_builtin : builtin.Documented where
  occurs_iff {pattern r} hr text := by
    change Regex.occursIn r text.toList = true ↔ _
    rw [Regex.occursIn_iff (ordered_parse (compile_eq_ok_iff.1 hr)), String.length_toList]
    rfl
  spans_iff {pattern spans r} h hr text i j := by
    obtain ⟨part, hpart, -, -, rfl⟩ := parse_eq_ok_iff.1 (compile_eq_ok_iff.1 hr)
    have hline : '\n' ∉ ([] : List Char) := List.not_mem_nil
    rcases h.reads with ⟨items, names, hspans, hreads⟩ | hopen
    · have hrun := (hreads [] [] hline).run_eq
      rw [List.append_nil, List.append_nil] at hrun
      have hfinish : (Progress.ofItems items names).run [] = .ok (Item.row items.reverse) := by
        rw [Progress.run_eq]
        rfl
      obtain rfl := Except.ok.inj (hpart.symm.trans (hrun.trans hfinish))
      rw [← hspans, Item.regex_row]
    · have hrun := hopen [] [] hline
      rw [List.append_nil] at hrun
      cases hpart.symm.trans hrun
  parens_plain hplain := Progress.start.parens_plain hplain
  balanced {pattern r} hr := by
    obtain ⟨part, hpart, -⟩ := parse_eq_ok_iff.1 (compile_eq_ok_iff.1 hr)
    exact Progress.closes_parens hpart

theorem toList_opened (pattern : String) :
    ("\\A(?:" ++ pattern).toList = '\\' :: 'A' :: '(' :: '?' :: ':' :: pattern.toList := by
  simp

/-- What was read of a pattern between anchors before the pattern itself. -/
def anchors : Enclosing :=
  Progress.groupBehind [.part ⟨.atom (.look .textStart), 0⟩]

theorem reads_anchors (rest : List Char) :
    Progress.start.Reads ('\\' :: 'A' :: '(' :: '?' :: ':' :: rest) (Progress.start.under anchors)
      rest :=
  .step rfl rfl (Progress.reads_head _ rest)

/-- Of the parentheses there one has a meaning. -/
theorem parens_anchors (rest : List Char) :
    Progress.start.parens ('\\' :: 'A' :: '(' :: '?' :: ':' :: rest) =
      .opening :: (Progress.start.under anchors).parens rest := by
  let looked : Progress := Progress.start.addAtom (.look .textStart)
  have hlook : Progress.start.step '\\' ('A' :: '(' :: '?' :: ':' :: rest) =
      .ok (looked, '(' :: '?' :: ':' :: rest) := rfl
  have hgroup : looked.step '(' ('?' :: ':' :: rest) =
      .ok (Progress.start.under anchors, rest) := rfl
  rw [Progress.parens_of_step rfl hlook, Progress.parens_of_step rfl hgroup]
  rfl

/-- **And those of comments.** -/
theorem passesComments_builtin : builtin.PassesComments where
  parens_opened {pattern r} hr := by
    obtain ⟨part, hpart, -⟩ := parse_eq_ok_iff.1 (compile_eq_ok_iff.1 hr)
    change Progress.start.parens _ = .opening :: Progress.start.parens _
    rw [toList_opened, parens_anchors, Progress.parens_under anchors hpart]
  verbose_opened {pattern r} hr := by
    rintro ⟨q, hq, hend, hcomment⟩
    refine ⟨q.under anchors, hq, ?_, fun line => ?_⟩
    · rw [toList_opened]
      exact (reads_anchors _).trans hend.under
    · rw [toList_opened]
      exact (reads_anchors _).trans (hcomment line).under
  comment {pattern line} := by
    rintro ⟨q, hq, hend, hcomment⟩ hline
    have hskip : q.flags.skip ('#' :: line.toList) = q.flags.skip [] := by
      rw [Flags.skip_nil, Flags.skip, if_pos hq]
      exact Flags.skipBlank_comment hline
    have hrun : Progress.start.run (pattern ++ "#" ++ line).toList =
        Progress.start.run pattern.toList := by
      have htext : (pattern ++ "#" ++ line).toList = pattern.toList ++ '#' :: line.toList := by simp
      rw [htext, (hcomment line.toList).run_eq, Progress.run_congr hskip, hend.run_eq]
    simp only [compile_eq_ok_iff, parse, hrun]

end Semantics

end Pattern

end RowQuery
