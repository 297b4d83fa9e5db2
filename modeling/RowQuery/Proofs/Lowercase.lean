import RowQuery.Proofs.Comparison
import Mathlib.Data.List.TakeWhile
/-!
# Lower case in a context

Only capital sigma has a lower-case form that depends on what stands around
it. So a text has its own lower-case form within every other text, unless it
has a sigma whose form it leaves open (`Unsettled`). ILIKE puts pattern and
value into lower case each for itself: it finds a settled pattern wherever
LIKE does, and for one that is not there are values in which only LIKE
finds it (`ilike_of_like_iff_settled`).
-/

namespace RowQuery

namespace Unicode

/-! ## What a sigma faces -/

/-- Whether casing passes over all of a text. -/
def Ignorable (cs : List Char) : Prop :=
  ∀ c ∈ cs, isCaseIgnorable c = true

/-- **A text with a capital sigma whose lower-case form it leaves open.** -/
inductive Unsettled (text : List Char) : Prop
  /-- It ends a word unless a letter follows the text. -/
  | final {before after : List Char} : text = before ++ 'Σ' :: after →
      facesCased before.reverse = true → Ignorable after → Unsettled text
  /-- It ends no word unless a letter precedes the text. -/
  | first {before after : List Char} : text = before ++ 'Σ' :: after →
      Ignorable before → facesCased after = false → Unsettled text

theorem dropWhile_eq_nil_iff {cs : List Char} :
    cs.dropWhile isCaseIgnorable = [] ↔ Ignorable cs := by
  simp only [List.dropWhile_eq_nil_iff, Ignorable]

theorem ignorable_reverse {cs : List Char} : Ignorable cs.reverse ↔ Ignorable cs := by
  simp only [Ignorable, List.mem_reverse]

/-- Casing does not pass over a sigma. -/
theorem not_ignorable_sigma {cs : List Char} (h : 'Σ' ∈ cs) : ¬ Ignorable cs := fun hcs =>
  absurd (hcs 'Σ' h) (by decide +kernel)

theorem facesCased_of_ignorable {cs : List Char} (h : Ignorable cs) : facesCased cs = false := by
  simp only [facesCased, dropWhile_eq_nil_iff.2 h]

/-- What casing passes over is looked past. -/
theorem facesCased_append_of_ignorable {cs : List Char} (h : Ignorable cs) (ds : List Char) :
    facesCased (cs ++ ds) = facesCased ds := by
  simp [facesCased, List.dropWhile_append, dropWhile_eq_nil_iff.2 h]

/-- Nothing behind what it does not pass over is looked at. -/
theorem facesCased_append_of_not_ignorable {cs : List Char} (h : ¬ Ignorable cs)
    (ds : List Char) : facesCased (cs ++ ds) = facesCased cs := by
  rw [← dropWhile_eq_nil_iff] at h
  obtain ⟨c, rest, hd⟩ := List.exists_cons_of_ne_nil h
  simp [facesCased, List.dropWhile_append, hd]

/-- So nothing behind a sigma is. -/
theorem facesCased_sigma (cs ds : List Char) :
    facesCased (cs ++ 'Σ' :: ds) = facesCased (cs ++ ['Σ']) := by
  have hsigma : ¬ Ignorable (cs ++ ['Σ']) := not_ignorable_sigma (by simp)
  rw [← facesCased_append_of_not_ignorable hsigma ds, List.append_assoc, List.singleton_append]

theorem all_isCaseIgnorable_iff {cs : List Char} :
    cs.all isCaseIgnorable = true ↔ Ignorable cs := by
  simp only [List.all_eq_true, Ignorable]

/-- Whether the form of a sigma is left open in a text that follows `before`,
which is given nearest character first. -/
def leavesOpen (before : List Char) : List Char → Bool
  | [] => false
  | c :: rest =>
    (c = 'Σ' && ((facesCased before && rest.all isCaseIgnorable) ||
      (before.all isCaseIgnorable && !facesCased rest))) || leavesOpen (c :: before) rest

theorem leavesOpen_eq_true {before text : List Char} :
    leavesOpen before text = true ↔ ∃ u w, text = u ++ 'Σ' :: w ∧
      (facesCased (u.reverse ++ before) = true ∧ Ignorable w ∨
        Ignorable (u.reverse ++ before) ∧ facesCased w = false) := by
  induction text generalizing before with
  | nil => simp [leavesOpen]
  | cons c rest ih =>
    simp only [leavesOpen, Bool.or_eq_true, Bool.and_eq_true, decide_eq_true_eq, ih,
      all_isCaseIgnorable_iff, Bool.not_eq_true']
    constructor
    · rintro (⟨rfl, h⟩ | ⟨u, w, rfl, h⟩)
      · exact ⟨[], rest, rfl, h⟩
      · exact ⟨c :: u, w, rfl, by simpa using h⟩
    · rintro ⟨u, w, heq, h⟩
      rcases List.cons_eq_append_iff.1 heq with ⟨rfl, htail⟩ | ⟨u, rfl, rfl⟩
      · obtain ⟨rfl, rfl⟩ := List.cons.inj htail
        exact .inl ⟨rfl, h⟩
      · exact .inr ⟨u, w, rfl, by simpa using h⟩

/-- Whether a text is settled can be computed. -/
theorem unsettled_iff {text : List Char} : Unsettled text ↔ leavesOpen [] text = true := by
  rw [leavesOpen_eq_true]
  constructor
  · rintro (@⟨u, w, hp, hu, hw⟩ | @⟨u, w, hp, hu, hw⟩)
    · exact ⟨u, w, hp, .inl ⟨by simpa using hu, hw⟩⟩
    · exact ⟨u, w, hp, .inr ⟨by simpa using ignorable_reverse.2 hu, hw⟩⟩
  · rintro ⟨u, w, hp, ⟨hu, hw⟩ | ⟨hu, hw⟩⟩
    · exact .final hp (by simpa using hu) hw
    · exact .first hp (ignorable_reverse.1 (by simpa using hu)) hw

instance (text : List Char) : Decidable (Unsettled text) :=
  decidable_of_iff' _ unsettled_iff

/-! ## The lower-case form within another text -/

/-- The lower-case form of a capital sigma between two texts, the first of
them nearest character first. -/
def sigmaBetween (before after : List Char) : Char :=
  if facesCased before && !facesCased after then 'ς' else 'σ'

/-- The lower-case form of a text between two others, the first of them
nearest character first. -/
def lowerBetween (before after : List Char) : List Char → List Char
  | [] => []
  | c :: rest =>
    (if c = 'Σ' then [sigmaBetween before (rest ++ after)] else lowerChar c) ++
      lowerBetween (c :: before) after rest

theorem lowerAfter_eq (before text : List Char) :
    lowerAfter before text = lowerBetween before [] text := by
  induction text generalizing before with
  | nil => rfl
  | cons c rest ih => simp only [lowerAfter, lowerBetween, sigmaBetween, ih, List.append_nil]

/-- Each part of a text has the form that it has between the others. -/
theorem lowerBetween_append (before after s t : List Char) :
    lowerBetween before after (s ++ t) =
      lowerBetween before (t ++ after) s ++ lowerBetween (s.reverse ++ before) after t := by
  induction s generalizing before with
  | nil => rfl
  | cons c rest ih => simp [lowerBetween, ih]

/-- Of what stands around a text only its sigmas matter. -/
theorem lowerBetween_congr {before before' after after' text : List Char}
    (h : ∀ u w, text = u ++ 'Σ' :: w →
      sigmaBetween (u.reverse ++ before) (w ++ after) =
        sigmaBetween (u.reverse ++ before') (w ++ after')) :
    lowerBetween before after text = lowerBetween before' after' text := by
  induction text generalizing before before' with
  | nil => rfl
  | cons c rest ih =>
    have hrest : lowerBetween (c :: before) after rest = lowerBetween (c :: before') after' rest :=
      ih fun u w hw => by simpa using h (c :: u) w (by rw [hw, List.cons_append])
    rw [lowerBetween, lowerBetween, hrest]
    split
    · next hc =>
      subst hc
      have hfirst := h [] rest rfl
      simp only [List.reverse_nil, List.nil_append] at hfirst
      rw [hfirst]
    · rfl

/-- Nothing around an ignorable text matters. -/
theorem lowerBetween_of_ignorable {text : List Char} (h : Ignorable text)
    (before before' after after' : List Char) :
    lowerBetween before after text = lowerBetween before' after' text :=
  lowerBetween_congr fun u w hw => absurd h (not_ignorable_sigma (by simp [hw]))

/-- Nothing behind the next sigma matters. -/
theorem lowerBetween_sigma_after (before after after' text : List Char) :
    lowerBetween before ('Σ' :: after) text = lowerBetween before ('Σ' :: after') text := by
  refine lowerBetween_congr fun u w _ => ?_
  simp only [sigmaBetween, facesCased_sigma w]

/-- Nor does anything before the last one. -/
theorem lowerBetween_sigma_before (before before' after text : List Char) :
    lowerBetween ('Σ' :: before) after text = lowerBetween ('Σ' :: before') after text := by
  refine lowerBetween_congr fun u w _ => ?_
  simp only [sigmaBetween, facesCased_sigma u.reverse]

/-! ## Settled texts -/

/-- In a settled text a sigma has the same form whatever stands around the
text. -/
theorem sigmaBetween_of_settled {u w : List Char} (h : ¬ Unsettled (u ++ 'Σ' :: w))
    (before after : List Char) :
    sigmaBetween (u.reverse ++ before) (w ++ after) = sigmaBetween u.reverse w := by
  by_cases hu : Ignorable u
  · -- no letter precedes it, so one has to follow it
    have hw : facesCased w = true := by
      by_contra hw
      exact h (.first rfl hu (Bool.eq_false_iff.2 hw))
    have hw' : ¬ Ignorable w := fun hi => by simp [facesCased_of_ignorable hi] at hw
    simp [sigmaBetween, facesCased_append_of_not_ignorable hw', hw]
  · have hu' : ¬ Ignorable u.reverse := fun hi => hu (ignorable_reverse.1 hi)
    rw [sigmaBetween, sigmaBetween, facesCased_append_of_not_ignorable hu']
    cases hfaces : facesCased u.reverse with
    | false => rfl
    | true =>
      -- one precedes it, so the text has to show whether one follows
      have hw : ¬ Ignorable w := fun hi => h (.final rfl hfaces hi)
      rw [facesCased_append_of_not_ignorable hw]

/-- **A settled text has its own lower-case form between all others.** -/
theorem lowerBetween_of_settled {text : List Char} (h : ¬ Unsettled text)
    (before after : List Char) : lowerBetween before after text = lowerAfter [] text := by
  rw [lowerAfter_eq]
  refine lowerBetween_congr fun u w hw => ?_
  subst hw
  rw [sigmaBetween_of_settled h, List.append_nil, List.append_nil]

/-- So it is found in lower case wherever it is found. -/
theorem lowerAfter_within {p v : List Char} (h : ¬ Unsettled p) (hv : p <:+: v) :
    lowerAfter [] p <:+: lowerAfter [] v := by
  obtain ⟨s, t, rfl⟩ := hv
  rw [lowerAfter_eq [] (s ++ p ++ t), lowerBetween_append, lowerBetween_append,
    lowerBetween_of_settled h]
  exact ⟨_, _, rfl⟩

/-- A text does not occur in one that has a character less often. -/
theorem not_infix_of_count {s t : List Char} {c : Char} (h : t.count c < s.count c) :
    ¬ s <:+: t := fun hs =>
  absurd (hs.sublist.count_le c) (Nat.not_le.2 h)

/-- The lower-case form of a text around one of its sigmas. -/
theorem lowerBetween_around (before after u w : List Char) :
    lowerBetween before after (u ++ 'Σ' :: w) =
      lowerBetween before ('Σ' :: (w ++ after)) u ++
        sigmaBetween (u.reverse ++ before) (w ++ after) ::
          lowerBetween ('Σ' :: (u.reverse ++ before)) after w := by
  rw [lowerBetween_append, lowerBetween, if_pos rfl]
  rfl

/-- **Every text that is not settled occurs in one in which its lower-case
form does not.** -/
theorem Unsettled.exists_lost {p : List Char} (h : Unsettled p) :
    ∃ v, p <:+: v ∧ ¬ lowerAfter [] p <:+: lowerAfter [] v := by
  have ha : facesCased ['a'] = true := by decide +kernel
  have hletter (before after : List Char) : lowerBetween before after ['a'] = ['a'] := by
    have hlower : lowerChar 'a' = ['a'] := by decide +kernel
    simp [lowerBetween, hlower]
  cases h with
  | @final u w hp hu hw =>
    -- a letter behind it takes the final form away, and changes nothing else
    subst hp
    refine ⟨(u ++ 'Σ' :: w) ++ ['a'], List.infix_append' [] _ _, not_infix_of_count (c := 'ς') ?_⟩
    have halone : sigmaBetween u.reverse w = 'ς' := by
      simp [sigmaBetween, hu, facesCased_of_ignorable hw]
    have hwithin : sigmaBetween u.reverse (w ++ ['a']) = 'σ' := by
      simp [sigmaBetween, facesCased_append_of_ignorable hw, ha]
    rw [lowerAfter_eq, lowerAfter_eq, lowerBetween_append, hletter, lowerBetween_around,
      lowerBetween_around, lowerBetween_sigma_after _ _ (w ++ []),
      lowerBetween_of_ignorable hw _ ('Σ' :: (u.reverse ++ [])) _ []]
    simp [halone, hwithin]
  | @first u w hp hu hw =>
    -- a letter before it makes it final, and changes nothing else
    subst hp
    refine ⟨['a'] ++ (u ++ 'Σ' :: w), (List.suffix_append _ _).isInfix,
      not_infix_of_count (c := 'σ') ?_⟩
    have hu' := ignorable_reverse.2 hu
    have halone : sigmaBetween u.reverse w = 'σ' := by
      simp [sigmaBetween, facesCased_of_ignorable hu']
    have hwithin : sigmaBetween (u.reverse ++ ['a']) w = 'ς' := by
      simp [sigmaBetween, facesCased_append_of_ignorable hu', ha, hw]
    rw [lowerAfter_eq, lowerAfter_eq, lowerBetween_append, hletter, lowerBetween_around,
      lowerBetween_around, lowerBetween_sigma_before _ (u.reverse ++ []),
      lowerBetween_of_ignorable hu _ [] _ ('Σ' :: w)]
    simp [halone, hwithin]

end Unicode

open Unicode

/-- Ignoring case, a text occurs where its lower-case form does. -/
theorem Cell.occursIgnoringCase_iff {p v : String} :
    Cell.occursIgnoringCase (some p) (some v) = true ↔
      lowerAfter [] p.toList <:+: lowerAfter [] v.toList := by
  simp [Cell.occursIgnoringCase, Cell.lower, Cell.occurs, lowercase, Text.occurs_iff]

/-- What is found with case is found without, unless the pattern is not
settled. -/
theorem Cell.occursIgnoringCase_of_occurs {pattern value : Cell}
    (h : pattern.occurs value = true) :
    pattern.occursIgnoringCase value = true ∨
      ∃ p, pattern = some p ∧ Unsettled p.toList := by
  rcases pattern with - | p <;> rcases value with - | v
  · exact .inl rfl
  · exact absurd h Bool.false_ne_true
  · exact absurd h Bool.false_ne_true
  · by_cases hp : Unsettled p.toList
    · exact .inr ⟨p, rfl, hp⟩
    · exact .inl (Cell.occursIgnoringCase_iff.2 (lowerAfter_within hp (Text.occurs_iff.1 h)))

/-- And then there is a value in which it is found only with case. -/
theorem Cell.exists_occurs_of_unsettled {p : String} (h : Unsettled p.toList) :
    ∃ v, Cell.occurs (some p) (some v) = true ∧
      Cell.occursIgnoringCase (some p) (some v) = false := by
  obtain ⟨v, hv, hlower⟩ := h.exists_lost
  refine ⟨String.ofList v, ?_, ?_⟩
  · rw [Cell.occurs, Text.occurs_iff, String.toList_ofList]
    exact hv
  · rw [← Bool.not_eq_true, Cell.occursIgnoringCase_iff, String.toList_ofList]
    exact hlower

namespace Query

/-- What the right side of a comparison gives at a row. -/
inductive Operand.Gives (h : Header) (row : Row) (ordinal : ℕ) : Operand → Cell → Prop
  /-- A text is itself. -/
  | text (s : String) : Gives h row ordinal (.text s) (some s)
  /-- A reference gives what it reads. -/
  | reference {y : Reference} {pat : Source} {p : Cell} :
      h.resolve y = .ok pat → pat.Reads row ordinal p → Gives h row ordinal (.reference y) p

namespace Comparison

variable {h : Header} {x : Reference} {y : Operand}

/-- **A row that LIKE matches is matched by ILIKE**, unless the pattern it is
matched against is not settled. -/
theorem ilike_of_like [Pattern.Engine] {q : Predicate}
    (hq : Comparison.predicate h ⟨x, .like, y⟩ = .ok q) :
    ∃ q', Comparison.predicate h ⟨x, .ilike, y⟩ = .ok q' ∧
      ∀ row ordinal, q row ordinal = true → q' row ordinal = true ∨
        ∃ p, y.Gives h row ordinal (some p) ∧ Unsettled p.toList := by
  cases hx : h.resolve x with
  | error e => simp [predicate, hx] at hq
  | ok src =>
    cases y with
    | text s =>
      rw [predicate_text hx] at hq
      obtain rfl := Except.ok.inj hq
      refine ⟨_, predicate_text hx s, fun row ordinal hlike => ?_⟩
      refine (Cell.occursIgnoringCase_of_occurs hlike).imp_right ?_
      rintro ⟨p, hp, hunsettled⟩
      obtain rfl := Option.some.inj hp
      exact ⟨s, .text s, hunsettled⟩
    | reference r =>
      cases hr : h.resolve r with
      | error e => simp [predicate, hx, hr, Except.map] at hq
      | ok pat =>
        rw [predicate_reference hx hr] at hq
        obtain rfl := Except.ok.inj hq
        refine ⟨_, predicate_reference hx hr, fun row ordinal hlike => ?_⟩
        refine (Cell.occursIgnoringCase_of_occurs hlike).imp_right ?_
        rintro ⟨p, hp, hunsettled⟩
        exact ⟨p, .reference hr (Source.reads_iff.2 hp), hunsettled⟩

/-- **ILIKE is as permissive as LIKE for settled patterns, and only for
those.** An absent pattern is found by both in the same values. A text is
found without case wherever it is found with case exactly if it has no
sigma whose lower-case form it leaves open. A comparison has a predicate
with ILIKE if it has one with LIKE, and a row that only LIKE matches was
given such a pattern. A cell compared with such a text is in fact lost in
some row. -/
theorem ilike_of_like_iff_settled [Pattern.Engine] (h : Header) :
    (∀ pattern : Cell,
      (∀ value, pattern.occurs value = true → pattern.occursIgnoringCase value = true) ↔
        ∀ p, pattern = some p → ¬ Unsettled p.toList) ∧
    (∀ x y q, Comparison.predicate h ⟨x, .like, y⟩ = .ok q →
      ∃ q', Comparison.predicate h ⟨x, .ilike, y⟩ = .ok q' ∧
        ∀ row ordinal, q row ordinal = true → q' row ordinal = true ∨
          ∃ p, y.Gives h row ordinal (some p) ∧ Unsettled p.toList) ∧
    ∀ x i s, h.resolve x = .ok (.cell i) →
      ∃ q q', Comparison.predicate h ⟨x, .like, .text s⟩ = .ok q ∧
        Comparison.predicate h ⟨x, .ilike, .text s⟩ = .ok q' ∧
        ((∀ row ordinal, q row ordinal = true → q' row ordinal = true) ↔
          ¬ Unsettled s.toList) := by
  refine ⟨fun pattern => ⟨?_, fun hsettled value hvalue => ?_⟩, fun x y q => ilike_of_like,
    fun x i s hx => ⟨_, _, predicate_text hx s, predicate_text hx s, ?_, ?_⟩⟩
  · rintro hall p rfl hp
    obtain ⟨v, hv, hlost⟩ := Cell.exists_occurs_of_unsettled hp
    exact absurd (hall _ hv) (by simp [hlost])
  · rcases Cell.occursIgnoringCase_of_occurs hvalue with hfound | ⟨p, hp, hunsettled⟩
    · exact hfound
    · exact absurd hunsettled (hsettled p hp)
  · intro hall hs
    obtain ⟨v, hv, hlost⟩ := Cell.exists_occurs_of_unsettled hs
    -- the row that has the value in the cell the reference reads
    have hread : Source.read (.cell i) (List.replicate i none ++ [some v]) 0 = some v := by
      simp [Source.read, Row.cell]
    have hfound := hall (List.replicate i none ++ [some v]) 0
    simp only [hread] at hfound
    exact Bool.false_ne_true (hlost.symm.trans (hfound hv))
  · intro hs row ordinal hlike
    rcases Cell.occursIgnoringCase_of_occurs hlike with hfound | ⟨p, hp, hunsettled⟩
    · exact hfound
    · obtain rfl := Option.some.inj hp
      exact absurd hunsettled hs

/-- A sigma is settled if the letter behind it stands in the pattern. -/
theorem ilike_of_like_sigma :
    Cell.occurs (some "ΣΑ") (some "ΑΣΑ") = true ∧
      Cell.occursIgnoringCase (some "ΣΑ") (some "ΑΣΑ") = true := by
  have hsettled : ¬ Unsettled "ΣΑ".toList := by decide +kernel
  have hfound : Cell.occurs (some "ΣΑ") (some "ΑΣΑ") = true := by decide +kernel
  refine ⟨hfound, ((ilike_of_like_iff_settled (.named [])).1 _).2 ?_ _ hfound⟩
  rintro p ⟨⟩
  exact hsettled

/-- If it follows in the value only, ILIKE does not find the pattern: its sigma
has the final form, and that of the value has the other one. -/
theorem ilike_loses_sigma :
    Cell.occurs (some "ΑΣ") (some "ΑΣΑ") = true ∧
      Cell.occursIgnoringCase (some "ΑΣ") (some "ΑΣΑ") = false ∧
      ∃ q q', Comparison.predicate (.named ["a"]) ⟨.name "a", .like, .text "ΑΣ"⟩ = .ok q ∧
        Comparison.predicate (.named ["a"]) ⟨.name "a", .ilike, .text "ΑΣ"⟩ = .ok q' ∧
        q [some "ΑΣΑ"] 0 = true ∧ q' [some "ΑΣΑ"] 0 = false := by
  have hlike : Cell.occurs (some "ΑΣ") (some "ΑΣΑ") = true := by decide +kernel
  have hilike : Cell.occursIgnoringCase (some "ΑΣ") (some "ΑΣΑ") = false := by decide +kernel
  exact ⟨hlike, hilike, _, _, rfl, rfl, hlike, hilike⟩

end Comparison

end Query

end RowQuery
