import Mathlib.Data.List.TakeWhile
import RowQuery.Pattern.Bracket
import RowQuery.Proofs.Pattern.Escape
/-!
# Brackets with text behind

A bracket that is closed in a text is closed at the same place with more
text behind it (`Bracket.read_append`). Where a bracket looks further than
what it takes, namely for the name of an ASCII class, behind the hyphen of a
range and for the second character of an operator, a closing parenthesis is
nothing that it looks for, and it looks no further than that.
-/

namespace RowQuery

namespace Pattern

namespace Bracket

variable {f : Flags} {text rest behind line : List Char}

/-- No ASCII class has a parenthesis in its name. -/
theorem find?_asciiClasses_eq_none {name : List Char} (h : ')' ∈ name) :
    asciiClasses.find? (fun k => k.1.toList = name) = none := by
  have hnames : ∀ k ∈ asciiClasses, ')' ∉ k.1.toList := by decide
  simp only [List.find?_eq_none, decide_eq_true_eq]
  rintro k hk rfl
  exact hnames k hk h

/-- So a parenthesis does not complete the name of an ASCII class. -/
theorem asciiName?_closing (text line : List Char) :
    asciiName? (text ++ ')' :: line) =
      (asciiName? text).map fun (s, rest) => (s, rest ++ ')' :: line) := by
  unfold asciiName?
  cases hd : text.dropWhile (· ≠ ':') with
  | nil =>
    have htake : (text ++ ')' :: line).takeWhile (· ≠ ':') =
        text ++ ')' :: line.takeWhile (· ≠ ':') := by
      have hall : ∀ c ∈ text, decide (c ≠ ':') = true := List.dropWhile_eq_nil_iff.1 hd
      rw [List.takeWhile_append_of_pos hall, List.takeWhile_cons_of_pos rfl]
    split
    · rw [htake, find?_asciiClasses_eq_none (by simp)]
      rfl
    · rfl
  | cons c tail =>
    rw [dropWhile_append_of_cons hd, takeWhile_append_of_cons hd]
    split
    · next left heq =>
      cases tail with
      | nil => cases heq
      | cons d tail =>
        cases heq
        simp [Option.map_map, Function.comp_def]
    · next hne =>
      split
      · next left heq =>
        cases heq
        exact absurd rfl (hne _)
      · rfl

theorem asciiClass?_closing (text line : List Char) :
    asciiClass? (text ++ ')' :: line) =
      (asciiClass? text).map fun (negated, s, rest) => (negated, s, rest ++ ')' :: line) := by
  match text with
  | [] => rfl
  | [c] =>
    by_cases hc : c = ':'
    · subst hc
      have hnil : asciiName? [] = none := rfl
      have hnone : asciiName? (')' :: line) = none := asciiName?_closing [] line
      simp [asciiClass?, hnil, hnone]
    · simp [asciiClass?, hc]
  | c :: d :: text =>
    by_cases hc : c = ':'
    · subst hc
      by_cases hd : d = '^'
      · subst hd
        simp [asciiClass?, asciiName?_closing, Option.map_map, Function.comp_def]
      · have hname := asciiName?_closing (d :: text) line
        rw [List.cons_append] at hname
        simp [asciiClass?, hd, hname, Option.map_map, Function.comp_def]
    · simp [asciiClass?, hc]

theorem hyphens_eq (o : Opened) : hyphens f o text =
    match f.skip text with
    | '-' :: rest => hyphens f (o.addChar '-') rest
    | rest => (o, rest) := by
  rw [hyphens]
  split <;> simp_all

theorem hyphens_append {o o' : Opened} {c : Char} (h : hyphens f o text = (o', c :: rest)) :
    hyphens f o (text ++ behind) = (o', c :: (rest ++ behind)) := by
  fun_induction hyphens f o text with
  | case1 o text tail hs hl ih =>
    rw [hyphens_eq, Flags.skip_append hs]
    exact ih h
  | case2 o text hne =>
    obtain ⟨rfl, hs⟩ := Prod.mk.inj h
    rw [hyphens_eq, Flags.skip_append hs]
    split
    · next heq =>
      cases heq
      exact absurd hs (hne _)
    · rfl

/-- Whether a text starts with the sign of negation, and what is left. -/
def signed (text : List Char) : Bool × List Char :=
  match text with
  | '^' :: rest => (true, rest)
  | rest => (false, rest)

theorem signed_append (h : text ≠ []) :
    signed (text ++ behind) = ((signed text).1, (signed text).2 ++ behind) := by
  obtain ⟨c, rest, rfl⟩ := List.exists_cons_of_ne_nil h
  by_cases hc : c = '^'
  · subst hc
    rfl
  · simp [signed, hc]

theorem opening_eq : opening f text =
    match hyphens f (.start (signed (f.skip text)).1) (signed (f.skip text)).2 with
    | (_, []) => .error .unclosedBracket
    | (o, ']' :: rest) => if o.count = 0 then .ok (o.addChar ']', rest) else .ok (o, ']' :: rest)
    | (o, rest) => .ok (o, rest) := rfl

theorem opening_append {o : Opened} (h : opening f text = .ok (o, rest)) :
    opening f (text ++ behind) = .ok (o, rest ++ behind) := by
  have hne : f.skip text ≠ [] := by
    intro hnil
    simp only [opening_eq, hnil, signed] at h
    rw [hyphens_eq, Flags.skip_nil] at h
    cases h
  rw [opening_eq] at h ⊢
  rw [Flags.skip_append_of_ne_nil hne, signed_append hne]
  split at h
  · cases h
  · next o' left hh =>
    rw [hyphens_append hh]
    split at h
    · next hc =>
      cases h
      simp only [if_pos hc]
    · next hc =>
      cases h
      simp only [if_neg hc]
      rfl
  · next o' left hnil hbracket hh =>
    cases h
    obtain ⟨c, left, rfl⟩ := List.exists_cons_of_ne_nil fun hn => hnil hn
    rw [hyphens_append hh]
    split
    · next heq => cases heq
    · next heq =>
      cases heq
      exact absurd rfl (hbracket _)
    · next heq =>
      cases heq
      rfl

theorem item_append {e : Escape} (h : item f text = .ok (e, rest)) :
    item f (text ++ ')' :: line) = .ok (e, rest ++ ')' :: line) := by
  unfold item at h ⊢
  split at h
  · cases h
  · exact Escape.read_append h
  · next hc =>
    cases h
    simp only [List.cons_append]

/-- Behind a hyphen a parenthesis is no bracket and no second hyphen. -/
theorem behindHyphen_closing (f : Flags) (text line : List Char) :
    behindHyphen f (text ++ ')' :: line) = some ((behindHyphen f text).getD ')') := by
  have hhead (text : List Char) : (text ++ ')' :: line).head? = some (text.head?.getD ')') := by
    cases text <;> rfl
  have hdrop (text : List Char) : (text ++ ')' :: line).dropWhile Unicode.isWhiteSpace =
      text.dropWhile Unicode.isWhiteSpace ++ ')' :: line := by
    cases hd : text.dropWhile Unicode.isWhiteSpace with
    | nil =>
      rw [List.dropWhile_append, hd]
      rfl
    | cons c tail => exact dropWhile_append_of_cons hd
  unfold behindHyphen
  split
  · rw [hdrop]
    cases text.dropWhile Unicode.isWhiteSpace with
    | nil => rfl
    | cons c tail =>
      by_cases hc : c = '#'
      · subst hc
        simp only [List.cons_append, hdrop, hhead]
      · simp [hc]
  · exact hhead text

theorem behindHyphen_closing_iff {c : Char} (hc : c ≠ ')') :
    behindHyphen f (text ++ ')' :: line) = some c ↔ behindHyphen f text = some c := by
  rw [behindHyphen_closing]
  cases behindHyphen f text <;> simp [hc.symm]

theorem range_append {s : CharSet} (h : range f text = .ok (s, rest)) :
    range f (text ++ ')' :: line) = .ok (s, rest ++ ')' :: line) := by
  unfold range at h ⊢
  split at h
  · cases h
  · next first tail hi =>
    simp only [item_append hi]
    split at h
    · cases h
    · next inner hs =>
      rw [Flags.skip_append hs]
      have hstop : (behindHyphen f (inner ++ ')' :: line) = some ']' ∨
          behindHyphen f (inner ++ ')' :: line) = some '-') ↔
            (behindHyphen f inner = some ']' ∨ behindHyphen f inner = some '-') := by
        rw [behindHyphen_closing_iff (by decide), behindHyphen_closing_iff (by decide)]
      split at h
      · next hb =>
        simp only [if_pos (hstop.2 hb)]
        exact map_left_append h
      · next hb =>
        simp only [if_neg (mt hstop.1 hb)]
        split at h
        · cases h
        · next last left hl =>
          have hne : f.skip inner ≠ [] := by
            intro hnil
            rw [hnil] at hl
            cases hl
          rw [Flags.skip_append_of_ne_nil hne]
          simp only [item_append hl]
          exact map_left_append h
    · next hnil hhyphen =>
      obtain ⟨c, left, hs⟩ := List.exists_cons_of_ne_nil hnil
      rw [Flags.skip_append hs]
      split
      · next heq => cases heq
      · next heq =>
        cases heq
        exact absurd hs (hhyphen _)
      · rw [hs] at h
        exact map_left_append h

theorem readFrom_eq {o : Opened} {outer : List Opened} : readFrom f o outer text =
    match f.skip text with
    | [] => .error .unclosedBracket
    | '[' :: rest =>
      match asciiClass? rest with
      | some (negated, s, rest) =>
        match f.negate negated (f.fold s) with
        | .error e => .error e
        | .ok s => readFrom f (o.add ⟨s, 0⟩) outer rest
      | none =>
        match opening f rest with
        | .error e => .error e
        | .ok (inner, rest) => readFrom f inner (o :: outer) rest
    | ']' :: rest =>
      match o.close f, outer with
      | .error e, _ => .error e
      | .ok n, [] => .ok (n, rest)
      | .ok n, around :: outer => readFrom f (around.add n) outer rest
    | '&' :: '&' :: rest => readFrom f (o.join f .inter) outer rest
    | '-' :: '-' :: rest => readFrom f (o.join f .diff) outer rest
    | '~' :: '~' :: rest => readFrom f (o.join f .symmDiff) outer rest
    | item =>
      match range f item with
      | .error e => .error e
      | .ok (s, rest) => readFrom f (o.add ⟨s, 0⟩) outer rest := by
  rw [readFrom]
  split
  case h_2 ht =>
    simp only [ht]
    split
    case h_1 ha => split <;> next hs => simp only [ha, hs]
    case h_2 ha => split <;> next hi => simp only [ha, hi]
  case h_3 ht =>
    cases o.close f with
    | error e => simp only [ht]
    | ok n => cases outer <;> simp only [ht]
  case h_7 => split <;> split <;> simp_all
  all_goals
    next ht => simp only [ht]

/-- A character that is no closing parenthesis comes from the text. -/
theorem exists_cons_of_append {left tail line : List Char} {c : Char} (hc : c ≠ ')')
    (h : left ++ ')' :: line = c :: tail) : ∃ left', left = c :: left' := by
  cases left with
  | nil =>
    cases h
    exact absurd rfl hc
  | cons d left =>
    cases h
    exact ⟨left, rfl⟩

theorem readFrom_append {o : Opened} {outer : List Opened} {n : Nested}
    (h : readFrom f o outer text = .ok (n, rest)) :
    readFrom f o outer (text ++ ')' :: line) = .ok (n, rest ++ ')' :: line) := by
  fun_induction readFrom f o outer text with
  | case1 | case2 | case4 | case6 | case12 => cases h
  | case3 o outer text skipped inner ht negated s left ha hl s' hs ih =>
    rw [readFrom_eq, Flags.skip_append ht]
    simp only [asciiClass?_closing, ha, Option.map_some, hs, ih h]
  | case5 o outer text skipped inner ht ha opened left hi hl ih =>
    rw [readFrom_eq, Flags.skip_append ht]
    simp only [asciiClass?_closing, ha, Option.map_none, opening_append hi, ih h]
  | case7 o text skipped left ht n' hc =>
    cases h
    rw [readFrom_eq, Flags.skip_append ht]
    simp only [hc]
  | case8 o text skipped left ht n' around outer hc hl ih =>
    rw [readFrom_eq, Flags.skip_append ht]
    simp only [hc, ih h]
  | case9 o outer text skipped left ht hl ih
  | case10 o outer text skipped left ht hl ih
  | case11 o outer text skipped left ht hl ih =>
    rw [readFrom_eq, Flags.skip_append ht]
    exact ih h
  | case13 o outer text skipped s left hnil hopen hclose hinter hdiff hsymm hr hl ih =>
    obtain ⟨c, tail, hs⟩ := List.exists_cons_of_ne_nil hnil
    -- the second character of an operator has to come from the text
    have hop {d : Char} {left : List Char} (hd : d ≠ ')')
        (hnone : ∀ rest, f.skip text = d :: d :: rest → False)
        (heq : c :: (tail ++ ')' :: line) = d :: d :: left) : False := by
      obtain ⟨rfl, htail⟩ := List.cons.inj heq
      obtain ⟨left', rfl⟩ := exists_cons_of_append hd htail
      exact hnone _ hs
    rw [readFrom_eq, Flags.skip_append hs]
    split
    case h_1 heq => cases heq
    case h_2 heq =>
      cases heq
      exact absurd hs (hopen _)
    case h_3 heq =>
      cases heq
      exact absurd hs (hclose _)
    case h_4 heq => exact (hop (by decide) hinter heq).elim
    case h_5 heq => exact (hop (by decide) hdiff heq).elim
    case h_6 heq => exact (hop (by decide) hsymm heq).elim
    case h_7 =>
      rw [hs] at hr
      rw [← List.cons_append, range_append hr]
      exact ih h

/-- **A bracket is read with a parenthesis behind it.** -/
theorem read_append {n : Nested} (h : read f text = .ok (n, rest)) :
    read f (text ++ ')' :: line) = .ok (n, rest ++ ')' :: line) := by
  unfold read at h ⊢
  split at h
  · cases h
  · next o left ho =>
    simp only [opening_append ho]
    exact readFrom_append h

end Bracket

end Pattern

end RowQuery
