import RowQuery.Pattern.Reading
import RowQuery.Proofs.Pattern.Escape
/-!
# Group heads and counts with text behind

What follows an opening parenthesis or an opening brace, read with more text
behind it.
-/

namespace RowQuery

namespace Pattern

namespace GroupHead

variable {f : Flags} {text rest behind : List Char} {g : GroupHead}

theorem name_append (h : name text = .ok (g, rest)) :
    name (text ++ behind) = .ok (g, rest ++ behind) := by
  unfold name at h
  split at h
  · cases h
  · next c tail =>
    split at h
    · next hc =>
      split at h
      · next left hd =>
        cases h
        rw [List.cons_append, name, if_pos hc, dropWhile_append_of_cons hd,
          takeWhile_append_of_cons hd]
        rfl
      · cases h
    · cases h

theorem flags_append (h : flags f text = .ok (g, rest)) :
    flags f (text ++ behind) = .ok (g, rest ++ behind) := by
  unfold flags at h ⊢
  split at h
  case h_1 | h_3 | h_5 => cases h
  case h_2 hr =>
    cases h
    rw [Flags.readList_append hr]
    rfl
  case h_4 hcolon hused hr =>
    cases h
    rw [Flags.readList_append hr]
    split
    case h_1 heq => cases heq
    case h_2 heq =>
      cases heq
      exact absurd rfl hcolon
    case h_3 heq =>
      cases heq
      exact absurd rfl hused
    case h_4 heq =>
      cases heq
      rfl
    case h_5 heq => cases heq

/-- A list of flags does not start like another group. -/
theorem flags_eq_error {c : Char} (hc : c ∈ ['=', '!', '<', 'P']) :
    flags f (c :: rest) = .error .unknownFlag := by
  simp only [List.mem_cons, List.not_mem_nil, or_false] at hc
  rcases hc with rfl | rfl | rfl | rfl <;> rfl

/-- **The head of a group is read with any text behind it**, unless the
text ends with the parenthesis and nothing but white space and comments. -/
theorem read_append (h : read f text = .ok (g, rest)) :
    (g = .numbered ∧ rest = []) ∨ read f (text ++ behind) = .ok (g, rest ++ behind) := by
  unfold read at h ⊢
  split at h
  case h_1 | h_2 | h_3 | h_4 => cases h
  case h_5 hs =>
    rw [Flags.skip_append hs]
    exact .inr (name_append h)
  case h_6 tail heq hbang hs =>
    rw [Flags.skip_append hs]
    right
    cases tail with
    | nil => cases h
    | cons c tail =>
      have heq : c ≠ '=' := by
        rintro rfl
        exact heq _ rfl
      have hbang : c ≠ '!' := by
        rintro rfl
        exact hbang _ rfl
      simpa [heq, hbang] using name_append h
  case h_7 tail _ _ _ _ _ _ hs =>
    -- a text that ends here, or goes on as another group, has no flags
    rw [Flags.skip_append hs]
    right
    cases tail with
    | nil => cases h
    | cons c tail =>
      have hc : c ∉ ['=', '!', '<', 'P'] := by
        intro hc
        rw [flags_eq_error hc] at h
        cases h
      simp only [List.mem_cons, List.not_mem_nil, or_false, not_or] at hc
      simpa [hc] using flags_append h
  case h_8 hq =>
    -- no question mark, where the text is not at its end
    cases h
    cases hs : f.skip text with
    | nil => exact .inl ⟨rfl, rfl⟩
    | cons c tail =>
      have hc : c ≠ '?' := by
        rintro rfl
        exact hq _ hs
      rw [Flags.skip_append hs]
      right
      simp [hc]

end GroupHead

section Counts

variable {f : Flags} {text rest behind : List Char}

theorem skipLazy_closing (text line : List Char) :
    skipLazy (text ++ ')' :: line) = skipLazy text ++ ')' :: line := by
  cases text with
  | nil => rfl
  | cons c text =>
    by_cases hc : c = '?'
    · subst hc
      rfl
    · simp [skipLazy, hc]

/-- Where something is left behind digits, there was something to read. -/
theorem ne_nil_of_countDigits {digits : List Char} {c : Char}
    (h : countDigits f text = (digits, c :: rest)) : text ≠ [] := by
  rintro rfl
  simp [countDigits] at h

theorem ne_nil_of_skipSpace {c : Char} (h : skipSpace f text = c :: rest) : text ≠ [] := by
  rintro rfl
  simp [skipSpace] at h

theorem ne_nil_of_count {n : Option ℕ} {c : Char} (h : count f text = .ok (n, c :: rest)) :
    text ≠ [] := by
  rintro rfl
  simp [count, countDigits, skipSpace] at h

theorem countDigits_append {digits : List Char} {c : Char}
    (h : countDigits f text = (digits, c :: rest)) :
    countDigits f (text ++ behind) = (digits, c :: (rest ++ behind)) := by
  fun_induction countDigits f text generalizing digits with
  | case1 => cases h
  | case2 d tail hd digits' left hc ih =>
    cases h
    have hne : f.skip tail ≠ [] := ne_nil_of_countDigits hc
    rw [List.cons_append, countDigits, if_pos hd, Flags.skip_append_of_ne_nil hne, ih hc]
  | case3 d tail hd =>
    cases h
    rw [List.cons_append, countDigits, if_neg hd]

theorem skipSpace_append {c : Char} (h : skipSpace f text = c :: rest) :
    skipSpace f (text ++ behind) = c :: (rest ++ behind) := by
  fun_induction skipSpace f text with
  | case1 => cases h
  | case2 d tail hd ih =>
    rw [List.cons_append, skipSpace, if_pos hd, Flags.skip_append_of_ne_nil (ne_nil_of_skipSpace h)]
    exact ih h
  | case3 d tail hd =>
    cases h
    rw [List.cons_append, skipSpace, if_neg hd]

theorem count_append {n : Option ℕ} {c : Char} (h : count f text = .ok (n, c :: rest)) :
    count f (text ++ behind) = .ok (n, c :: (rest ++ behind)) := by
  unfold count at h ⊢
  cases hd : countDigits f (text.dropWhile Unicode.isWhiteSpace) with
  | mk digits left =>
    simp only [hd] at h
    have hspace : skipSpace f left = c :: rest := by
      split at h
      · exact (Prod.mk.inj (Except.ok.inj h)).2
      · split at h
        · exact (Prod.mk.inj (Except.ok.inj h)).2
        · cases h
    -- something is left, so nothing behind was passed over before
    obtain ⟨d, left, rfl⟩ := List.exists_cons_of_ne_nil (ne_nil_of_skipSpace hspace)
    obtain ⟨e, tail, hw⟩ := List.exists_cons_of_ne_nil (ne_nil_of_countDigits hd)
    rw [hw] at hd
    rw [dropWhile_append_of_cons hw, ← List.cons_append, countDigits_append hd]
    simp only [← List.cons_append, skipSpace_append hspace]
    simp only [hspace] at h
    split at h
    · next he =>
      cases h
      simp only [if_pos he]
    · next he =>
      split at h
      · next hn =>
        cases h
        simp only [if_neg he, if_pos hn]
      · cases h

/-- The mark of a lazy repetition is no parenthesis, so passing over it keeps
what trails. -/
theorem Trails.skipLazy {rest : List Char} {left : List Char → List Char} (h : Trails rest left) :
    Trails (skipLazy rest) fun line => Pattern.skipLazy (left line) := by
  rcases h with hleft | ⟨rfl, hleft⟩
  · refine .inl fun line => ?_
    simp only [hleft, skipLazy_closing]
  · refine .inr ⟨rfl, fun line hline => ?_⟩
    simp only [hleft line hline]
    rfl

/-- **The counts of a repetition are read with a parenthesis behind them.**
What is passed over behind the brace may take it along. -/
theorem counts_append {n : ℕ × Option ℕ} (h : counts f text = .ok (n, rest)) :
    ∃ left, Trails rest left ∧ ∀ line, counts f (text ++ ')' :: line) = .ok (n, left line) := by
  have hne : f.skip text ≠ [] := by
    intro hnil
    simp [counts, hnil, count, countDigits, skipSpace] at h
  unfold counts at h ⊢
  simp only [Flags.skip_append_of_ne_nil hne]
  split at h
  case h_1 hc =>
    -- one count, which is the lower and the upper one
    cases h
    simp only [count_append hc]
    exact ⟨_, (f.skip_closing _).skipLazy, fun line => rfl⟩
  case h_2 least tail hc =>
    simp only [count_append hc]
    split at h
    · next left hs =>
      -- nothing behind the comma, so there is no upper count
      cases h
      simp only [Flags.skip_append hs]
      exact ⟨_, (f.skip_closing _).skipLazy, fun line => rfl⟩
    · next hbrace =>
      split at h
      · next most left hc' =>
        split at h
        · next hle =>
          cases h
          obtain ⟨c, tail', hs⟩ := List.exists_cons_of_ne_nil (ne_nil_of_count hc')
          have hc : c ≠ '\x7d' := by
            rintro rfl
            exact hbrace _ hs
          rw [hs] at hc'
          have hskip (line : List Char) :
              f.skip (tail ++ ')' :: line) = c :: (tail' ++ ')' :: line) := Flags.skip_append hs
          have hcount (line : List Char) : count f (c :: (tail' ++ ')' :: line)) =
              .ok (some most, '\x7d' :: (left ++ ')' :: line)) :=
            count_append hc'
          refine ⟨_, (f.skip_closing left).skipLazy, fun line => ?_⟩
          simp [hskip, hc, hcount, hle]
        · cases h
      · cases h
      · cases h
  case h_3 | h_4 => cases h

/-- The lower count is not above the upper one. -/
theorem le_of_counts {least : ℕ} {most : Option ℕ}
    (h : counts f text = .ok ((least, most), rest)) {k : ℕ} (hk : most = some k) : least ≤ k := by
  unfold counts at h
  split at h
  case h_1 =>
    cases h
    cases hk
    exact Nat.le_refl _
  case h_2 =>
    split at h
    · cases h
      cases hk
    · split at h
      · split at h
        · next hle =>
          cases h
          cases hk
          exact hle
        · cases h
      · cases h
      · cases h
  case h_3 | h_4 => cases h

end Counts

end Pattern

end RowQuery
