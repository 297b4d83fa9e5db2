import Mathlib.Data.Nat.Notation
import RowQuery.Pattern.Escape
/-!
# Escapes with text behind

Between anchors a pattern is read with more text behind it. The functions
that read the parts of a pattern do not look past what they take, except
where they pass over white space and comments: what they read from a text
alone, they read with any text behind it. Some look at one character more;
the lemmas about these are about a closing parenthesis with any text behind
that.

One thing can go wrong. In verbose mode a text may end within a comment, and
what stands behind it on the same line is then a part of the comment
(`Trails`, `Flags.skip_closing`).
-/

namespace RowQuery

namespace Pattern

/-- What is left of a text that has a closing parenthesis and a line behind
it, where `rest` is left of the text alone: all of that, or nothing, as the
text ends within a comment and the line ends with it. -/
def Trails (rest : List Char) (left : List Char → List Char) : Prop :=
  (∀ line, left line = rest ++ ')' :: line) ∨
    (rest = [] ∧ ∀ line, '\n' ∉ line → left line = [])

/-- Where something of a text is left, it is left with more behind it. -/
theorem dropWhile_append_of_cons {p : Char → Bool} {text rest behind : List Char} {c : Char}
    (h : text.dropWhile p = c :: rest) : (text ++ behind).dropWhile p = c :: (rest ++ behind) := by
  rw [List.dropWhile_append, h]
  rfl

/-- What was taken is the same then. -/
theorem takeWhile_append_of_cons {p : Char → Bool} {text rest behind : List Char} {c : Char}
    (h : text.dropWhile p = c :: rest) : (text ++ behind).takeWhile p = text.takeWhile p := by
  rw [List.takeWhile_append, if_neg]
  intro hlen
  have htake := congrArg List.length (List.takeWhile_append_dropWhile (p := p) (l := text))
  rw [h, List.length_append, hlen] at htake
  simp at htake

/-- What is read of a text with a part of it left is read with more behind
that part, if it does not depend on it. -/
theorem map_left_append {α β : Type} {x : Except Defect α} {g : α → β} {b : β}
    {left rest behind : List Char} (h : x.map (fun a => (g a, left)) = .ok (b, rest)) :
    x.map (fun a => (g a, left ++ behind)) = .ok (b, rest ++ behind) := by
  obtain ⟨a, rfl, heq⟩ := Text.exists_of_map_eq_ok h
  cases heq
  rfl

/-- What is made of something that is read with more text behind it. -/
theorem map_read_append {α β : Type} {x y : Reading α} {g : α → β} {b : β}
    {rest behind : List Char}
    (hxy : ∀ a left, x = .ok (a, left) → y = .ok (a, left ++ behind))
    (h : x.map (fun (a, left) => (g a, left)) = .ok (b, rest)) :
    y.map (fun (a, left) => (g a, left)) = .ok (b, rest ++ behind) := by
  obtain ⟨⟨a, left⟩, hx, heq⟩ := Text.exists_of_map_eq_ok h
  cases heq
  rw [hxy a rest hx]
  rfl

namespace Flags

variable {f : Flags} {text rest behind : List Char} {c : Char}

@[simp] theorem skip_nil (f : Flags) : f.skip [] = [] := by
  cases hv : f.verbose <;> simp [skip, skipBlank, hv]

/-- But in a comment the line is. -/
theorem skipBlank_comment {line : List Char} (h : '\n' ∉ line) : skipBlank true line = [] := by
  induction line with
  | nil => rfl
  | cons c line ih =>
    have hc : c ≠ '\n' := fun hc => h (by simp [hc])
    rw [skipBlank, if_pos rfl, decide_eq_true hc]
    exact ih fun hl => h (List.mem_cons_of_mem _ hl)

/-- Passing over ends within a text, or goes on behind it, maybe from within
a comment. -/
theorem skipBlank_append (comment : Bool) (text : List Char) :
    (skipBlank comment text ≠ [] ∧
        ∀ behind, skipBlank comment (text ++ behind) = skipBlank comment text ++ behind) ∨
      (skipBlank comment text = [] ∧
        ∃ within, ∀ behind, skipBlank comment (text ++ behind) = skipBlank within behind) := by
  induction text generalizing comment with
  | nil => exact .inr ⟨rfl, comment, fun _ => rfl⟩
  | cons c text ih =>
    simp only [List.cons_append, skipBlank]
    by_cases hc : comment = true
    · simpa only [if_pos hc] using ih _
    · by_cases hw : Unicode.isWhiteSpace c = true
      · simpa only [if_neg hc, if_pos hw] using ih _
      · by_cases hd : c = '#'
        · simpa only [if_neg hc, if_neg hw, if_pos hd] using ih _
        · simp [hc, hw, hd]

/-- **Where something is left of a text, nothing behind it is passed
over.** -/
theorem skip_append_of_ne_nil (h : f.skip text ≠ []) :
    f.skip (text ++ behind) = f.skip text ++ behind := by
  unfold skip at h ⊢
  split
  · next hv =>
    rw [if_pos hv] at h
    rcases skipBlank_append false text with ⟨-, happend⟩ | ⟨hnil, -⟩
    · exact happend behind
    · exact absurd hnil h
  · rfl

theorem skip_append (h : f.skip text = c :: rest) :
    f.skip (text ++ behind) = c :: (rest ++ behind) := by
  rw [skip_append_of_ne_nil (by simp [h]), h]
  rfl

/-- **A closing parenthesis behind a text is not passed over, unless the text
ends within a comment.** -/
theorem skip_closing (f : Flags) (text : List Char) :
    Trails (f.skip text) fun line => f.skip (text ++ ')' :: line) := by
  by_cases hv : f.verbose = true
  · simp only [skip, if_pos hv]
    rcases skipBlank_append false text with ⟨-, happend⟩ | ⟨hnil, within, hwithin⟩
    · exact .inl fun line => happend _
    · rw [hnil]
      cases within with
      | false => exact .inl fun line => hwithin _
      | true =>
        refine .inr ⟨rfl, fun line hline => ?_⟩
        exact (hwithin _).trans (skipBlank_comment (by simpa using hline))
  · simp only [skip, if_neg hv]
    exact .inl fun line => rfl

theorem readList_append {g : Flags} {seen used : List Flag} {on dangling : Bool}
    (h : f.readList seen on dangling text = .ok (g, used, rest)) :
    f.readList seen on dangling (text ++ behind) = .ok (g, used, rest ++ behind) := by
  induction text generalizing f seen on dangling with
  | nil => cases h
  | cons c text ih =>
    rw [readList] at h
    rw [List.cons_append, readList]
    split at h
    · next hc =>
      rw [if_pos hc]
      split at h <;> cases h
      next hd =>
        rw [if_neg hd]
        rfl
    · next hc =>
      rw [if_neg hc]
      split at h
      · next hm =>
        rw [if_pos hm]
        split at h
        · next ho =>
          rw [if_pos ho]
          exact ih h
        · cases h
      · next hm =>
        rw [if_neg hm]
        split at h
        · cases h
        · next flag hf =>
          split at h
          · cases h
          · next hs =>
            rw [if_neg hs]
            exact ih h

end Flags

namespace Escape

variable {f : Flags} {text rest behind line : List Char}

theorem hexDigits_append {count value n : ℕ} (h : hexDigits f count value text = .ok (n, rest)) :
    hexDigits f count value (text ++ behind) = .ok (n, rest ++ behind) := by
  induction count generalizing value text with
  | zero =>
    cases h
    rfl
  | succ count ih =>
    rw [hexDigits] at h
    split at h
    · cases h
    · next c tail hs =>
      rw [hexDigits, Flags.skip_append hs]
      split at h
      · next d hd => simpa only [hd] using ih h
      · cases h

theorem braced_eq : braced f text =
    match f.skip text with
    | [] => .error .unfinishedEscape
    | c :: rest =>
      if c = '}' then .ok ([], rest)
      else (braced f rest).map fun (inner, rest) => (c :: inner, rest) := by
  rw [braced]
  split <;> next h => simp only [h]

theorem braced_append {inner : List Char} (h : braced f text = .ok (inner, rest)) :
    braced f (text ++ behind) = .ok (inner, rest ++ behind) := by
  fun_induction braced f text generalizing inner rest with
  | case1 => cases h
  | case2 text tail hs =>
    cases h
    rw [braced_eq, Flags.skip_append hs]
    rfl
  | case3 text c tail hs hc hl ih =>
    rw [braced_eq, Flags.skip_append hs]
    simp only [if_neg hc]
    exact map_read_append (fun _ _ hb => ih hb) h

theorem code_append {count : ℕ} {e : Escape} (h : code f count text = .ok (e, rest)) :
    code f count (text ++ behind) = .ok (e, rest ++ behind) := by
  unfold code at h ⊢
  split at h
  case h_1 => cases h
  case h_2 hs =>
    rw [Flags.skip_append hs]
    split at h
    · cases h
    · next digits left hb =>
      split at h
      · cases h
      · next n hn =>
        simp only [braced_append hb, hn]
        exact map_left_append h
  case h_3 hnil hbrace =>
    -- no brace: the digits are counted
    obtain ⟨c, tail, hs⟩ := List.exists_cons_of_ne_nil hnil
    rw [Flags.skip_append hs]
    split at h
    · cases h
    · next n left hd =>
      split
      case h_1 heq => cases heq
      case h_2 heq =>
        cases heq
        exact absurd hs (hbrace _)
      case h_3 =>
        rw [hs] at hd
        rw [← List.cons_append, hexDigits_append hd]
        split at h
        · cases h
        · next hn =>
          simp only [if_neg hn]
          exact map_left_append h

theorem property_append {negated : Bool} {e : Escape}
    (h : property f negated text = .ok (e, rest)) :
    property f negated (text ++ behind) = .ok (e, rest ++ behind) := by
  unfold property at h ⊢
  split at h
  case h_1 => cases h
  case h_2 hs =>
    rw [Flags.skip_append hs]
    split at h
    · cases h
    · next query left hb =>
      simp only [braced_append hb]
      exact map_left_append h
  case h_3 c tail hbrace hs =>
    rw [Flags.skip_append hs]
    split at h
    · cases h
    · next hc =>
      split
      case h_1 heq => cases heq
      case h_2 heq =>
        cases heq
        exact absurd rfl hbrace
      case h_3 heq =>
        cases heq
        simp only [if_neg hc]
        exact map_left_append h

theorem placeName_append {name : List Char} (h : placeName f text = .ok (name, rest)) :
    placeName f (text ++ behind) = .ok (name, rest ++ behind) := by
  fun_induction placeName f text generalizing name rest with
  | case1 | case4 => cases h
  | case2 tail =>
    cases h
    rw [List.cons_append, placeName]
    rfl
  | case3 c tail hc hp ih =>
    obtain ⟨⟨name, left⟩, hn, heq⟩ := Text.exists_of_map_eq_ok h
    cases heq
    have hne : f.skip tail ≠ [] := by
      intro hnil
      simp [hnil, placeName] at hn
    rw [List.cons_append, placeName, if_neg hc, if_pos hp, Flags.skip_append_of_ne_nil hne, ih hn]
    rfl

/-- A word boundary looks for a brace behind it. -/
theorem boundary_append {place : WordPlace} (h : boundary f text = .ok (place, rest)) :
    boundary f (text ++ ')' :: line) = .ok (place, rest ++ ')' :: line) := by
  unfold boundary at h ⊢
  split at h
  · next tail =>
    rw [List.cons_append]
    split at h
    · cases h
    · next c inner hs =>
      simp only [Flags.skip_append hs]
      split at h
      · next hc =>
        simp only [if_pos hc]
        split at h
        · cases h
        · next hp =>
          rw [← List.cons_append, placeName_append hp]
          split at h
          · next hf =>
            cases h
            simp only [hf]
          · cases h
      · next hc =>
        cases h
        simp only [if_neg hc]
        rfl
  · next hbrace =>
    -- a parenthesis is no brace either
    cases h
    split
    · next heq =>
      cases text with
      | nil => cases heq
      | cons c text =>
        cases heq
        exact absurd rfl (hbrace _)
    · rfl

/-- **An escape is read with a parenthesis behind it.** -/
theorem read_append {e : Escape} (h : read f text = .ok (e, rest)) :
    read f (text ++ ')' :: line) = .ok (e, rest ++ ')' :: line) := by
  cases text with
  | nil => cases h
  | cons c tail =>
    unfold read at h ⊢
    dsimp only [List.cons_append] at h ⊢
    split at h
    · next hp =>
      cases h
      rw [if_pos hp]
    · next hp =>
      rw [if_neg hp]
      split at h
      case h_1 | h_2 | h_3 => exact code_append h
      case h_4 | h_5 => exact property_append h
      case h_9 | h_10 | h_11 => exact map_left_append h
      case h_17 =>
        exact map_read_append (g := fun place => look (.word place f.unicode))
          (fun _ _ hb => boundary_append hb) h
      case h_18 =>
        split at h
        · cases h
          rfl
        · cases h
      all_goals
        cases h
        rfl

end Escape

end Pattern

end RowQuery
