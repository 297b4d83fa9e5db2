import RowQuery.Proofs.Lowercase
import RowQuery.Proofs.OperatorText
/-!
# The same letters in either case

Texts that differ in the case of letters of ASCII only, have one lower-case
form (`Unicode.lowercase_congr`). That is clear of the letters themselves; but
the form of a sigma depends on what stands around it. There too a letter of
ASCII counts for the same in either case: it is cased, and casing does not pass
over it (`Unicode.facesCased_congr`). So ILIKE cannot tell such texts apart, be
they the pattern or the value, in a query or in a row
(`Query.Comparison.ilike_of_sameLetters`).
-/

namespace RowQuery

namespace Query

/-- **Characters that are the same but for the case of a letter of ASCII.** -/
def SameLetter (c d : Char) : Prop :=
  Recased c d ∨ Recased d c

variable {c d : Char} {s t : List Char}

/-- A character is its capital letter in one case or the other. -/
theorem recased_toUpper (c : Char) : Recased c c.toUpper :=
  (toUpper_eq_iff c.isLower_toUpper_eq_false).1 rfl

/-- In either case the capital letter is the same. -/
theorem Recased.toUpper_eq (h : Recased c d) : c.toUpper = d.toUpper := by
  by_cases hd : d.isLower = true
  · -- a small letter is no capital one in another case
    cases h with
    | same => rfl
    | small _ hhigh _ =>
      have hlow := (isLower_iff.1 hd).1
      simp at hlow hhigh
      omega
  · rw [(toUpper_eq_iff (Bool.eq_false_iff.2 hd)).2 h, Char.toUpper_eq_of_not_isLower hd]

/-- **The same letters have the same capitals**, and no others do. -/
theorem sameLetter_iff : SameLetter c d ↔ c.toUpper = d.toUpper := by
  constructor
  · rintro (h | h)
    · exact h.toUpper_eq
    · exact h.toUpper_eq.symm
  · intro h
    have hc := recased_toUpper c
    have hd := recased_toUpper d
    rw [h] at hc
    generalize d.toUpper = capital at hc hd
    rcases hc with - | ⟨hlow, hhigh, hsum⟩
    · exact .inr hd
    · rcases hd with - | ⟨-, -, hsum'⟩
      · exact .inl (.small hlow hhigh hsum)
      · -- both are the small letter
        obtain rfl : c = d := Char.toNat_inj.1 (hsum.trans hsum'.symm)
        exact .inl .same

/-- So whether two texts have the same letters can be computed. -/
theorem forall₂_sameLetter_iff :
    List.Forall₂ SameLetter s t ↔ s.map Char.toUpper = t.map Char.toUpper := by
  have hsame : SameLetter = fun c d => c.toUpper = d.toUpper :=
    funext₂ fun _ _ => propext sameLetter_iff
  rw [hsame, ← List.forall₂_eq_eq_eq, List.forall₂_map_left_iff, List.forall₂_map_right_iff]

namespace SameLetter

variable (h : SameLetter c d)
include h

theorem isAlpha_eq : c.isAlpha = d.isAlpha := by
  rw [← c.isAlpha_toUpper_eq_isAlpha, sameLetter_iff.1 h, d.isAlpha_toUpper_eq_isAlpha]

theorem toLower_eq : c.toLower = d.toLower := by
  rw [← c.toLower_toUpper_eq_toLower, sameLetter_iff.1 h, d.toLower_toUpper_eq_toLower]

/-- **Apart from the letters of ASCII, the same is the same.** -/
theorem eq_or_isAlpha : c = d ∨ c.isAlpha = true ∧ d.isAlpha = true := by
  by_cases hc : c.isAlpha = true
  · exact .inr ⟨hc, h.isAlpha_eq ▸ hc⟩
  · have hd : ¬ d.isAlpha = true := h.isAlpha_eq ▸ hc
    simp only [Char.isAlpha, Bool.or_eq_true, not_or] at hc hd
    have hupper := sameLetter_iff.1 h
    rw [Char.toUpper_eq_of_not_isLower hc.2, Char.toUpper_eq_of_not_isLower hd.2] at hupper
    exact .inl hupper

end SameLetter

end Query

namespace Unicode

open Query

variable {c d : Char} {cs ds before before' text text' : List Char}

/-- Casing does not pass over a letter of ASCII. -/
theorem isCaseIgnorable_of_isAlpha (h : c.isAlpha = true) : isCaseIgnorable c = false := by
  have hcode : ∀ n < 128, (Char.ofNat n).isAlpha = true →
      isCaseIgnorable (Char.ofNat n) = false := by
    decide +kernel
  have hignorable := hcode c.toNat (toNat_lt_of_isAlpha h)
  rw [Char.ofNat_toNat] at hignorable
  exact hignorable h

/-- Its lower-case form is its small letter. -/
theorem lowerChar_of_isAlpha (h : c.isAlpha = true) : lowerChar c = [c.toLower] := by
  rw [lowerChar, if_pos (toNat_lt_of_isAlpha h)]

theorem facesCased_cons (c : Char) (cs : List Char) :
    facesCased (c :: cs) = if isCaseIgnorable c then facesCased cs else isCased c := by
  by_cases hc : isCaseIgnorable c = true <;> simp [facesCased, hc]

/-- **The same letters are cased alike**, whatever is among them. -/
theorem facesCased_congr (h : List.Forall₂ SameLetter cs ds) : facesCased cs = facesCased ds := by
  induction h with
  | nil => rfl
  | cons hc _ ih =>
    rw [facesCased_cons, facesCased_cons, ih]
    rcases hc.eq_or_isAlpha with rfl | ⟨hc, hd⟩
    · rfl
    · simp [isCaseIgnorable_of_isAlpha, isCased, hc, hd]

/-- **They have one lower-case form** behind the same letters. The induction is
on the texts, and what stands before them grows. -/
theorem lowerAfter_congr (hbefore : List.Forall₂ SameLetter before before')
    (h : List.Forall₂ SameLetter text text') :
    lowerAfter before text = lowerAfter before' text' := by
  induction h generalizing before before' with
  | nil => rfl
  | @cons c d rest rest' hc hrest ih =>
    rw [lowerAfter, lowerAfter, ih (.cons hc hbefore)]
    rcases hc.eq_or_isAlpha with rfl | ⟨hcalpha, hdalpha⟩
    · rw [facesCased_congr hbefore, facesCased_congr hrest]
    · -- neither of two letters of ASCII is a sigma
      have hne {e : Char} (he : e.isAlpha = true) : e ≠ 'Σ' := by
        rintro rfl
        exact absurd he (by decide)
      rw [if_neg (hne hcalpha), if_neg (hne hdalpha), lowerChar_of_isAlpha hcalpha,
        lowerChar_of_isAlpha hdalpha, hc.toLower_eq]

/-- So does a whole text. -/
theorem lowercase_congr {s t : String} (h : List.Forall₂ SameLetter s.toList t.toList) :
    lowercase s = lowercase t := by
  rw [lowercase, lowercase, lowerAfter_congr .nil h]

end Unicode

/-- **Cells that are the same but for the case of letters of ASCII**, absent ones
among them. -/
def Cell.SameLetters : Cell → Cell → Prop :=
  Option.Rel fun s t => List.Forall₂ Query.SameLetter s.toList t.toList

/-- Such cells have one lower-case form. -/
theorem Cell.SameLetters.lower_eq {a b : Cell} (h : a.SameLetters b) : a.lower = b.lower := by
  cases h with
  | none => rfl
  | some h => exact congrArg some (Unicode.lowercase_congr h)

namespace Query.Comparison

section Predicates

variable [Pattern.Engine]
variable {h : Header} {x y : Reference} {src pat : Source}

/-- Against a text ILIKE looks for the text in what the left side reads. -/
theorem exists_ilike_text (hx : h.resolve x = .ok src) (s : String) :
    ∃ f, Comparison.predicate h ⟨x, .ilike, .text s⟩ = .ok f ∧
      ∀ row ordinal v, src.Reads row ordinal v →
        f row ordinal = Cell.occursIgnoringCase (some s) v := by
  refine ⟨_, predicate_text hx s, fun row ordinal v hv => ?_⟩
  obtain rfl := Source.reads_iff.1 hv
  rfl

/-- Between two references it looks for what the right one reads. -/
theorem exists_ilike_reference (hx : h.resolve x = .ok src) (hy : h.resolve y = .ok pat) :
    ∃ f, Comparison.predicate h ⟨x, .ilike, .reference y⟩ = .ok f ∧
      ∀ row ordinal v p, src.Reads row ordinal v → pat.Reads row ordinal p →
        f row ordinal = p.occursIgnoringCase v := by
  refine ⟨_, predicate_reference hx hy, fun row ordinal v p hv hp => ?_⟩
  obtain rfl := Source.reads_iff.1 hv
  obtain rfl := Source.reads_iff.1 hp
  rfl

/-- **ILIKE ignores the case of ASCII altogether.** Let a pattern and a value,
either of which may be absent, be the same as two others but for the case of
letters of ASCII, whatever other characters are among these. Whether a pattern
occurs in a value, case ignored, has one answer for all of them. ILIKE gives this
answer for either pattern with either value, both against a text that is the
pattern and between references that read the two. -/
theorem ilike_of_sameLetters {p p' v v' : Cell} (hp : p.SameLetters p') (hv : v.SameLetters v') :
    ∀ pattern value, (pattern = p ∨ pattern = p') → (value = v ∨ value = v') →
      pattern.occursIgnoringCase value = p.occursIgnoringCase v ∧
      ∀ h x src, Header.resolve h x = .ok src →
        (∀ s, pattern = some s →
          ∃ f, Comparison.predicate h ⟨x, .ilike, .text s⟩ = .ok f ∧
            ∀ row ordinal, src.Reads row ordinal value →
              f row ordinal = p.occursIgnoringCase v) ∧
        ∀ y pat, h.resolve y = .ok pat →
          ∃ f, Comparison.predicate h ⟨x, .ilike, .reference y⟩ = .ok f ∧
            ∀ row ordinal, src.Reads row ordinal value → pat.Reads row ordinal pattern →
              f row ordinal = p.occursIgnoringCase v := by
  intro pattern value hpattern hvalue
  have hsame : pattern.occursIgnoringCase value = p.occursIgnoringCase v := by
    rcases hpattern with rfl | rfl <;> rcases hvalue with rfl | rfl <;>
      simp only [Cell.occursIgnoringCase, hp.lower_eq, hv.lower_eq]
  refine ⟨hsame, fun h x src hx => ⟨?_, fun y pat hy => ?_⟩⟩
  · rintro s rfl
    obtain ⟨f, hf, hholds⟩ := exists_ilike_text hx s
    exact ⟨f, hf, fun row ordinal hread => (hholds row ordinal value hread).trans hsame⟩
  · obtain ⟨f, hf, hholds⟩ := exists_ilike_reference hx hy
    exact ⟨f, hf, fun row ordinal hread hread' =>
      (hholds row ordinal value pattern hread hread').trans hsame⟩

end Predicates

/-- A sigma at the end of a word has its final form, whatever the case of the
letter before it. -/
theorem ilike_of_sameLetters_sigma :
    Cell.SameLetters (some "oΣ") (some "OΣ") ∧
      Cell.SameLetters (some "FOΣ 1") (some "foΣ 1") ∧
      ∃ f g, Comparison.predicate (.named ["a", "b"]) ⟨.name "a", .ilike, .text "OΣ"⟩ = .ok f ∧
        Comparison.predicate (.named ["a", "b"]) ⟨.name "a", .ilike, .reference (.name "b")⟩ =
          .ok g ∧
        f [some "FOΣ 1", some "oΣ"] 0 = true ∧ g [some "foΣ 1", some "OΣ"] 0 = true := by
  have hp : Cell.SameLetters (some "oΣ") (some "OΣ") :=
    .some (forall₂_sameLetter_iff.2 (by decide +kernel))
  have hv : Cell.SameLetters (some "FOΣ 1") (some "foΣ 1") :=
    .some (forall₂_sameLetter_iff.2 (by decide +kernel))
  have hfound : Cell.occursIgnoringCase (some "oΣ") (some "FOΣ 1") = true := by decide +kernel
  have hx : Header.resolve (.named ["a", "b"]) (.name "a") = .ok (.cell 0) := rfl
  have hy : Header.resolve (.named ["a", "b"]) (.name "b") = .ok (.cell 1) := rfl
  have hanswers := ilike_of_sameLetters hp hv
  obtain ⟨f, hf, hholds⟩ := ((hanswers _ _ (.inr rfl) (.inl rfl)).2 _ _ _ hx).1 "OΣ" rfl
  obtain ⟨g, hg, hholds'⟩ := ((hanswers _ _ (.inr rfl) (.inr rfl)).2 _ _ _ hx).2 _ _ hy
  refine ⟨hp, hv, f, g, hf, hg, ?_, ?_⟩
  · exact (hholds _ 0 (.cell rfl)).trans hfound
  · exact (hholds' _ 0 (.cell rfl) (.cell rfl)).trans hfound

end Query.Comparison

end RowQuery
