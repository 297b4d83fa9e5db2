import Mathlib
import RowQuery.Proofs.Order
/-!
# Texts and their bytes

Texts are compared by their characters, and a machine may compare them by the
bytes that encode the characters in UTF-8. It makes no difference. The bytes
of two characters differ before either of them ends, and at the first
difference the lesser character has the lesser byte (`encoded_lt`); so texts
are in the same order as their bytes (`bytes_lt_iff`), although characters have
encodings of different lengths. `Before` says what the order is without a
recursion (`before_iff`).
-/

namespace RowQuery

namespace Text

/-- **A text before another one**: it ends within it, or the two differ first
where the one has the lesser code point. -/
inductive Before : List Char → List Char → Prop
  /-- The other text goes on. -/
  | ends {a rest : List Char} {c : Char} : Before a (a ++ c :: rest)
  /-- The first difference. -/
  | differs (common : List Char) {as bs : List Char} {c d : Char} :
      c.toNat < d.toNat → Before (common ++ c :: as) (common ++ d :: bs)

/-- What the texts have in common before does not matter. -/
theorem Before.cons {a b : List Char} (h : Before a b) (c : Char) : Before (c :: a) (c :: b) := by
  cases h with
  | ends => exact .ends
  | differs common hlt => exact .differs (c :: common) hlt

/-- **This is the order of lists.** -/
theorem before_iff {a b : List Char} : Before a b ↔ a < b := by
  constructor
  · intro h
    cases h with
    | @ends _ rest c =>
      have hnil : ([] : List Char) < c :: rest := List.nil_lt_cons c rest
      have hlt : a ++ [] < a ++ c :: rest := List.append_left_lt hnil
      rwa [List.append_nil] at hlt
    | @differs common as bs c d hlt =>
      have hcd : c :: as < d :: bs := List.cons_lt_cons_iff.2 (.inl hlt)
      exact List.append_left_lt hcd
  · intro h
    induction a generalizing b with
    | nil =>
      cases b with
      | nil => exact absurd h (lt_irrefl _)
      | cons d bs => exact .ends (a := [])
    | cons c as ih =>
      cases b with
      | nil => exact absurd h (List.not_lt_nil _)
      | cons d bs =>
        rcases List.cons_lt_cons_iff.1 h with hcd | ⟨rfl, has⟩
        · exact .differs [] hcd
        · exact (ih has).cons c

/-! ## Bytes -/

/-- The bytes of a text in UTF-8. -/
def bytes (text : List Char) : List UInt8 :=
  text.flatMap String.utf8EncodeChar

/-- They are those of the string. -/
theorem bytes_toList (s : String) : bytes s.toList = s.toUTF8.data.toList := by
  have hs : s.toUTF8 = s.toList.utf8Encode := by
    conv_lhs => rw [← String.ofList_toList (s := s), String.toUTF8_eq_toByteArray,
      String.toByteArray_ofList]
  rw [hs, List.utf8Encode, List.toList_data_toByteArray, bytes]

theorem codePoint_lt (c : Char) : c.val.toNat < 0x110000 := by
  have hc := c.valid
  simp only [UInt32.isValidChar, Nat.isValidChar] at hc
  omega

/-- **Bytes decide as the characters do**, whatever stands behind them. There
is a case for each pair of lengths, of one byte to four; in each the bytes are
compared as the digits of the code points. -/
theorem encoded_lt {c d : Char} (h : c.toNat < d.toNat) (as bs : List UInt8) :
    String.utf8EncodeChar c ++ as < String.utf8EncodeChar d ++ bs := by
  have hd := codePoint_lt d
  have hcd : c.val.toNat < d.val.toNat := h
  simp only [String.utf8EncodeChar]
  generalize c.val.toNat = m at hcd ⊢
  generalize d.val.toNat = n at hcd hd ⊢
  split_ifs
  all_goals
    simp only [List.cons_append, List.nil_append, List.cons_lt_cons_iff, UInt8.lt_iff_toNat_lt,
      ← UInt8.toNat_inj, UInt8.toNat_ofNat']
    -- no byte is cut off, so all that is left is arithmetic of the digits
    simp (disch := omega) only [Nat.mod_eq_of_lt]
    omega

/-- A text that is before another has bytes that are. The induction is on the
texts, which drop what they have in common. -/
theorem bytes_lt {a b : List Char} (h : a < b) : bytes a < bytes b := by
  induction a generalizing b with
  | nil =>
    cases b with
    | nil => exact absurd h (lt_irrefl _)
    | cons d bs =>
      obtain ⟨x, xs, hd⟩ := List.exists_cons_of_ne_nil (String.utf8EncodeChar_ne_nil (c := d))
      rw [bytes, bytes, List.flatMap_cons, hd, List.cons_append]
      exact List.nil_lt_cons x _
  | cons c as ih =>
    cases b with
    | nil => exact absurd h (List.not_lt_nil _)
    | cons d bs =>
      rw [bytes, bytes, List.flatMap_cons, List.flatMap_cons]
      rcases List.cons_lt_cons_iff.1 h with hcd | ⟨rfl, has⟩
      · exact encoded_lt hcd _ _
      · exact List.append_left_lt (ih has)

/-- **Texts are in the order of their bytes.** -/
theorem bytes_lt_iff {a b : List Char} : bytes a < bytes b ↔ a < b := by
  refine ⟨fun h => ?_, bytes_lt⟩
  rcases lt_trichotomy a b with hlt | rfl | hgt
  · exact hlt
  · exact absurd h (List.lt_irrefl _)
  · exact absurd h (List.lt_asymm (bytes_lt hgt))

/-- A character of three bytes is before one of four. -/
example : bytes ['\uffff'] < bytes ['😀'] := bytes_lt_iff.2 (by decide)

end Text

end RowQuery
