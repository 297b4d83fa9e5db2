/-!
# Quoted text

A quoted text stands between two equal quotes. Within it a backslash takes
the next character with it, so a quote ends the text only where no
backslash takes it. A taken quote and a taken backslash stand for
themselves; before any other character the backslash is part of the text.

Reading is two steps: `body?` finds the closing quote, `unescape` resolves
the body. `escape` is the way back, `unescape_escape`.
-/

namespace RowQuery

namespace Text

/-- Splits a text that follows an opening quote into the body and what
stands behind the closing quote. -/
def body? (quote : Char) : List Char → Option (List Char × List Char)
  | [] => none
  | c :: rest =>
    if c = quote then some ([], rest)
    else if c = '\\' then
      match rest with
      | [] => none
      | d :: rest => (body? quote rest).map fun (body, after) => (c :: d :: body, after)
    else (body? quote rest).map fun (body, after) => (c :: body, after)

/-- The body, the closing quote and what stands behind it are the text. -/
theorem eq_of_body?_eq_some {quote : Char} {text body after : List Char}
    (h : body? quote text = some (body, after)) : text = body ++ quote :: after := by
  fun_induction body? quote text generalizing body after with
  | case1 => simp at h
  | case2 rest => simp_all
  | case3 => simp at h
  | case4 _ d rest ih =>
    simp only [Option.map_eq_some_iff, Prod.exists, Prod.mk.injEq] at h
    obtain ⟨b, a, hb, rfl, rfl⟩ := h
    simp [ih hb]
  | case5 c rest _ _ ih =>
    simp only [Option.map_eq_some_iff, Prod.exists, Prod.mk.injEq] at h
    obtain ⟨b, a, hb, rfl, rfl⟩ := h
    simp [ih hb]

/-- Resolves the escapes of a body. -/
def unescape (quote : Char) : List Char → List Char
  | '\\' :: d :: rest =>
    if d = quote ∨ d = '\\' then d :: unescape quote rest else '\\' :: d :: unescape quote rest
  | c :: rest => c :: unescape quote rest
  | [] => []

/-- Writes a text as the body of a quoted one. -/
def escape (quote : Char) (cs : List Char) : List Char :=
  cs.flatMap fun c => if c = quote ∨ c = '\\' then ['\\', c] else [c]

/-- Resolving the escapes undoes escaping. -/
theorem unescape_escape (quote : Char) (cs : List Char) :
    unescape quote (escape quote cs) = cs := by
  induction cs with
  | nil => rfl
  | cons c cs ih =>
    rw [escape, List.flatMap_cons, ← escape]
    by_cases hc : c = quote ∨ c = '\\'
    · rw [if_pos hc]
      simp [unescape, hc, ih]
    · have hb : c ≠ '\\' := fun h => hc (.inr h)
      rw [if_neg hc]
      simp [unescape, hb, ih]

/-- The text between two quotes, with its escapes. -/
def quoted (quote : Char) (s : String) : String :=
  String.ofList (quote :: (escape quote s.toList ++ [quote]))

end Text

end RowQuery
