import Mathlib
import RowQuery.Proofs.Printing
import RowQuery.Proofs.Joining
/-!
# Columns and values that are named

Where all columns of a table have names of their own, any of them can be
named in a query, and be compared with any text: between quotes, with the
quote and the backslash escaped, neither the name nor the text reaches
beyond its quotes, whatever stands in it. The query is the one comparison
(`IsPhrase.comparing`), the name means its column
(`Header.resolve_getElem`), and the rows selected are those whose cell there
is related to the text (`select_named`).
-/

namespace RowQuery

/-! ## Distinct names -/

namespace Header

variable {names : List String}

/-- Names that differ from each other, and from those before, are collected. -/
theorem collect_eq {before : List String} (h : (before ++ names).Nodup) :
    collect before (names.map some) = .ok (before ++ names) := by
  induction names generalizing before with
  | nil => simp [collect]
  | cons name names ih =>
    have hnew : name ∉ before := fun hmem =>
      List.disjoint_of_nodup_append h hmem List.mem_cons_self
    rw [List.append_cons] at h
    rw [List.map_cons, collect, if_neg hnew, ih h, ← List.append_cons]

/-- So they make a header in which they can be looked up. -/
theorem ofNames_eq (h : names.Nodup) (hne : names ≠ []) :
    ofNames (names.map some) = .named names := by
  obtain ⟨name, rest, rfl⟩ := List.exists_cons_of_ne_nil hne
  have hcollect : collect [] ((name :: rest).map some) = .ok (name :: rest) := collect_eq h
  rw [ofNames, hcollect]

/-- **A name is found where it stands.** -/
theorem indexOf_ofNames {name : String} {i : ℕ} (h : names.Nodup) (hi : names[i]? = some name) :
    (ofNames (names.map some)).indexOf name = .ok i := by
  obtain ⟨hlt, hname⟩ := List.getElem?_eq_some_iff.1 hi
  have hfound : names.idxOf? name = some i :=
    List.idxOf?_eq_some_iff.2 ⟨hlt, hname, fun j hj heq =>
      absurd (h.getElem_inj_iff.1 (heq.trans hname.symm)) (Nat.ne_of_lt hj)⟩
  rw [ofNames_eq h (List.ne_nil_of_length_pos (Nat.zero_lt_of_lt hlt)), indexOf, hfound]

/-- Any other name is unknown. -/
theorem indexOf_ofNames_of_notMem {name : String} (h : names.Nodup) (hne : names ≠ [])
    (hname : name ∉ names) :
    (ofNames (names.map some)).indexOf name = .error (.unknownColumn name) := by
  rw [ofNames_eq h hne, indexOf, List.idxOf?_eq_none_iff.2 hname]

/-- **A name means its column.** -/
theorem resolve_getElem (h : names.Nodup) (i : Fin names.length) :
    (ofNames (names.map some)).resolve (.quotedName names[i]) = .ok (.cell i) := by
  have hfound : (ofNames (names.map some)).indexOf names[i] = .ok i :=
    indexOf_ofNames h (List.getElem?_eq_getElem i.isLt)
  rw [resolve, hfound]
  rfl

end Header

namespace Query

/-! ## The query that compares a column with a text -/

/-- The query that compares a column with a text, the column by its name. The
gaps are the white space between its words. -/
def comparing (gap : ℕ → String) (name : String) (op : Operator) (value : String) : String :=
  gap 0 ++ Text.quoted '"' name ++ gap 1 ++ op.symbol ++ gap 2 ++ Text.quoted '\'' value ++ gap 3

namespace Token

/-- A quote ends what it closes. -/
theorem not_quotedName_runsInto (s : String) (u : Token) : ¬ (quotedName s).RunsInto u := by
  simp [RunsInto, isWord]

/-- And begins something new. -/
theorem not_runsInto_text (t : Token) (s : String) : ¬ t.RunsInto (text s) := by
  cases t with
  | operator op => cases op <;> simp [RunsInto, isWord]
  | _ => simp [RunsInto, isWord]

end Token

variable {gap : ℕ → String} {name value : String} {op : Operator}

/-- **A comparison is written as its words**, with blanks between them. -/
theorem Comparison.WellFormed.isPhrase {c : Comparison} (hc : c.WellFormed) :
    IsPhrase (spaced (fun _ => [' ']) c.tokens) (.term (.comparison c)) := by
  obtain ⟨hderives, hwritable⟩ := hc.writtenBy
  have hgap : ∀ _ : ℕ, [' '] ≠ [] ∧ Blank [' '] := fun _ =>
    ⟨List.cons_ne_nil _ _, blank_space⟩
  exact ⟨_, isRow_spaced hgap hwritable (List.cons_ne_nil _ _), hderives⟩

/-- White space alone is a row without tokens. -/
theorem isRow_nil : IsRow [] [] :=
  ⟨[], [], .nil, blank_nil, rfl, rfl⟩

/-- **The query is three words**, whatever stands between the quotes. White
space may be missing anywhere, since no two of them run together. -/
theorem isRow_comparing (hgap : ∀ n, Blank (gap n).toList) :
    IsRow (comparing gap name op value).toList
      [.quotedName name, .operator op, .text value] := by
  have hname : IsRow (Text.quoted '"' name).toList [.quotedName name] := by
    rw [Text.quoted, String.toList_ofList]
    exact .of_spells (Token.Writable.spells (t := .quotedName name) trivial)
  have hop : IsRow op.symbol.toList [.operator op] :=
    .of_spells (Token.Writable.spells (t := .operator op) trivial)
  have hvalue : IsRow (Text.quoted '\'' value).toList [.text value] := by
    rw [Text.quoted, String.toList_ofList]
    exact .of_spells (Token.Writable.spells (t := .text value) trivial)
  have hend := hvalue.append isRow_nil (hgap 3) nofun
  have hright := hop.append hend (hgap 2) fun _ t _ u hu => by
    obtain rfl : Token.text value = u := by simpa using hu
    exact t.not_runsInto_text value
  have hleft := hname.append hright (hgap 1) fun _ t ht u _ => by
    obtain rfl : Token.quotedName name = t := by simpa using ht
    exact Token.not_quotedName_runsInto name u
  have hrow := isRow_nil.append hleft (hgap 0) nofun
  simpa [comparing] using hrow

/-- **And it is one comparison.** -/
theorem read_comparing (hgap : ∀ n, Blank (gap n).toList) :
    read (comparing gap name op value) =
      .ok [[.comparison ⟨.quotedName name, op, .text value⟩]] :=
  read_iff_isRow.2
    ⟨_, isRow_comparing hgap, .alternative (.single (.comparison .quotedName .text))⟩

section Selections

variable [Pattern.Engine]

/-- What it selects is what the operator says of the column and the text. -/
theorem ofText_comparing (hgap : ∀ n, Blank (gap n).toList) {h : Header} {i : ℕ}
    (hname : h.resolve (.quotedName name) = .ok (.cell i)) :
    Selection.ofText (comparing gap name op value) h =
      ((op.against value).map fun holds =>
        (⟨comparing gap name op value, some fun row _ => holds (row.cell i)⟩ : Selection)).mapError
          .unbound := by
  rw [ofText_of_read (read_comparing hgap), predicate_term, Term.predicate,
    Comparison.predicate_text hname]
  cases op.against value <;> rfl

/-- **Every column and every text can be named.** Take any distinct names,
of which there is one at least, any text and any operator. The name of a
column in double quotes, the operator, and the text in single quotes, the
quote and the backslash escaped in each, are one comparison of that name
with that text. The name means the column, and the rows that are selected
are those whose cell there is related to the text; the only texts refused
are those that should be regular expressions and are none. By equality a row
is selected exactly if it has the text in its cell. -/
theorem select_named {names : List String} (hnames : names.Nodup) (i : Fin names.length)
    (value : String) {gap : ℕ → String} (hgap : ∀ n, Unicode.isBlank (gap n) = true) :
    (Header.ofNames (names.map some)).resolve (.quotedName names[i]) = .ok (.cell i) ∧
    (∀ op : Operator,
      read (comparing gap names[i] op value) =
        .ok [[.comparison ⟨.quotedName names[i], op, .text value⟩]] ∧
      (∀ e, Selection.ofText (comparing gap names[i] op value) (.ofNames (names.map some)) =
          .error e ↔
        op = .regex ∧ ∃ why, Pattern.whole value = .error why ∧
          e = .unbound (.invalidPattern value why)) ∧
      ∀ s, Selection.ofText (comparing gap names[i] op value) (.ofNames (names.map some)) = .ok s →
        ∀ row ordinal, s.selects row ordinal = true ↔ op.Relates (row.cell i) (some value)) ∧
    ∃ s, Selection.ofText (comparing gap names[i] .equal value) (.ofNames (names.map some)) =
        .ok s ∧
      ∀ row ordinal, s.selects row ordinal = true ↔ row[i.val]? = some (some value) := by
  have hblank : ∀ n, Blank (gap n).toList := fun n => List.all_eq_true.1 (hgap n)
  have hresolve := Header.resolve_getElem hnames i
  refine ⟨hresolve, fun op => ⟨read_comparing hblank, fun e => ?_, fun s hs row ordinal => ?_⟩, ?_⟩
  · rw [ofText_comparing hblank hresolve]
    constructor
    · intro he
      cases hop : op.against value with
      | ok holds => rw [hop] at he; cases he
      | error e' =>
        rw [hop] at he
        obtain ⟨rfl, why, hwhy, rfl⟩ := Operator.against_eq_error_iff.1 hop
        cases he
        exact ⟨rfl, why, hwhy, rfl⟩
    · rintro ⟨hop, why, hwhy, rfl⟩
      rw [Operator.against_eq_error_iff.2 ⟨hop, why, hwhy, rfl⟩]
      rfl
  · rw [ofText_comparing hblank hresolve] at hs
    cases hop : op.against value with
    | error e => rw [hop] at hs; cases hs
    | ok holds =>
      rw [hop] at hs
      cases hs
      exact Operator.against_iff hop _
  · refine ⟨_, ofText_comparing hblank hresolve, fun row ordinal => ?_⟩
    change decide (row.cell i = some value) = true ↔ _
    rw [decide_eq_true_iff, Row.cell]
    cases row[i.val]? <;> simp

end Selections

/-- A name with a quote and a query in it, and a text that ends in quotes and
a backslash, with no white space between them. -/
theorem select_named_quoted :
    ["a", "\" OR $1 = '"].Nodup ∧ (∀ n : ℕ, Unicode.isBlank ((fun _ => "") n) = true) ∧
      read "\"\\\" OR $1 = '\"='\\' OR \\'\\\\'" =
        .ok [[.comparison ⟨.quotedName "\" OR $1 = '", .equal, .text "' OR '\\"⟩]] ∧
      ∃ s, Selection.ofText "\"\\\" OR $1 = '\"='\\' OR \\'\\\\'"
          (.ofNames [some "a", some "\" OR $1 = '"]) = .ok s ∧
        ∀ row ordinal, s.selects row ordinal = true ↔ row[1]? = some (some "' OR '\\") := by
  have hnames : ["a", "\" OR $1 = '"].Nodup := by decide
  have hgap : ∀ n : ℕ, Unicode.isBlank ((fun _ => "") n) = true := fun _ => rfl
  have htext : comparing (fun _ => "") "\" OR $1 = '" .equal "' OR '\\" =
      "\"\\\" OR $1 = '\"='\\' OR \\'\\\\'" := by
    decide
  obtain ⟨-, hread, hselects⟩ := select_named hnames ⟨1, by decide⟩ "' OR '\\" hgap
  rw [← htext]
  exact ⟨hnames, hgap, (hread .equal).1, hselects⟩

end Query

end RowQuery
