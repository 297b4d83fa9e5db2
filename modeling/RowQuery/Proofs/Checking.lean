import Mathlib
import RowQuery.Command.Run
import RowQuery.Proofs.Json
import RowQuery.Proofs.Stages
/-!
# Checking queries

What the command writes of a sheet it reads as the sheet again
(`Command.sheetOfText_printed`), so a query can be run on what it selected,
and selects all of that if it does not look at the places of rows
(`Command.check_printed`). Whether a query can be read is said alike with a
sheet and without one (`Command.check_syntax`). A blank query is not read at
all; it is one in which a scanner finds nothing (`Query.next_finish_iff`).
-/

namespace RowQuery

/-! ## Sheets as JSON -/

namespace Sheet

/-- Names read as they were written, -/
theorem namesOfJson_map (index : ℕ) (cells : List Cell) :
    namesOfJson index (cells.map cellToJson) = .ok cells := by
  induction cells generalizing index with
  | nil => rfl
  | cons c cells ih => cases c <;> rw [List.map_cons, cellToJson, namesOfJson, ih] <;> rfl

/-- and so do the cells of a row -/
theorem cellsOfJson_map [Json.Format] (index : ℕ) (cells : List Cell) :
    cellsOfJson index (cells.map cellToJson) = .ok cells := by
  induction cells with
  | nil => rfl
  | cons c cells ih => cases c <;> simp [cellsOfJson, cellToJson, cellOfJson?, ih, Except.map]

/-- and the rows. -/
theorem rowsOfJson_map [Json.Format] (index : ℕ) (rows : List Row) :
    rowsOfJson index (rows.map fun r => .array (r.map cellToJson)) = .ok rows := by
  induction rows generalizing index with
  | nil => rfl
  | cons r rows ih =>
    rw [List.map_cons, rowsOfJson, cellsOfJson_map]
    exact congrArg (Except.map (r :: ·)) (ih (index + 1))

/-- **The value of a sheet reads as the sheet.** -/
theorem ofJson_toJson [Json.Format] (t : Sheet) : ofJson t.toJson = .ok t := by
  have hcolumns (names rows : Json) :
      Json.member? "columns" [("columns", names), ("rows", rows)] = some names := rfl
  have hrows (names rows : Json) :
      Json.member? "rows" [("columns", names), ("rows", rows)] = some rows := rfl
  simp [toJson, ofJson, hcolumns, hrows, columnsOfJson, namesOfJson_map, rowsOfJson_map, Except.map]

theorem word_cellToJson (c : Cell) : Json.Word (cellToJson c) := by
  cases c with
  | none => exact .null
  | some s => exact .string s

theorem legible_cells (n : ℕ) (cells : List Cell) :
    Json.Legible (n + 1) (.array (cells.map cellToJson)) := by
  refine .array fun v hv => ?_
  obtain ⟨c, -, rfl⟩ := List.mem_map.1 hv
  exact .word (word_cellToJson c)

/-- It holds texts in three containers at most. -/
theorem legible_toJson (t : Sheet) : Json.Legible 3 t.toJson := by
  have hkeys : ["columns", "rows"].Pairwise (·.toList < ·.toList) := by decide
  have hrows : Json.Legible 2 (.array (t.rows.map fun r => .array (r.map cellToJson))) := by
    refine .array fun v hv => ?_
    obtain ⟨r, -, rfl⟩ := List.mem_map.1 hv
    exact legible_cells 0 r
  refine .object hkeys (List.forall_mem_cons.2 ⟨legible_cells 1 t.names, ?_⟩)
  exact List.forall_mem_singleton.2 hrows

end Sheet

/-! ## Blank texts -/

/-- What is left of a text without the white space around it. -/
def Unicode.trimmed (s : String) : List Char :=
  (s.toList.dropWhile isWhiteSpace).rdropWhile isWhiteSpace

/-- Of a blank text nothing is left. -/
theorem Unicode.trimmed_eq_nil_iff (s : String) : trimmed s = [] ↔ isBlank s = true := by
  rw [trimmed, List.rdropWhile_eq_nil_iff, isBlank, List.all_eq_true]
  constructor
  · intro h
    have hnil : s.toList.dropWhile isWhiteSpace = [] := by
      by_contra hne
      have hhead := h _ (List.head_mem hne)
      rw [List.head_dropWhile_not isWhiteSpace hne] at hhead
      cases hhead
    exact List.dropWhile_eq_nil_iff.1 hnil
  · intro h c hc
    exact h c ((List.dropWhile_sublist _).subset hc)

namespace Query

/-- **A scanner finds nothing in a blank text**, and in no other. -/
theorem next_finish_iff (q : String) :
    (Scanner.ofText q).next.1 = .ok .finish ↔ Unicode.isBlank q = true := by
  constructor
  · intro h
    have hnil := Lexeme.eq_nil_of_finish (Scanner.first_of_next h)
    exact List.all_eq_true.2 (List.dropWhile_eq_nil_iff.1 hnil)
  · intro h
    exact (Scanner.next_of_blank (s := .ofText q) (List.all_eq_true.1 h)).1

end Query

/-! ## What the command writes and reads -/

namespace Selection

variable [Pattern.Engine] {s : Selection} {q : String} {h : Header}

/-- A text selects everything if it is blank, and otherwise by its tree. -/
theorem ofText_eq_ok_iff :
    ofText q h = .ok s ↔ (Unicode.isBlank q = true ∧ everything = s) ∨
      ∃ T, Query.read q = .ok T ∧ ofTree q T h = .ok s := by
  cases hread : Query.read q with
  | error e => cases hblank : Unicode.isBlank q <;> simp [ofText, hblank, hread]
  | ok T =>
    have hblank := Query.isBlank_of_read hread
    cases hp : ofTree q T h <;> simp [ofText, hblank, hread, hp, Except.mapError]

/-- The selection by a tree asks for something. -/
theorem isEverything_ofTree {T : Query.Tree} (hs : ofTree q T h = .ok s) :
    s.isEverything = false := by
  obtain ⟨p, -, rfl⟩ := Text.exists_of_map_eq_ok hs
  rfl

/-- **A text selects everything only if it is blank.** -/
theorem isEverything_iff (hs : ofText q h = .ok s) :
    s.isEverything = true ↔ Unicode.isBlank q = true := by
  rcases ofText_eq_ok_iff.1 hs with ⟨hblank, rfl⟩ | ⟨T, hT, hs⟩
  · exact iff_of_true rfl hblank
  · simp [isEverything_ofTree hs, Query.isBlank_of_read hT]

/-- What a text selects does not look at places, if the text is blank or its
tree does not refer to them. -/
theorem steady_ofText
    (hq : Unicode.isBlank q = true ∨ ∃ T, Query.read q = .ok T ∧ T.Placeless)
    (hs : ofText q h = .ok s) : s.Steady := by
  rcases ofText_eq_ok_iff.1 hs with ⟨-, rfl⟩ | ⟨T, hT, hs⟩
  · exact fun _ _ _ => rfl
  · rcases hq with hblank | ⟨U, hU, hplaceless⟩
    · rw [Query.isBlank_of_read hT] at hblank
      cases hblank
    · obtain rfl : U = T := by simpa [hT] using hU.symm
      exact steady_of_placeless hs hplaceless

end Selection

namespace Command

variable {q : String} {t : Sheet} {c : Checked}

section Printing

variable [Json.Format]

/-- **The texts of a sheet**: its value in both forms, as it is and as the
command prints it. -/
def printed (t : Sheet) : List String :=
  [Json.Format.compact t.toJson, Json.Format.spread t.toJson, (Checked.selected t).text false,
    (Checked.selected t).text true]

/-- They are read as its value, by a format that reads back what it wrote: there
is nothing or a line break behind the forms. -/
theorem ofText_printed {depth : ℕ} (hback : Json.Format.ReadsBack depth) (hdepth : 3 ≤ depth)
    {text : String} (h : text ∈ printed t) : Json.Format.ofText text = .ok t.toJson := by
  have hnone : ∀ c ∈ "".toList, Json.isBlank c = true := List.forall_mem_nil _
  have hbreak : ∀ c ∈ "\n".toList, Json.isBlank c = true := List.forall_mem_singleton.2 rfl
  simp only [printed, List.mem_cons, List.not_mem_nil, or_false] at h
  rcases h with rfl | rfl | rfl | rfl
  · simpa using hback.compact t.legible_toJson hdepth hnone
  · simpa using hback.spread t.legible_toJson hdepth hnone
  · exact hback.compact t.legible_toJson hdepth hbreak
  · exact hback.spread t.legible_toJson hdepth hbreak

/-- **What is written of a sheet is read as the sheet.** -/
theorem sheetOfText_printed {depth : ℕ} (hback : Json.Format.ReadsBack depth) (hdepth : 3 ≤ depth)
    {text : String} (h : text ∈ printed t) : sheetOfText text = .ok t := by
  rw [sheetOfText, ofText_printed hback hdepth h]
  simp only [Sheet.ofJson_toJson]
  rfl

end Printing

section Running

variable [Pattern.Engine]

/-- A check of an input that is a sheet runs the query on the sheet. -/
theorem check_of_sheet [Json.Format] {input : String} (h : sheetOfText input = .ok t) (q : String) :
    check q (some input) false = runOn q t := by
  simp [check, h]

/-- **Running a query again changes nothing**, if it does not look at places. -/
theorem runOn_again (hq : Unicode.isBlank q = true ∨ ∃ T, Query.read q = .ok T ∧ T.Placeless)
    (h : runOn q t = .ok c) : ∃ u, c = .selected u ∧ runOn q u = .ok c := by
  rw [runOn] at h
  cases hs : Selection.ofText q t.header with
  | error e => simp [hs] at h
  | ok s =>
    obtain rfl : .selected (t.select s) = c := by simpa [hs] using h
    have hsteady := Selection.steady_ofText hq hs
    have hagain : (t.select s).select s = t.select s := by
      rw [Sheet.select, Sheet.select,
        hsteady.apply_apply (s := s) fun _ _ => (Bool.and_self _).symm]
    refine ⟨_, rfl, ?_⟩
    -- the sheet has the columns of the one before
    rw [runOn, show (t.select s).header = t.header from rfl, hs]
    simp only [hagain]

/-- A blank query selects the whole sheet. -/
theorem runOn_blank (hq : Unicode.isBlank q = true) (t : Sheet) :
    runOn q t = .ok (.selected t) := by
  have hs : Selection.ofText q t.header = .ok .everything := if_pos hq
  have hall : Selection.everything.apply t.rows = t.rows := by
    have hsteady : Selection.everything.Steady := fun _ _ _ => rfl
    rw [hsteady.apply_eq]
    exact List.filter_true _
  simp only [runOn, hs, Sheet.select, hall]

/-- **What a check writes is a fixed point of the check.** The value of a sheet
reads as the sheet. Let the format read back what it wrote of values in no more
than three containers. Take a query that is blank or does not refer to the place
of a row, and any input on which it runs. Then it runs on every text of what
it selects, and selects all of that; a blank query does so on the texts of
every sheet, with its absent names and cells, its rows of any length and its
repeated names. -/
theorem check_printed [Json.Format] {depth : ℕ} (hback : Json.Format.ReadsBack depth)
    (hdepth : 3 ≤ depth) :
    (∀ t : Sheet, Sheet.ofJson t.toJson = .ok t) ∧
    (∀ q, (Unicode.isBlank q = true ∨ ∃ T, Query.read q = .ok T ∧ T.Placeless) →
      ∀ input c, check q (some input) false = .ok c →
        ∃ t, c = .selected t ∧ ∀ text ∈ printed t, check q (some text) false = .ok c) ∧
    ∀ q, Unicode.isBlank q = true → ∀ t, ∀ text ∈ printed t,
      check q (some text) false = .ok (.selected t) := by
  refine ⟨Sheet.ofJson_toJson, ?_, ?_⟩
  · intro q hq input c hc
    cases ht : sheetOfText input with
    | error e => simp [check, ht] at hc
    | ok t =>
      rw [check_of_sheet ht] at hc
      obtain ⟨u, rfl, hagain⟩ := runOn_again hq hc
      refine ⟨u, rfl, ?_⟩
      intro text htext
      rw [check_of_sheet (sheetOfText_printed hback hdepth htext), hagain]
  · intro q hq t text htext
    rw [check_of_sheet (sheetOfText_printed hback hdepth htext), runOn_blank hq]

end Running

/-- The texts of a sheet with repeated and absent names and with rows of
several lengths. -/
theorem check_printed_ragged :
    let t : Sheet := ⟨[some "a", none, some "a"], [[some "1"], [], [none, some "\"2"]]⟩
    let u : Sheet := ⟨[some "a", none, some "a"], [[], [none, some "\"2"]]⟩
    Json.Format.ReadsBack Json.depthBound ∧ 3 ≤ Json.depthBound ∧
      check "$1 <> '1'" (some (Json.Format.compact t.toJson)) false = .ok (.selected u) ∧
      check "$1 <> '1'" (some (Json.Format.spread u.toJson)) false = .ok (.selected u) := by
  intro t u
  have hread : Query.read "$1 <> '1'" = .ok [[.comparison ⟨.index 1, .notEqual, .text "1"⟩]] := by
    cbv
  have hplaceless : Query.Tree.Placeless [[.comparison ⟨.index 1, .notEqual, .text "1"⟩]] := by
    have hrefs : Query.Tree.references [[.comparison ⟨.index 1, .notEqual, .text "1"⟩]] =
        [.index 1] := rfl
    rw [Query.Tree.Placeless, hrefs]
    decide
  have hrun : runOn "$1 <> '1'" t = .ok (.selected u) := by
    rw [runOn, Selection.ofText, Query.isBlank_of_read hread, hread]
    rfl
  have hback := Json.readsBack_builtin
  have hdepth : 3 ≤ Json.depthBound := by
    rw [Json.depthBound]
    omega
  have hfirst :
      check "$1 <> '1'" (some (Json.Format.compact t.toJson)) false = .ok (.selected u) := by
    rw [check_of_sheet (sheetOfText_printed (t := t) hback hdepth List.mem_cons_self), hrun]
  obtain ⟨v, hv, hagain⟩ :=
    (check_printed hback hdepth).2.1 _ (.inr ⟨_, hread, hplaceless⟩) _ _ hfirst
  obtain rfl : u = v := by simpa using hv
  exact ⟨hback, hdepth, hfirst, hagain _ (List.mem_cons_of_mem _ List.mem_cons_self)⟩

/-! ## Syntax -/

/-- A query is read if it is blank or has a tree, -/
theorem readOnly_eq_ok_iff :
    readOnly q = .ok c ↔
      c = .readable ∧ (Unicode.isBlank q = true ∨ ∃ T, Query.read q = .ok T) := by
  rw [readOnly]
  cases Unicode.isBlank q with
  | true => simp [eq_comm]
  | false => cases Query.read q <;> simp [eq_comm]

/-- and fails as the reading of a tree does otherwise. -/
theorem readOnly_eq_error_iff {e : Error} :
    readOnly q = .error e ↔ Unicode.isBlank q = false ∧
      ∃ why, Query.read q = .error why ∧ e = .query (.unreadable why) := by
  rw [readOnly]
  cases Unicode.isBlank q with
  | true => simp
  | false => cases Query.read q <;> simp [eq_comm]

/-- **Run on a sheet, a query is as unreadable as without one.** -/
theorem runOn_eq_unreadable_iff [Pattern.Engine] (q : String) (t : Sheet) (why : Query.ReadError) :
    runOn q t = .error (.query (.unreadable why)) ↔
      readOnly q = .error (.query (.unreadable why)) := by
  rw [runOn, readOnly, Selection.ofText]
  cases Unicode.isBlank q with
  | true => simp
  | false =>
    cases Query.read q with
    | error e => simp
    | ok T => cases hs : Selection.ofTree q T t.header <;> simp [Except.mapError, hs]

/-- **With an input and without one, the same is said of the syntax.** Without
an input a check succeeds exactly if the query is blank or can be read, and its
only error is why it cannot; no input changes that. With an input that is a
sheet the check fails in that way if and only if the one without an input does,
and gives the same reason. Under any header the selection is that of everything
exactly if a scanner finds no token, which it does exactly if nothing is left
of the text without the white space around it. An input that is missing, no
JSON text or no sheet is reported whatever the query is. -/
theorem check_syntax [Pattern.Engine] [Json.Format] (q : String) :
    (∀ input,
      (∀ c, check q input true = .ok c ↔
        c = .readable ∧ (Unicode.isBlank q = true ∨ ∃ T, Query.read q = .ok T)) ∧
      (∀ e, check q input true = .error e ↔ Unicode.isBlank q = false ∧
        ∃ why, Query.read q = .error why ∧ e = .query (.unreadable why)) ∧
      check q input true = check q none true) ∧
    (∀ input t, sheetOfText input = .ok t → ∀ why,
      check q (some input) false = .error (.query (.unreadable why)) ↔
        check q (some input) true = .error (.query (.unreadable why))) ∧
    ((∀ h, Selection.ofText q h = .ok .everything ↔
        (Query.Scanner.ofText q).next.1 = .ok .finish) ∧
      (Unicode.trimmed q = [] ↔ (Query.Scanner.ofText q).next.1 = .ok .finish) ∧
      ∀ h s, Selection.ofText q h = .ok s → Unicode.trimmed q ≠ [] → s.isEverything = false) ∧
    check q none false = .error .noInput ∧
    (∀ input why, Json.Format.ofText input = .error why →
      check q (some input) false = .error (.json why)) ∧
    ∀ input v d, Json.Format.ofText input = .ok v → Sheet.ofJson v = .error d →
      check q (some input) false = .error (.sheet d) := by
  have hfinish := Query.next_finish_iff q
  have htrimmed := Unicode.trimmed_eq_nil_iff q
  refine ⟨?_, ?_, ⟨?_, ?_, ?_⟩, rfl, ?_, ?_⟩
  · -- the input is not looked at
    intro input
    exact ⟨fun _ => readOnly_eq_ok_iff, fun _ => readOnly_eq_error_iff, rfl⟩
  · intro input t ht why
    rw [check_of_sheet ht]
    exact runOn_eq_unreadable_iff q t why
  · intro h
    rw [hfinish]
    exact ⟨fun hs => (Selection.isEverything_iff hs).1 rfl, fun hblank => if_pos hblank⟩
  · exact htrimmed.trans hfinish.symm
  · intro h s hs hne
    rw [← Bool.not_eq_true, Selection.isEverything_iff hs, ← htrimmed]
    exact hne
  · intro input why hwhy
    simp [check, sheetOfText, hwhy]
  · intro input v d hv hd
    simp [check, sheetOfText, hv, hd, Except.mapError]

end Command

end RowQuery
