import Mathlib
import RowQuery.Json.Builtin
import RowQuery.Proofs.Order
/-!
# Writing and reading JSON

What was written is read back. A string is read piece by piece, each piece
of it from the form of one character (`Json.string?_text`). The compact and
the spread form of a value differ in the blanks around the parts of its
containers only, so both are a `Json.Form`, and what a reader makes of a form
does not depend on which it is: where a value may follow, it takes the form
of the value and goes on behind it (`Json.Form.readValue_text`). Left out are
numbers, whose doubles are no matter of texts.
-/

namespace RowQuery

namespace Json

/-! ## Reading back -/

/-- Values that are neither containers nor numbers. -/
inductive Word : Json → Prop
  /-- The absent value. -/
  | null : Word .null
  /-- A truth value. -/
  | bool (b : Bool) : Word (.bool b)
  /-- A text. -/
  | string (s : String) : Word (.string s)

/-- **Values that are read back**: there are no numbers in them, the keys of
their objects are in order, and their containers are nested at most so
deep. -/
inductive Legible : ℕ → Json → Prop
  /-- A word. -/
  | word {n : ℕ} {v : Json} : Word v → Legible n v
  /-- An array of such values. -/
  | array {n : ℕ} {items : List Json} :
      (∀ v ∈ items, Legible n v) → Legible (n + 1) (.array items)
  /-- An object of such values. -/
  | object {n : ℕ} {members : List (String × Json)} :
      (members.map Prod.fst).Pairwise (·.toList < ·.toList) →
      (∀ m ∈ members, Legible n m.2) → Legible (n + 1) (.object members)

/-- **What was written is read back** by a format, where containers are nested
at most so deep: each of the two texts of a value reads as the value, with any
blanks behind it. -/
structure Format.ReadsBack [Format] (depth : ℕ) : Prop where
  /-- The text on one line is read back, -/
  compact {n : ℕ} {v : Json} {behind : String} : Legible n v → n ≤ depth →
    (∀ c ∈ behind.toList, isBlank c = true) →
    Format.ofText (Format.compact v ++ behind) = .ok v
  /-- and so is the one on several lines. -/
  spread {n : ℕ} {v : Json} {behind : String} : Legible n v → n ≤ depth →
    (∀ c ∈ behind.toList, isBlank c = true) →
    Format.ofText (Format.spread v ++ behind) = .ok v

/-! ## Strings -/

/-- A piece that a character is read back from: the character itself, or the code unit of a
control character. -/
inductive Piece.Spells : Piece → Char → Prop
  /-- The character. -/
  | char (c : Char) : Spells (.char c) c
  /-- Its code unit, which is no half of a pair. -/
  | unit {c : Char} : c.toNat < 0x20 → Spells (.unit c.toNat) c

theorem hexDigit?_digitChar : ∀ n < 16, Text.hexDigit? (Nat.digitChar n) = some n := by
  decide

/-- The code unit that an escape of a control character names. -/
theorem codeUnit?_digits {n : ℕ} (h : n < 0x20) :
    codeUnit? '0' '0' (Nat.digitChar (n / 16)) (Nat.digitChar (n % 16)) = some n := by
  have hzero : Text.hexDigit? '0' = some 0 := rfl
  rw [codeUnit?, hexDigit?_digitChar _ (by omega), hexDigit?_digitChar _ (by omega), hzero]
  exact congrArg some (by omega)

/-- The form of a character is one piece, which spells the character. -/
theorem exists_pieces_charText (c : Char) :
    ∃ p, Piece.Spells p c ∧ ∀ text,
      pieces (charText c ++ text) = (pieces text).map fun a => (p :: a.1, a.2) := by
  unfold charText
  split
  case h_8 hquote hslash _ _ _ _ _ =>
    split
    · next hlt =>
      refine ⟨_, .unit hlt, fun text => ?_⟩
      simp [pieces, codeUnit?_digits hlt]
    · next hge =>
      refine ⟨_, .char c, fun text => ?_⟩
      rw [List.singleton_append, pieces, if_neg (not_or.2 ⟨hge, hslash⟩)]
      · exact hquote
      · exact fun _ _ _ _ _ h _ => hslash h
      · exact fun _ _ h _ => hslash h
  all_goals exact ⟨_, .char _, fun text => by simp [pieces, letterEscape?]⟩

/-- A piece that spells a character is assembled as it, whatever follows. -/
theorem assemble_cons {p : Piece} {c : Char} (h : p.Spells c) (ps : List Piece) :
    assemble (p :: ps) = (assemble ps).map (c :: ·) := by
  cases h with
  | char => rfl
  | unit hlt =>
    have hleading : isLeading c.toNat = false := by
      simp [isLeading]
      omega
    have htrailing : isTrailing c.toNat = false := by
      simp [isTrailing]
      omega
    rcases ps with - | ⟨_ | _, ps⟩ <;> simp [assemble, hleading, htrailing]

/-- **A string is read back** from behind its opening quote. -/
theorem string?_text (cs : List Char) (rest : List Char) :
    string? (cs.flatMap charText ++ '"' :: rest) = .ok (String.ofList cs, rest) := by
  have hpieces : ∃ ps, pieces (cs.flatMap charText ++ '"' :: rest) = .ok (ps, rest) ∧
      assemble ps = some cs := by
    induction cs with
    | nil => exact ⟨[], rfl, rfl⟩
    | cons c cs ih =>
      obtain ⟨ps, hps, hcs⟩ := ih
      obtain ⟨p, hp, hread⟩ := exists_pieces_charText c
      refine ⟨p :: ps, ?_, by rw [assemble_cons hp, hcs]; rfl⟩
      rw [List.flatMap_cons, List.append_assoc, hread, hps]
      rfl
  obtain ⟨ps, hps, hcs⟩ := hpieces
  rw [string?, hps]
  simp only [hcs]

/-! ## The reader, step by step -/

/-- Reading a value, told without the evidence that it ends. -/
theorem readValue_eq (outer : List Opened) (text : List Char) :
    readValue outer text =
      match skip text with
      | '[' :: inner =>
        if depthBound ≤ outer.length then .error .tooDeep
        else match skip inner with
          | ']' :: rest => readOn outer (.array []) rest
          | rest => readValue (.array [] :: outer) rest
      | '\x7b' :: inner =>
        if depthBound ≤ outer.length then .error .tooDeep
        else match skip inner with
          | '\x7d' :: rest => readOn outer (.object []) rest
          | member => (key? member).bind fun a => readValue (.object [] a.1 :: outer) a.2
      | word => (scalar? word).bind fun a => readOn outer a.1 a.2 := by
  rw [readValue.eq_def]
  split
  · next inner h =>
    simp only [h]
    refine if_congr Iff.rfl rfl ?_
    split
    · next h' => simp only [h']
    · next hne =>
      split
      · next h' => exact absurd h' (hne _)
      · rfl
  · next inner h =>
    simp only [h]
    refine if_congr Iff.rfl rfl ?_
    split
    · next h' => simp only [h']
    · next hne =>
      split <;> split
      · next h' => exact absurd h' (hne _)
      · next hk _ _ => rw [hk]; rfl
      · next h' => exact absurd h' (hne _)
      · next hk _ _ => rw [hk]; rfl
  · next hbracket hbrace =>
    split <;> split
    · next h => exact absurd h (hbracket _)
    · next h => exact absurd h (hbrace _)
    · next hs _ _ _ => rw [hs]; rfl
    · next h => exact absurd h (hbracket _)
    · next h => exact absurd h (hbrace _)
    · next hs _ _ _ => simp only [hs]; rfl

theorem readOn_eq (outer : List Opened) (v : Json) (text : List Char) :
    readOn outer v text =
      match outer, skip text with
      | [], [] => .ok v
      | [], c :: _ => .error (.unexpected c)
      | _ :: _, [] => .error .unfinished
      | .array items :: outer, c :: rest =>
        if c = ',' then readValue (.array (v :: items) :: outer) rest
        else if c = ']' then readOn outer (.array (v :: items).reverse) rest
        else .error (.unexpected c)
      | .object members key :: outer, c :: rest =>
        if c = ',' then
          (key? rest).bind fun a => readValue (.object (insert key v members) a.1 :: outer) a.2
        else if c = '\x7d' then readOn outer (.object (insert key v members)) rest
        else .error (.unexpected c) := by
  rw [readOn.eq_def]
  split
  case h_5 h =>
    simp only [h]
    refine if_congr Iff.rfl ?_ rfl
    split <;> (next hk => rw [hk]; rfl)
  all_goals
    next h => simp only [h]

variable {text rest gap : List Char} {outer : List Opened} {v : Json} {items : List Json}
variable {members : List (String × Json)} {key : String}

/-- Blanks are passed over. -/
theorem skip_append (hgap : ∀ c ∈ gap, isBlank c = true) (text : List Char) :
    skip (gap ++ text) = skip text :=
  List.dropWhile_append_of_pos hgap

theorem skip_skip (text : List Char) : skip (skip text) = skip text :=
  List.dropWhile_idempotent _ _

/-- A value may follow behind blanks. -/
theorem readValue_skip (outer : List Opened) (text : List Char) :
    readValue outer (skip text) = readValue outer text := by
  rw [readValue_eq, skip_skip, ← readValue_eq]

theorem readValue_append (hgap : ∀ c ∈ gap, isBlank c = true) (text : List Char) :
    readValue outer (gap ++ text) = readValue outer text := by
  rw [← readValue_skip, skip_append hgap, readValue_skip]

/-- So may a key, -/
theorem key?_skip (text : List Char) : key? (skip text) = key? text := by
  rw [key?, skip_skip, ← key?]

/-- and what stands behind a value. -/
theorem readOn_append (hgap : ∀ c ∈ gap, isBlank c = true) (text : List Char) :
    readOn outer v (gap ++ text) = readOn outer v text := by
  rw [readOn_eq, skip_append hgap, ← readOn_eq]

/-- An opening bracket asks for a value, unless it is closed at once, -/
theorem readValue_bracket (hroom : outer.length < depthBound)
    (hhead : (skip text).head? ≠ some ']') :
    readValue outer ('[' :: text) = readValue (.array [] :: outer) text := by
  rw [readValue_eq]
  change (if depthBound ≤ outer.length then _ else _) = _
  rw [if_neg (Nat.not_le.2 hroom), ← readValue_skip]
  split
  · next h => exact absurd (congrArg List.head? h) hhead
  · rfl

/-- and an opening brace asks for a key. -/
theorem readValue_brace (hroom : outer.length < depthBound)
    (hhead : (skip text).head? ≠ some '\x7d') :
    readValue outer ('\x7b' :: text) =
      (key? text).bind fun a => readValue (.object [] a.1 :: outer) a.2 := by
  rw [readValue_eq]
  change (if depthBound ≤ outer.length then _ else _) = _
  rw [if_neg (Nat.not_le.2 hroom), ← key?_skip]
  split
  · next h => exact absurd (congrArg List.head? h) hhead
  · rfl

/-- What is closed at once is empty. -/
theorem readValue_empty (hroom : outer.length < depthBound) (rest : List Char) :
    readValue outer ('[' :: ']' :: rest) = readOn outer (.array []) rest ∧
      readValue outer ('\x7b' :: '\x7d' :: rest) = readOn outer (.object []) rest := by
  constructor <;> rw [readValue_eq]
  · exact if_neg (Nat.not_le.2 hroom)
  · exact if_neg (Nat.not_le.2 hroom)

/-- A comma behind a value of an array asks for a further one, -/
theorem readOn_comma :
    readOn (.array items :: outer) v (',' :: rest) =
      readValue (.array (v :: items) :: outer) rest := by
  rw [readOn_eq]
  rfl

/-- and a bracket closes the array. -/
theorem readOn_bracket :
    readOn (.array items :: outer) v (']' :: rest) =
      readOn outer (.array (v :: items).reverse) rest := by
  rw [readOn_eq]
  rfl

/-- A comma behind a member of an object asks for a further key, -/
theorem readOn_member :
    readOn (.object members key :: outer) v (',' :: rest) =
      (key? rest).bind fun a => readValue (.object (insert key v members) a.1 :: outer) a.2 := by
  rw [readOn_eq]
  rfl

/-- and a brace closes the object. -/
theorem readOn_brace :
    readOn (.object members key :: outer) v ('\x7d' :: rest) =
      readOn outer (.object (insert key v members)) rest := by
  rw [readOn_eq]
  rfl

/-- A key is read back with the colon behind it. -/
theorem key?_text (hgap : ∀ c ∈ gap, isBlank c = true) (key : String) (rest : List Char) :
    key? (gap ++ (stringText key ++ ':' :: rest)) = .ok (key, rest) := by
  have hquote : skip (stringText key ++ ':' :: rest) =
      '"' :: (key.toList.flatMap charText ++ '"' :: ':' :: rest) := by
    rw [stringText, List.cons_append, List.append_assoc]
    rfl
  have hcolon : skip (':' :: rest) = ':' :: rest := rfl
  rw [key?, skip_append hgap, hquote]
  simp only [string?_text, hcolon, String.ofList_toList]

/-- **A word is read back.** -/
theorem Word.readValue_text (hv : Word v) (outer : List Opened) (rest : List Char) :
    readValue outer (scalarText v ++ rest) = readOn outer v rest := by
  rw [readValue_eq]
  cases hv with
  | null => rfl
  | bool b => cases b <;> rfl
  | string s =>
    have hquote : skip (scalarText (.string s) ++ rest) =
        '"' :: (s.toList.flatMap charText ++ '"' :: rest) := by
      rw [scalarText, stringText, List.cons_append, List.append_assoc]
      rfl
    have hread : scalar? ('"' :: (s.toList.flatMap charText ++ '"' :: rest)) =
        .ok (.string s, rest) := by
      rw [scalar?, string?_text, String.ofList_toList]
      rfl
    rw [hquote]
    change (scalar? _).bind _ = _
    rw [hread]
    rfl

/-- A key that comes behind all others is inserted as the last one. -/
theorem insert_of_lt (h : ∀ k ∈ members.map Prod.fst, k.toList < key.toList) :
    insert key v members = members ++ [(key, v)] := by
  induction members with
  | nil => rfl
  | cons m members ih =>
    obtain ⟨hlt, hrest⟩ := List.forall_mem_cons.1 h
    rw [insert, Text.order_eq_gt.2 hlt, ih hrest]
    rfl

/-! ## Forms of values -/

/-- The form of a member, of the form of its value. -/
def memberText (behindColon : List Char) (text : Json → List Char) (m : String × Json) :
    List Char :=
  stringText m.1 ++ ':' :: (behindColon ++ text m.2)

/-- The form of a container at a level, of the forms of its parts: there are
blanks before each of them and before the closing bracket, unless there are
no parts. -/
def containerText (gap : ℕ → List Char) (level : ℕ) (opening closing : Char)
    (parts : List (List Char)) : List Char :=
  opening :: (commaSeparated (parts.map (gap (level + 1) ++ ·)) ++
    ((if parts = [] then [] else gap level) ++ [closing]))

/-- **A way to write values**, which may differ from others in blanks. -/
structure Form where
  /-- The form of a value at a level. -/
  text : ℕ → Json → List Char
  /-- What stands before the parts of a container at a level. -/
  gap : ℕ → List Char
  /-- What stands between the colon and the value of a member. -/
  behindColon : List Char
  /-- Both are blanks. -/
  blank_gap : ∀ level, ∀ c ∈ gap level, isBlank c = true
  blank_behindColon : ∀ c ∈ behindColon, isBlank c = true
  /-- Words have one form only. -/
  text_word : ∀ level v, Word v → text level v = scalarText v
  /-- Arrays are written by their values, -/
  text_array : ∀ level items, text level (.array items) =
    containerText gap level '[' ']' (items.map (text (level + 1)))
  /-- and objects by their members. -/
  text_object : ∀ level members, text level (.object members) =
    containerText gap level '\x7b' '\x7d' (members.map (memberText behindColon (text (level + 1))))

theorem compactItems_eq (items : List Json) : compactItems items = items.map compactText := by
  induction items with
  | nil => rfl
  | cons v items ih => rw [compactItems, ih, List.map_cons]

theorem compactMembers_eq (members : List (String × Json)) :
    compactMembers members = members.map (memberText [] compactText) := by
  induction members with
  | nil => rfl
  | cons m members ih =>
    rw [compactMembers, ih]
    rfl

theorem spreadItems_eq (level : ℕ) (items : List Json) :
    spreadItems level items = items.map (spreadText (level + 1)) := by
  induction items with
  | nil => rfl
  | cons v items ih => rw [spreadItems, ih, List.map_cons]

theorem spreadMembers_eq (level : ℕ) (members : List (String × Json)) :
    spreadMembers level members = members.map (memberText [' '] (spreadText (level + 1))) := by
  induction members with
  | nil => rfl
  | cons m members ih =>
    rw [spreadMembers, ih]
    rfl

theorem commaSeparated_cons_cons (t u : List Char) (ts : List (List Char)) :
    commaSeparated (t :: u :: ts) = t ++ ',' :: commaSeparated (u :: ts) := rfl

theorem exists_commaSeparated (t : List Char) (ts : List (List Char)) :
    ∃ more, commaSeparated (t :: ts) = t ++ more := by
  cases ts with
  | nil => exact ⟨[], (List.append_nil t).symm⟩
  | cons u ts => exact ⟨_, commaSeparated_cons_cons t u ts⟩

/-- Without gaps the parts of a container are separated by commas only. -/
theorem containerText_nil (level : ℕ) (opening closing : Char) (parts : List (List Char)) :
    containerText (fun _ => []) level opening closing parts =
      opening :: (commaSeparated parts ++ [closing]) := by
  simp [containerText]

theorem spreadLines_eq (level : ℕ) (opening closing : Char) (lines : List (List Char)) :
    spreadLines level opening closing lines =
      containerText newLine level opening closing lines := by
  rcases lines with - | ⟨l, lines⟩ <;> simp [spreadLines, containerText, commaSeparated]

namespace Form

/-- The form without blanks. -/
def compact : Form where
  text _ := compactText
  gap _ := []
  behindColon := []
  blank_gap _ := List.forall_mem_nil _
  blank_behindColon := List.forall_mem_nil _
  text_word _ v hv := by cases hv <;> rw [compactText] <;> nofun
  text_array level items := by rw [compactText, compactItems_eq, containerText_nil]
  text_object level members := by rw [compactText, compactMembers_eq, containerText_nil]

/-- The form with a line for each part of a container. -/
def spread : Form where
  text := spreadText
  gap := newLine
  behindColon := [' ']
  blank_gap level := by
    rw [newLine, List.forall_mem_cons]
    refine ⟨rfl, fun c hc => ?_⟩
    rw [List.eq_of_mem_replicate hc]
    rfl
  blank_behindColon := by simp [isBlank]
  text_word _ v hv := by cases hv <;> rw [spreadText] <;> nofun
  text_array level items := by rw [spreadText, spreadItems_eq, spreadLines_eq]
  text_object level members := by rw [spreadText, spreadMembers_eq, spreadLines_eq]

variable (F : Form)

/-- The form of a member. -/
def member (level : ℕ) : String × Json → List Char :=
  memberText F.behindColon (F.text level)

/-- **The values of an array are read back** with the bracket behind them, if
each of them is. The induction is on the values, of which there is one at
least. -/
theorem readValue_items {level : ℕ} (hgap : ∀ c ∈ gap, isBlank c = true) (hne : items ≠ [])
    (hread : ∀ v ∈ items, ∀ before rest,
      readValue (.array before :: outer) (F.text level v ++ rest) =
        readOn (.array before :: outer) v rest)
    (before : List Json) (rest : List Char) :
    readValue (.array before :: outer)
        (commaSeparated (items.map fun v => F.gap level ++ F.text level v) ++
          (gap ++ ']' :: rest)) =
      readOn outer (.array (before.reverse ++ items)) rest := by
  induction items generalizing before with
  | nil => exact absurd rfl hne
  | cons v items ih =>
    obtain ⟨hv, hitems⟩ := List.forall_mem_cons.1 hread
    cases items with
    | nil =>
      rw [List.map_singleton, commaSeparated, List.append_assoc,
        readValue_append (F.blank_gap level), hv, readOn_append hgap, readOn_bracket]
      simp
    | cons w items =>
      have hnext := ih (List.cons_ne_nil w items) hitems (v :: before)
      rw [List.map_cons] at hnext
      rw [List.map_cons, List.map_cons, commaSeparated_cons_cons, List.append_assoc,
        List.append_assoc, List.cons_append, readValue_append (F.blank_gap level), hv,
        readOn_comma, hnext]
      simp

/-- The key of a member is read back, and its value follows. -/
theorem key?_member (level : ℕ) (m : String × Json) (rest : List Char) :
    ((key? (F.gap level ++ (F.member level m ++ rest))).bind
        fun a => readValue (.object members a.1 :: outer) a.2) =
      readValue (.object members m.1 :: outer) (F.text level m.2 ++ rest) := by
  rw [member, memberText, List.append_assoc, List.cons_append, key?_text (F.blank_gap level),
    List.append_assoc]
  exact readValue_append F.blank_behindColon _

/-- **So are the members of an object**, if their keys are in order. -/
theorem key?_members {level : ℕ} (hgap : ∀ c ∈ gap, isBlank c = true) (hne : members ≠ [])
    (hread : ∀ m ∈ members, ∀ before rest,
      readValue (.object before m.1 :: outer) (F.text level m.2 ++ rest) =
        readOn (.object before m.1 :: outer) m.2 rest)
    (before : List (String × Json))
    (hsorted : ((before ++ members).map Prod.fst).Pairwise (·.toList < ·.toList))
    (rest : List Char) :
    ((key? (commaSeparated (members.map fun m => F.gap level ++ F.member level m) ++
          (gap ++ '\x7d' :: rest))).bind
        fun a => readValue (.object before a.1 :: outer) a.2) =
      readOn outer (.object (before ++ members)) rest := by
  induction members generalizing before with
  | nil => exact absurd rfl hne
  | cons m members ih =>
    obtain ⟨key, v⟩ := m
    obtain ⟨hv, hmembers⟩ := List.forall_mem_cons.1 hread
    have hlast : ∀ k ∈ before.map Prod.fst, k.toList < key.toList := by
      rw [List.map_append, List.pairwise_append] at hsorted
      exact fun k hk => hsorted.2.2 k hk key List.mem_cons_self
    have hinsert : insert key v before = before ++ [(key, v)] := insert_of_lt hlast
    cases members with
    | nil =>
      rw [List.map_singleton, commaSeparated, List.append_assoc, key?_member, hv,
        readOn_append hgap, readOn_brace, hinsert]
    | cons w members =>
      have hnext := ih (List.cons_ne_nil w members) hmembers (before ++ [(key, v)])
        (by simpa using hsorted)
      rw [List.map_cons] at hnext
      rw [List.map_cons, List.map_cons, commaSeparated_cons_cons, List.append_assoc,
        List.append_assoc, List.cons_append, key?_member, hv, readOn_member, hinsert, hnext]
      simp

/-- No form starts with a blank or with a closing bracket. -/
theorem head?_skip_text {n : ℕ} {v : Json} (hv : Legible n v) (level : ℕ) (rest : List Char) :
    (skip (F.text level v ++ rest)).head? ≠ some ']' := by
  cases hv with
  | word hword =>
    rw [F.text_word level v hword]
    cases hword with
    | bool b => cases b <;> simp [scalarText, skip, isBlank]
    | null | string => simp [scalarText, stringText, skip, isBlank]
  | array => simp [F.text_array, containerText, skip, isBlank]
  | object => simp [F.text_object, containerText, skip, isBlank]

/-- **A value is read back from any of its forms**, within containers that
leave room for its own, and the reader goes on behind it. The induction is on
the value. -/
theorem readValue_text {n : ℕ} {v : Json} (hv : Legible n v) (level : ℕ) {outer : List Opened}
    (hroom : n + outer.length ≤ depthBound) (rest : List Char) :
    readValue outer (F.text level v ++ rest) = readOn outer v rest := by
  induction hv generalizing level outer rest with
  | word hword => rw [F.text_word level _ hword, hword.readValue_text]
  | @array n items hitems ih =>
    have hlt : outer.length < depthBound := by omega
    rw [F.text_array]
    rcases items with - | ⟨v, items⟩
    · exact (readValue_empty hlt rest).1
    · have hshape : containerText F.gap level '[' ']' ((v :: items).map (F.text (level + 1))) ++
          rest = '[' :: (commaSeparated ((v :: items).map fun w =>
            F.gap (level + 1) ++ F.text (level + 1) w) ++ (F.gap level ++ ']' :: rest)) := by
        simp [containerText, Function.comp_def]
      have hitem : ∀ w ∈ v :: items, ∀ before rest,
          readValue (.array before :: outer) (F.text (level + 1) w ++ rest) =
            readOn (.array before :: outer) w rest := fun w hw before rest =>
        ih w hw (level + 1) (by rw [List.length_cons]; omega) rest
      have hread := F.readValue_items (F.blank_gap level) (List.cons_ne_nil v items) hitem [] rest
      rw [hshape, readValue_bracket hlt, hread]
      · rfl
      · -- the first value stands behind the bracket
        obtain ⟨more, hmore⟩ := exists_commaSeparated
          (F.gap (level + 1) ++ F.text (level + 1) v)
          (items.map fun w => F.gap (level + 1) ++ F.text (level + 1) w)
        rw [List.map_cons, hmore, List.append_assoc, List.append_assoc,
          skip_append (F.blank_gap (level + 1))]
        exact F.head?_skip_text (hitems v List.mem_cons_self) (level + 1) _
  | @object n members hsorted _ ih =>
    have hlt : outer.length < depthBound := by omega
    rw [F.text_object]
    rcases members with - | ⟨m, members⟩
    · exact (readValue_empty hlt rest).2
    · have hshape : containerText F.gap level '\x7b' '\x7d'
          ((m :: members).map (memberText F.behindColon (F.text (level + 1)))) ++ rest =
          '\x7b' :: (commaSeparated ((m :: members).map fun w =>
            F.gap (level + 1) ++ F.member (level + 1) w) ++ (F.gap level ++ '\x7d' :: rest)) := by
        simp [containerText, member, Function.comp_def]
      have hmember : ∀ w ∈ m :: members, ∀ before rest,
          readValue (.object before w.1 :: outer) (F.text (level + 1) w.2 ++ rest) =
            readOn (.object before w.1 :: outer) w.2 rest := fun w hw before rest =>
        ih w hw (level + 1) (by rw [List.length_cons]; omega) rest
      have hread := F.key?_members (F.blank_gap level) (List.cons_ne_nil m members) hmember []
        hsorted rest
      rw [hshape, readValue_brace hlt, hread]
      · rfl
      · -- the first key stands behind the brace
        obtain ⟨more, hmore⟩ := exists_commaSeparated
          (F.gap (level + 1) ++ F.member (level + 1) m)
          (members.map fun w => F.gap (level + 1) ++ F.member (level + 1) w)
        rw [List.map_cons, hmore, List.append_assoc, List.append_assoc,
          skip_append (F.blank_gap (level + 1))]
        simp [member, memberText, stringText, skip, isBlank]

/-- **Reading undoes writing**, with any blanks behind the value. -/
theorem ofText_text {n : ℕ} {v : Json} (hv : Legible n v) (hn : n ≤ depthBound)
    {behind : List Char} (hblank : ∀ c ∈ behind, isBlank c = true) {s : String}
    (hs : s.toList = F.text 0 v ++ behind) : ofText s = .ok v := by
  have hroom : n + ([] : List Opened).length ≤ depthBound := hn
  have hend : skip behind = [] := List.dropWhile_eq_nil_iff.2 hblank
  rw [ofText, hs, F.readValue_text hv 0 hroom, readOn_eq, hend]

end Form

/-- **The format that is built in reads back what it wrote.** -/
theorem readsBack_builtin : Format.ReadsBack depthBound where
  compact {n v behind} hv hn hblank := by
    have htext : (compact v ++ behind).toList = Form.compact.text 0 v ++ behind.toList := by
      simp [compact, Form.compact]
    exact congrArg (Except.mapError Defect.describe) (Form.compact.ofText_text hv hn hblank htext)
  spread {n v behind} hv hn hblank := by
    have htext : (spread v ++ behind).toList = Form.spread.text 0 v ++ behind.toList := by
      simp [spread, Form.spread]
    exact congrArg (Except.mapError Defect.describe) (Form.spread.ofText_text hv hn hblank htext)

end Json

end RowQuery
