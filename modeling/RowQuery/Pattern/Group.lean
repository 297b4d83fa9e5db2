import RowQuery.Pattern.Escape
import RowQuery.Unicode.Letter
/-!
# Heads of groups

What stands behind an opening parenthesis: nothing, for a numbered group; a
name; or flags, for the group that a colon opens, or for the rest of the
group around when a parenthesis follows at once.
-/

namespace RowQuery

namespace Pattern

/-- What an opening parenthesis opens. -/
inductive GroupHead
  /-- A numbered group. -/
  | numbered
  /-- A numbered group with a name. -/
  | named (name : String)
  /-- A group with flags of its own. -/
  | flagged (f : Flags)
  /-- No group: flags for what follows. -/
  | directive (f : Flags)

namespace GroupHead

/-- Whether the name of a group can start with the character. -/
def startsName (c : Char) : Bool :=
  c = '_' || Unicode.isAlphabetic c

/-- Whether the name of a group can go on with the character. -/
def continuesName (c : Char) : Bool :=
  c = '_' || c = '.' || c = '[' || c = ']' || Unicode.isAlphanumeric c

/-- Reads the name of a group up to the angle bracket behind it. -/
def name (text : List Char) : Reading GroupHead :=
  match text with
  | [] => .error .groupName
  | c :: rest =>
    if startsName c then
      match rest.dropWhile continuesName with
      | '>' :: behind =>
        .ok (.named (String.ofList (c :: rest.takeWhile continuesName)), behind)
      | _ => .error .groupName
    else .error .groupName

/-- Reads flags, and the sign behind them. A directive without flags is
taken for a repetition of nothing. -/
def flags (f : Flags) (text : List Char) : Reading GroupHead :=
  match f.readList [] true false text with
  | .error e => .error e
  | .ok (g, _, ':' :: rest) => .ok (.flagged g, rest)
  | .ok (_, [], _ :: _) => .error .nothingToRepeat
  | .ok (g, _, _ :: rest) => .ok (.directive g, rest)
  | .ok (_, _, []) => .error .unknownFlag

/-- Reads what follows an opening parenthesis. -/
def read (f : Flags) (text : List Char) : Reading GroupHead :=
  match f.skip text with
  | '?' :: '=' :: _ | '?' :: '!' :: _ => .error .lookAround
  | '?' :: '<' :: '=' :: _ | '?' :: '<' :: '!' :: _ => .error .lookAround
  | '?' :: 'P' :: '<' :: rest => name rest
  | '?' :: '<' :: rest => name rest
  | '?' :: rest => flags f rest
  | rest => .ok (.numbered, rest)

section Length

variable {f : Flags} {text rest : List Char} {g : GroupHead}

theorem length_name (h : name text = .ok (g, rest)) : rest.length ≤ text.length := by
  unfold name at h
  split at h
  · simp at h
  · next tail =>
    have hdrop := (List.dropWhile_sublist continuesName (l := tail)).length_le
    split at h
    · split at h
      · next behind heq =>
        cases h
        simp only [heq, List.length_cons] at hdrop ⊢
        omega
      · cases h
    · cases h

theorem length_flags (h : flags f text = .ok (g, rest)) : rest.length ≤ text.length := by
  unfold flags at h
  split at h
  · cases h
  · next hr =>
    cases h
    exact Nat.le_of_succ_le (Flags.length_readList hr)
  · cases h
  · next hr =>
    cases h
    exact Nat.le_of_succ_le (Flags.length_readList hr)
  · cases h

/-- The head of a group leaves a part of the text. -/
theorem length_read (h : read f text = .ok (g, rest)) : rest.length ≤ text.length := by
  have hskip := f.length_skip_le text
  unfold read at h
  split at h
  case h_1 | h_2 | h_3 | h_4 => cases h
  case h_5 heq =>
    have hname := length_name h
    simp only [heq, List.length_cons] at hskip
    omega
  case h_6 heq =>
    have hname := length_name h
    simp only [heq, List.length_cons] at hskip
    omega
  case h_7 heq =>
    have hflags := length_flags h
    simp only [heq, List.length_cons] at hskip
    omega
  case h_8 =>
    cases h
    exact hskip

end Length

end GroupHead

end Pattern

end RowQuery
