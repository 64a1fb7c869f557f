import FileMode.Clause.Scan
import FileMode.Mode
import FileMode.Octal

/-!
# Reading a mode

A text that is an octal numeral in range is an absolute mode, **whatever else it might be**; any
other text is read as clauses. Reading fails only where a comma has to stand and something else
does, and the failure names that character and its position, counted in characters from zero.

A text of octal digits that is too large is no numeral, and as clauses it fails at its first
character.
-/

namespace FileMode

/-- The reason why a text is not a mode: a character that cannot stand where it does. -/
structure Unexpected where
  char : Char
  /-- The number of characters in front of it. -/
  position : Nat
deriving DecidableEq, Inhabited

/-- The reason in words. -/
def Unexpected.message (e : Unexpected) : String :=
  "unexpected character '" ++ String.singleton e.char ++ "' at position " ++ e.position.repr

/-- The scan after a text whose first character has the given position. -/
def Scan.feedAll (s : Scan) (position : Nat) : List Char → Except Unexpected Scan
  | [] => .ok s
  | c :: rest =>
    match s.feed? c with
    | some next => next.feedAll (position + 1) rest
    | none => .error ⟨c, position⟩

/-- The clauses of a text. -/
def Clause.readAll (text : List Char) : Except Unexpected (List Clause) :=
  (({} : Scan).feedAll 0 text).map Scan.finish

namespace Mode

/-- The mode that a text means, given one character after another. -/
def ofChars (text : List Char) : Except Unexpected Mode :=
  match Octal.read? text with
  | some n => .ok (.absolute n)
  | none => (Clause.readAll text).map .symbolic

/-- The mode that a text means. -/
def parse (text : String) : Except Unexpected Mode := ofChars text.toList

end Mode

/-- A text is fed as its parts are, one after the other. -/
theorem Scan.feedAll_append (s : Scan) (position : Nat) (first second : List Char) :
    s.feedAll position (first ++ second) =
      (s.feedAll position first).bind fun t => t.feedAll (position + first.length) second := by
  induction first generalizing s position with
  | nil => rfl
  | cons c rest ih =>
    simp only [List.cons_append, feedAll, List.length_cons]
    cases s.feed? c with
    | none => rfl
    | some next => rw [Nat.add_comm rest.length 1, ← Nat.add_assoc]; exact ih next (position + 1)

/-- A failure names a character of the text, at the position where it stands. -/
theorem Scan.getElem?_of_feedAll_error {s : Scan} {position : Nat} {text : List Char}
    {e : Unexpected} (h : s.feedAll position text = .error e) :
    ∃ i, e.position = position + i ∧ text[i]? = some e.char := by
  induction text generalizing s position with
  | nil => cases h
  | cons c rest ih =>
    unfold feedAll at h
    split at h
    · obtain ⟨i, hi, hc⟩ := ih h
      exact ⟨i + 1, by omega, by simpa using hc⟩
    · cases h
      exact ⟨0, rfl, rfl⟩

end FileMode
