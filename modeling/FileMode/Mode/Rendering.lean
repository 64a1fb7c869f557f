import FileMode.Mode
import FileMode.Octal

/-!
# The canonical text of a mode

An absolute mode is written as an octal numeral of width four or more, a symbolic one as its
clauses with a comma between them. A clause is the letters of its subjects followed by its actions;
an action is its symbol, the letters of the subjects that it copies from, and the letters of the
permissions that it spells out.

Every mode has a text, also one that no text reads as: a clause that says nothing is written as no
characters at all, and a mixed action with the copied letters first. **No claim is made here that
the text reads back.**
-/

namespace FileMode

/-- The text of an action, one character after another. -/
def Action.chars (a : Action) : List Char :=
  a.operator.symbol :: (a.copies.letters ++ a.permissions.letters)

/-- The text of an action. -/
def Action.render (a : Action) : String := String.ofList a.chars

/-- The text of a clause, one character after another. -/
def Clause.chars (c : Clause) : List Char := c.subjects.letters ++ c.actions.flatMap Action.chars

/-- The text of a clause. -/
def Clause.render (c : Clause) : String := String.ofList c.chars

namespace Mode

/-- The least width of an absolute mode: a digit for the special bits and one for each subject. -/
def width : Nat := 4

/-- The text of a mode, one character after another. -/
def chars : Mode → List Char
  | absolute n => Octal.render width n
  | symbolic cs => [','].intercalate (cs.map Clause.chars)

/-- The text of a mode. -/
def render (m : Mode) : String := String.ofList m.chars

/-- The word for a mode's kind, followed by its text. -/
def describe : Mode → String
  | absolute n => "absolute " ++ (absolute n).render
  | symbolic cs => "symbolic " ++ (symbolic cs).render

end Mode

/-- The mark of an action does not show in its text. -/
@[simp] theorem Action.chars_plain (a : Action) : a.plain.chars = a.chars := rfl

/-- The marks of a clause do not show in its text. -/
@[simp] theorem Clause.chars_plain (c : Clause) : c.plain.chars = c.chars := by
  simp [Clause.chars, Clause.plain, List.flatMap_map]

/-- The marks of a mode do not show in its text. -/
@[simp] theorem Mode.chars_plain (m : Mode) : m.plain.chars = m.chars := by
  cases m with
  | absolute n => rfl
  | symbolic cs =>
    simp only [Mode.plain, Mode.chars, List.map_map]
    congr 2
    funext c
    exact Clause.chars_plain c

/-- The text of a clause stands in front of that of the others, with a comma between them. -/
theorem Mode.chars_symbolic_cons (c : Clause) {rest : List Clause} (h : rest ≠ []) :
    (symbolic (c :: rest)).chars = c.chars ++ ',' :: (symbolic rest).chars := by
  rw [chars, List.map_cons, List.intercalate_cons_of_ne_nil (by simpa using h)]
  simp [chars]

end FileMode
