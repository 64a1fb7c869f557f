import FileMode.Mode

/-!
# Values

Modes are handled beside the parts they are made of and beside plain data. A **value** is any of
these; it may be shown, compared, or offered where a mode is wanted.

Two values **say the same** (`≈`) when nothing but marks tells them apart, with one addition: a
truth value says the same as the number one or zero. Values of different kinds are never the same
otherwise; in particular a clause is not the symbolic mode of that one clause, and the empty list is
not the symbolic mode without clauses.
-/

namespace FileMode

/-- Plain data. -/
inductive Literal where
  | text (text : String)
  | number (value : Int)
  | truth (value : Bool)
  | nothing
  | emptyList
deriving DecidableEq, Inhabited

/-- The literal that stands for all that say the same: truth values become numbers. -/
def Literal.plain : Literal → Literal
  | truth true => number 1
  | truth false => number 0
  | other => other

/-- A mode, a part of one, or plain data. -/
inductive Value where
  | mode (mode : Mode)
  | clause (clause : Clause)
  | action (action : Action)
  | literal (literal : Literal)
deriving DecidableEq, Inhabited

namespace Value

/-- The value that stands for all that say the same. -/
def plain : Value → Value
  | mode m => mode m.plain
  | clause c => clause c.plain
  | action a => action a.plain
  | literal l => literal l.plain

/-- Values say the same when the values that stand for them are equal. -/
instance instSetoid : Setoid Value where
  r a b := a.plain = b.plain
  iseqv := ⟨fun _ => rfl, Eq.symm, Eq.trans⟩

theorem equiv_iff {a b : Value} : a ≈ b ↔ a.plain = b.plain := Iff.rfl

instance (a b : Value) : Decidable (a ≈ b) := decidable_of_iff _ equiv_iff.symm

/-- On modes the comparison is that of modes. -/
theorem mode_equiv_mode {a b : Mode} : mode a ≈ mode b ↔ a ≈ b :=
  ⟨mode.inj, congrArg mode⟩

end Value

end FileMode
