import FileMode.Clause

/-!
# Modes

A mode is either **absolute**, a number whose octal digits are the permission bits, or **symbolic**,
a list of clauses. The number is any integer: the bound of the numerals that can be read
(`Octal.largest`) is not part of the type, and numbers outside it have a rendering too.

Two modes **say the same** (`≈`) when they differ in nothing but the marks that reading leaves
behind. An absolute mode never says the same as a symbolic one, and the order of clauses and of
actions matters.
-/

namespace FileMode

/-- What a mode text means. -/
inductive Mode where
  | absolute (value : Int)
  | symbolic (clauses : List Clause)
deriving DecidableEq, Inhabited

namespace Mode

/-- The mode without any marks. -/
def plain : Mode → Mode
  | absolute n => absolute n
  | symbolic cs => symbolic (cs.map Clause.plain)

@[simp] theorem plain_plain (m : Mode) : m.plain.plain = m.plain := by
  cases m <;> simp [plain]

/-- Modes say the same when they are equal without their marks. -/
instance instSetoid : Setoid Mode where
  r a b := a.plain = b.plain
  iseqv := ⟨fun _ => rfl, Eq.symm, Eq.trans⟩

theorem equiv_iff {a b : Mode} : a ≈ b ↔ a.plain = b.plain := Iff.rfl

instance (a b : Mode) : Decidable (a ≈ b) := decidable_of_iff _ equiv_iff.symm

@[simp] theorem plain_equiv (m : Mode) : m.plain ≈ m := plain_plain m

/-- Symbolic modes that say the same have as many clauses. -/
theorem length_eq_of_equiv {clauses others : List Clause}
    (h : symbolic clauses ≈ symbolic others) : clauses.length = others.length := by
  have hplain := symbolic.inj (equiv_iff.mp h)
  simpa using congrArg List.length hplain

end Mode

end FileMode
