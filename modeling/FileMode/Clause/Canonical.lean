import FileMode.Clause.Grammar

/-!
# Canonical segments

A segment is canonical when nothing in it could be written otherwise: it is not empty, it names
subjects one by one, and **the letters of every run ascend** in the order in which they are written,
so that none is repeated.
-/

namespace FileMode

/-- The place of a subject in the order in which subjects are written. -/
def Subject.rank (s : Subject) : Nat := Subject.all.idxOf s

/-- The place of a permission in the order in which permissions are written. -/
def Permission.rank (p : Permission) : Nat := Permission.all.idxOf p

/-- The letters of an operand ascend. -/
def Operand.Ascending : Operand → Prop
  | copied first more => (first :: more).Pairwise fun s t => s.rank < t.rank
  | spelled permissions => permissions.Pairwise fun p q => p.rank < q.rank

namespace Segment

/-- A segment is canonical when it is not empty, names subjects one by one, and all its letters
ascend. -/
structure Canonical (s : Segment) : Prop where
  ne_nil : s.who ≠ [] ∨ s.phrases ≠ []
  who_ascending : ∃ subjects : List Subject,
    s.who = subjects.map Who.one ∧ subjects.Pairwise fun s t => s.rank < t.rank
  operands_ascending : ∀ p ∈ s.phrases, p.operand.Ascending

end Segment

/-- A text is a canonical list of clauses when it is empty or derived from canonical segments. -/
def CanonicalClauses (text : List Char) : Prop :=
  text = [] ∨ ∃ segments, Derived text segments ∧ ∀ s ∈ segments, s.Canonical

end FileMode
