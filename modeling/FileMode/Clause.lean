import FileMode.Subject
import FileMode.Permission
import FileMode.Operator

/-!
# Actions and clauses

A **clause** addresses a set of subjects and applies a list of actions to them, in order. An
**action** is an operator with the access it works on, either copied from what subjects have or
spelled out as permissions.

Nothing here forbids an action that copies *and* spells out, or a clause that says nothing at all:
such values have a rendering, and which of them a text can produce is a matter of the reader.

Both carry a mark, `touched`, set once reading a text has put something into them. The mark tells a
clause that was begun from one that was not; it is **no part of what the clause says**, and `plain`
takes it off.
-/

namespace FileMode

/-- An operator and the access it works on. -/
structure Action where
  operator : Operator := .set
  /-- The subjects whose access is copied. -/
  copies : SubjectSet := ∅
  /-- The access that is spelled out. -/
  permissions : PermissionSet := ∅
  /-- Whether reading has put something into the action. -/
  touched : Bool := false
deriving DecidableEq, Inhabited

namespace Action

/-- The action without its mark. -/
def plain (a : Action) : Action := { a with touched := false }

/-- The action with an operator; naming one marks the action. -/
def beginning (a : Action) (o : Operator) : Action := { a with operator := o, touched := true }

/-- The action that copies from one more subject. -/
def copying (a : Action) (s : Subject) : Action := { a with copies := a.copies.insert s }

/-- The action that spells out one more permission. -/
def granting (a : Action) (p : Permission) : Action :=
  { a with permissions := a.permissions.insert p }

/-- An action is **mixed** when it copies from some subject and also spells out some permission. -/
def Mixed (a : Action) : Prop := (∃ s, s ∈ a.copies) ∧ ∃ p, p ∈ a.permissions

@[simp] theorem plain_plain (a : Action) : a.plain.plain = a.plain := rfl

end Action

/-- A set of subjects and the actions applied to them. -/
structure Clause where
  subjects : SubjectSet := ∅
  actions : List Action := []
  /-- Whether reading has put something into the clause. -/
  touched : Bool := false
deriving DecidableEq, Inhabited

namespace Clause

/-- The clause without its mark and without those of its actions. -/
def plain (c : Clause) : Clause := ⟨c.subjects, c.actions.map Action.plain, false⟩

/-- The clause that addresses more subjects; naming them marks it. -/
def addressing (c : Clause) (more : SubjectSet) : Clause :=
  { c with subjects := c.subjects ∪ more, touched := true }

/-- The clause with one more action at its end; adding it marks the clause. -/
def push (c : Clause) (a : Action) : Clause :=
  { c with actions := c.actions ++ [a], touched := true }

/-- A clause **says something** when it addresses a subject or applies an action. -/
def SaysSomething (c : Clause) : Prop := (∃ s, s ∈ c.subjects) ∨ c.actions ≠ []

@[simp] theorem plain_plain (c : Clause) : c.plain.plain = c.plain := by
  simp [plain]

@[simp] theorem plain_push (c : Clause) (a : Action) :
    (c.push a).plain = ⟨c.subjects, c.plain.actions ++ [a.plain], false⟩ := by
  simp [plain, push]

end Clause

end FileMode
