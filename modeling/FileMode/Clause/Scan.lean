import FileMode.Clause

/-!
# Scanning clauses

Clauses are read one character at a time. A scan is in one of six **phases**, each of which knows
the characters that belong to it. A character that belongs to the current phase is *taken*; any
other ends the phase and is *passed* on to a later one, so a phase needs no mark at its end. Only
the last phase of a clause, where a comma has to stand, *refuses* a character.

A scan holds the clauses that are complete, the clause that is open, and the action that is open in
it. An action is completed by the first character that does not belong to its operand, a clause by
the first that continues none of its actions, and both by the end of the text.

Passing always goes to a phase of lower **rank** (`Scan.rank_lt_of_turn`), which is why a character
is settled after finitely many turns.
-/

namespace FileMode

/-- What a scan expects next. -/
inductive Phase where
  /-- Letters that name the subjects of a clause. -/
  | subjects
  /-- The symbol that begins an action. -/
  | operator
  /-- The first letter behind the symbol, which settles the kind of operand. -/
  | operand
  /-- Further subjects to copy from. -/
  | copies
  /-- Further permissions to spell out. -/
  | permissions
  /-- The comma between two clauses. -/
  | separator
deriving DecidableEq, Inhabited

/-- The rank of a phase: passing a character on lowers it. -/
def Phase.rank : Phase → Nat
  | operand => 4
  | subjects => 3
  | copies => 3
  | permissions => 3
  | operator => 2
  | separator => 1

/-- A scan under way. -/
structure Scan where
  phase : Phase := .subjects
  /-- The clauses that are complete. -/
  clauses : List Clause := []
  /-- The clause that is open. -/
  clause : Clause := {}
  /-- The action that is open. -/
  action : Action := {}
deriving DecidableEq, Inhabited

/-- What a phase does with a character. -/
inductive Turn where
  /-- The character belongs to the phase. -/
  | taken (next : Scan)
  /-- The phase is over, and a later one has to deal with the character. -/
  | passed (next : Scan)
  /-- No phase can deal with the character. -/
  | refused
deriving DecidableEq

namespace Scan

/-- Completes the open action. -/
def closeAction (s : Scan) : Scan := { s with clause := s.clause.push s.action, action := {} }

/-- Completes the open clause, which counts for nothing unless something was put into it. -/
def closeClause (s : Scan) : Scan :=
  { s with
    clauses := if s.clause.touched then s.clauses ++ [s.clause] else s.clauses
    clause := {} }

/-- What the current phase does with a character. -/
def turn (s : Scan) (c : Char) : Turn :=
  match s.phase with
  | .subjects =>
    match SubjectSet.named? c with
    | some named => .taken { s with clause := s.clause.addressing named }
    | none => .passed { s with phase := .operator }
  | .operator =>
    match Operator.ofSymbol? c with
    | some o => .taken { s with action := s.action.beginning o, phase := .operand }
    | none => .passed { s.closeClause with phase := .separator }
  | .operand =>
    .passed { s with phase := if (Subject.ofLetter? c).isSome then .copies else .permissions }
  | .copies =>
    match Subject.ofLetter? c with
    | some source => .taken { s with action := s.action.copying source }
    | none => .passed { s.closeAction with phase := .operator }
  | .permissions =>
    match Permission.ofLetter? c with
    | some p => .taken { s with action := s.action.granting p }
    | none => .passed { s.closeAction with phase := .operator }
  | .separator => if c = ',' then .taken { s with phase := .subjects } else .refused

/-- Passing a character on lowers the rank of the phase. -/
theorem rank_lt_of_turn {s t : Scan} {c : Char} (h : s.turn c = .passed t) :
    t.phase.rank < s.phase.rank := by
  obtain ⟨phase, clauses, clause, action⟩ := s
  cases phase <;> dsimp only [turn] at h
  case operand =>
    cases h
    show Phase.rank (if _ then _ else _) < 4
    split <;> decide
  case separator => split at h <;> contradiction
  all_goals
    split at h
    · contradiction
    · cases h
      exact Nat.lt_succ_self _

/-- The scan after a character, or nothing if the character is refused. -/
def feed? (s : Scan) (c : Char) : Option Scan :=
  match h : s.turn c with
  | .taken next => some next
  | .passed next =>
    have : next.phase.rank < s.phase.rank := rank_lt_of_turn h
    next.feed? c
  | .refused => none
termination_by s.phase.rank

/-- The clauses read so far if the text ends here. -/
def finish (s : Scan) : List Clause :=
  (if s.action.touched then s.closeAction else s).closeClause.clauses

/-! ### Equations -/

theorem feed?_of_taken {s t : Scan} {c : Char} (h : s.turn c = .taken t) : s.feed? c = some t := by
  rw [feed?]; split <;> simp_all

theorem feed?_of_passed {s t : Scan} {c : Char} (h : s.turn c = .passed t) :
    s.feed? c = t.feed? c := by
  rw [feed?]; split <;> simp_all

theorem feed?_of_refused {s : Scan} {c : Char} (h : s.turn c = .refused) : s.feed? c = none := by
  rw [feed?]; split <;> simp_all

end Scan

end FileMode
