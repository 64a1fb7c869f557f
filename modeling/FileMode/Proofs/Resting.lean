import FileMode.Clause.Course
import FileMode.Proofs.CanonicalSegment

/-!
# Scans at rest

Between two characters a scan **rests** in one of four phases, and the phase tells what has been put
into the open action (`Phase.Rests`): nothing at all, a symbol alone, or a symbol with letters of
one kind. The marks never lie: the open clause bears its mark exactly if it says something, and
whatever is complete is marked and fit to be kept (`Scan.Resting`).

On its way from phase to phase a character finds less than that, since a phase may be entered by a
character that it does not take; what it does find (`Scan.Coherent`) is enough for the scan to rest
again once the character is taken (`Scan.Coherent.resting_of_taken`). No character is seen by a
phase twice or by more than four of them, so a bound on the turns (`Scan.maxTurns`) is never reached
(`Scan.Course.settle?_eq`).

That the actions complete in the open clause are marked and not mixed is part of the invariant,
since a comma makes them actions of a complete clause.
-/

namespace FileMode

/-! ### Invariants -/

/-- What the open clause and the open action are like **between two characters**, by the phase. -/
def Phase.Rests (clause : Clause) (action : Action) : Phase → Prop
  | subjects => action = {} ∧ clause.actions = []
  | operand => action.touched = true ∧ (∀ s, s ∉ action.copies) ∧ ∀ p, p ∉ action.permissions
  | copies => action.touched = true ∧ (∃ s, s ∈ action.copies) ∧ ∀ p, p ∉ action.permissions
  | permissions => action.touched = true ∧ (∀ s, s ∉ action.copies) ∧ ∃ p, p ∈ action.permissions
  | operator => False
  | separator => False

/-- What they are like **on the way of a character**: an operand may still be without letters, but
has none of the wrong kind, and what is complete is not open any more. -/
def Phase.Admits (clause : Clause) (action : Action) : Phase → Prop
  | subjects => action = {} ∧ clause.actions = []
  | operand => action.touched = true ∧ (∀ s, s ∉ action.copies) ∧ ∀ p, p ∉ action.permissions
  | copies => action.touched = true ∧ ∀ p, p ∉ action.permissions
  | permissions => action.touched = true ∧ ∀ s, s ∉ action.copies
  | operator => action = {}
  | separator => action = {} ∧ clause = {}

theorem Phase.Rests.admits {clause : Clause} {action : Action} {phase : Phase}
    (h : phase.Rests clause action) : phase.Admits clause action := by
  cases phase with
  | subjects => exact h
  | operator => exact h.elim
  | operand => exact h
  | copies => exact ⟨h.1, h.2.2⟩
  | permissions => exact ⟨h.1, h.2.1⟩
  | separator => exact h.elim

/-- What holds of complete clauses and an open one **in every phase**: the open clause bears its
mark exactly if it says something, and what is complete is marked and fit to be kept. -/
structure Clause.Kept (clauses : List Clause) (clause : Clause) : Prop where
  touched_iff : clause.touched = true ↔ clause.SaysSomething
  actions : ∀ a ∈ clause.actions, a.touched = true ∧ ¬ a.Mixed
  readable : ∀ c ∈ clauses, c.Readable

namespace Scan

/-- A scan **rests** when it is as between two characters. -/
structure Resting (s : Scan) : Prop where
  rests : s.phase.Rests s.clause s.action
  kept : Clause.Kept s.clauses s.clause

/-- A scan **is coherent** when it is as on the way of a character. -/
structure Coherent (s : Scan) : Prop where
  admits : s.phase.Admits s.clause s.action
  kept : Clause.Kept s.clauses s.clause

theorem Resting.coherent {s : Scan} (h : s.Resting) : s.Coherent := ⟨h.rests.admits, h.kept⟩

end Scan

/-! ### Growing and completing clauses -/

namespace Clause.Kept

/-- The clause that nothing has been put into has no mark. -/
theorem empty {clauses : List Clause} (h : ∀ c ∈ clauses, c.Readable) : Kept clauses {} where
  touched_iff := by decide
  actions := List.forall_mem_nil _
  readable := h

variable {clauses : List Clause} {clause : Clause} (h : Kept clauses clause)
include h

/-- A letter in front of the open clause names somebody, as the mark says. -/
theorem addressing {c : Char} {named : SubjectSet} (hnamed : SubjectSet.named? c = some named) :
    Kept clauses (clause.addressing named) where
  touched_iff := by
    rw [SubjectSet.named?_eq] at hnamed
    obtain ⟨w, -, rfl⟩ := Option.map_eq_some_iff.mp hnamed
    obtain ⟨s, hs⟩ := w.exists_mem_subjects
    exact iff_of_true rfl
      (.inl ⟨s, SubjectSet.mem_union.mpr (.inr (SubjectSet.mem_ofList.mpr hs))⟩)
  actions := h.actions
  readable := h.readable

/-- A complete action joins the others. -/
theorem push {action : Action} (htouched : action.touched = true) (hmixed : ¬ action.Mixed) :
    Kept clauses (clause.push action) where
  touched_iff := iff_of_true rfl
    (.inr (List.append_ne_nil_of_right_ne_nil _ (List.cons_ne_nil action [])))
  actions := List.forall_mem_append.mpr
    ⟨h.actions, List.forall_mem_singleton.mpr ⟨htouched, hmixed⟩⟩
  readable := h.readable

/-- An open clause that bears its mark is readable, so it may join the complete ones. -/
theorem close : Kept (if clause.touched then clauses ++ [clause] else clauses) {} := by
  split
  · next htouched =>
    exact .empty (List.forall_mem_append.mpr ⟨h.readable, List.forall_mem_singleton.mpr
      ⟨htouched, h.touched_iff.mp htouched, h.actions⟩⟩)
  · exact .empty h.readable

end Clause.Kept

/-! ### One turn -/

namespace Scan

/-- In front of all characters a scan rests. -/
theorem resting_empty : ({} : Scan).Resting := ⟨⟨rfl, rfl⟩, .empty (List.forall_mem_nil _)⟩

/-- **A character that is taken lets the scan rest.** -/
theorem Coherent.resting_of_taken {s t : Scan} {c : Char} (h : s.Coherent)
    (ht : s.turn c = .taken t) : t.Resting := by
  obtain ⟨phase, clauses, clause, action⟩ := s
  obtain ⟨hadmits, hkept⟩ := h
  cases phase <;> dsimp only [turn] at ht
  case subjects =>
    split at ht <;> cases ht
    next named hnamed => exact ⟨hadmits, hkept.addressing hnamed⟩
  case operator =>
    split at ht <;> cases ht
    next o _ =>
      obtain rfl : action = {} := hadmits
      exact ⟨⟨rfl, SubjectSet.not_mem_empty, PermissionSet.not_mem_empty⟩, hkept⟩
  case operand => contradiction
  case copies =>
    split at ht <;> cases ht
    next s _ => exact ⟨⟨hadmits.1, ⟨s, SubjectSet.mem_insert.mpr (.inl rfl)⟩, hadmits.2⟩, hkept⟩
  case permissions =>
    split at ht <;> cases ht
    next p _ => exact ⟨⟨hadmits.1, hadmits.2, p, PermissionSet.mem_insert.mpr (.inl rfl)⟩, hkept⟩
  case separator =>
    split at ht <;> cases ht
    obtain ⟨haction, rfl⟩ := hadmits
    exact ⟨⟨haction, rfl⟩, hkept⟩

/-- **A character that is passed on leaves the scan coherent.** -/
theorem Coherent.coherent_of_passed {s t : Scan} {c : Char} (h : s.Coherent)
    (ht : s.turn c = .passed t) : t.Coherent := by
  obtain ⟨phase, clauses, clause, action⟩ := s
  obtain ⟨hadmits, hkept⟩ := h
  cases phase <;> dsimp only [turn] at ht
  case subjects =>
    split at ht <;> cases ht
    exact ⟨hadmits.1, hkept⟩
  case operator =>
    split at ht <;> cases ht
    exact ⟨⟨hadmits, rfl⟩, hkept.close⟩
  case operand =>
    cases ht
    obtain ⟨htouched, hcopies, hpermissions⟩ := hadmits
    refine ⟨?_, hkept⟩
    show Phase.Admits clause action (if _ then _ else _)
    split
    · exact ⟨htouched, hpermissions⟩
    · exact ⟨htouched, hcopies⟩
  case copies =>
    split at ht <;> cases ht
    exact ⟨rfl, hkept.push hadmits.1 fun ⟨_, p, hp⟩ => hadmits.2 p hp⟩
  case permissions =>
    split at ht <;> cases ht
    exact ⟨rfl, hkept.push hadmits.1 fun ⟨⟨s, hs⟩, _⟩ => hadmits.2 s hs⟩
  case separator => split at ht <;> contradiction

/-- Only where a comma has to stand is a character refused. -/
theorem phase_of_refused {s : Scan} {c : Char} (h : s.turn c = .refused) :
    s.phase = .separator := by
  obtain ⟨phase, clauses, clause, action⟩ := s
  cases phase <;> dsimp only [turn] at h
  case separator => rfl
  case operand => contradiction
  all_goals split at h <;> contradiction

/-! ### The course of a character -/

/-- A bound on the turns of a character, one for each phase. -/
def maxTurns : Nat := 6

/-- What comes of a character within so many turns: the scan after it, or nothing in its place if it
is refused; nothing at all if it is not settled by then. -/
def settle? (c : Char) : Nat → Scan → Option (Option Scan)
  | 0, _ => none
  | turns + 1, s =>
    match s.turn c with
    | .taken t => some (some t)
    | .passed t => settle? c turns t
    | .refused => some none

theorem rank_bounds (p : Phase) : 1 ≤ p.rank ∧ p.rank ≤ 4 := by
  cases p <;> decide

namespace Course

variable {c : Char} {s : Scan} {phases : List Phase} {outcome : Option Scan}
  (h : Course c s phases outcome)
include h

/-- No phase sees a character twice. -/
theorem nodup : phases.Nodup := by
  refine h.pairwise_rank.2.imp ?_
  rintro p _ hlt rfl
  exact Nat.lt_irrefl p.rank hlt

/-- No more phases see a character than there are ranks from that of the first one down. -/
theorem length_le_rank : phases.length ≤ s.phase.rank := by
  induction h with
  | @taken s t _ => exact (rank_bounds s.phase).1
  | @refused s _ => exact (rank_bounds s.phase).1
  | passed hturn _ ih => exact Nat.lt_of_le_of_lt ih (rank_lt_of_turn hturn)

theorem length_le_four : phases.length ≤ 4 :=
  Nat.le_trans h.length_le_rank (rank_bounds s.phase).2

/-- A character is settled within a bound on the turns that leaves one for every phase that sees
it. -/
theorem settle?_eq {turns : Nat} (hturns : phases.length ≤ turns) :
    settle? c turns s = some outcome := by
  induction h generalizing turns with
  | taken hturn =>
    obtain ⟨turns, rfl⟩ : ∃ n, turns = n + 1 := Nat.exists_eq_add_of_le' hturns
    rw [settle?, hturn]
  | refused hturn =>
    obtain ⟨turns, rfl⟩ : ∃ n, turns = n + 1 := Nat.exists_eq_add_of_le' hturns
    rw [settle?, hturn]
  | passed hturn _ ih =>
    obtain ⟨turns, rfl⟩ : ∃ n, turns = n + 1 :=
      Nat.exists_eq_add_of_le' (Nat.le_trans (Nat.succ_le_succ (Nat.zero_le _)) hturns)
    rw [settle?, hturn]
    exact ih (Nat.le_of_succ_le_succ hturns)

/-- A character that is refused is last seen where a comma has to stand. -/
theorem getLast?_of_refused (hnone : outcome = none) : phases.getLast? = some .separator := by
  induction h with
  | taken _ => contradiction
  | refused hturn => rw [List.getLast?_singleton, phase_of_refused hturn]
  | @passed s t phases _ _ _ ih =>
    rw [List.getLast?_cons, ih hnone]
    rfl

/-- **From a coherent scan, a character that is taken lets the scan rest**, through whatever phases
it is passed. -/
theorem resting {t : Scan} (hs : s.Coherent) (ht : outcome = some t) : t.Resting := by
  induction h with
  | taken hturn =>
    cases ht
    exact hs.resting_of_taken hturn
  | refused _ => contradiction
  | passed hturn _ ih => exact ih (hs.coherent_of_passed hturn) ht

end Course

/-! ### Whole texts -/

/-- One character keeps a scan at rest. -/
theorem Resting.feed? {s t : Scan} {c : Char} (h : s.Resting) (ht : s.feed? c = some t) :
    t.Resting := by
  obtain ⟨phases, hcourse⟩ := exists_course c s
  exact hcourse.resting h.coherent ht

/-- **Any characters keep a scan at rest.** -/
theorem Resting.feedAll {s t : Scan} {position : Nat} {text : List Char} (h : s.Resting)
    (ht : s.feedAll position text = .ok t) : t.Resting := by
  induction text generalizing s position with
  | nil =>
    cases ht
    exact h
  | cons c rest ih =>
    rw [Scan.feedAll] at ht
    rcases hc : s.feed? c with _ | next
    · rw [hc] at ht
      contradiction
    · rw [hc] at ht
      exact ih (h.feed? hc) ht

/-- **What a scan is like between characters, and what becomes of the next one.** Behind all
characters that it has taken a scan rests. From a scan at rest every character has a course. No
phase sees the character twice, four phases see it at most, and the bound on the turns is not
reached. At the end the character is taken, and the scan rests again; or it is refused where a comma
has to stand, and a text that goes on with it fails there. -/
theorem resting_and_settled :
    (∀ text t, ({} : Scan).feedAll 0 text = .ok t → t.Resting) ∧
    ∀ s : Scan, s.Resting → ∀ c,
      (∃ phases outcome, Course c s phases outcome) ∧
      ∀ phases outcome, Course c s phases outcome →
        phases.Nodup ∧ phases.length ≤ 4 ∧ settle? c maxTurns s = some outcome ∧
        ((∃ t, outcome = some t ∧ s.feed? c = some t ∧ t.Resting) ∨
          outcome = none ∧ phases.getLast? = some .separator ∧
            ∀ position rest, s.feedAll position (c :: rest) = .error ⟨c, position⟩) := by
  refine ⟨fun text t ht => resting_empty.feedAll ht, fun s hs c => ⟨?_, ?_⟩⟩
  · obtain ⟨phases, hcourse⟩ := exists_course c s
    exact ⟨phases, _, hcourse⟩
  · intro phases outcome hcourse
    have hturns : phases.length ≤ maxTurns := Nat.le_trans hcourse.length_le_four (by decide)
    refine ⟨hcourse.nodup, hcourse.length_le_four, hcourse.settle?_eq hturns, ?_⟩
    rcases outcome with _ | t
    · refine .inr ⟨rfl, hcourse.getLast?_of_refused rfl, fun position rest => ?_⟩
      rw [Scan.feedAll, hcourse.feed?_eq]
    · exact .inl ⟨t, rfl, hcourse.feed?_eq, hcourse.resting hs.coherent rfl⟩

/-- Behind a symbol alone, a character that belongs nowhere is seen by four phases and refused. -/
theorem resting_and_settled_refused :
    ({} : Scan).feedAll 0 ['u', '='] = .ok
      ⟨.operand, [], ⟨.ofList [.user], [], true⟩, ⟨.set, ∅, ∅, true⟩⟩ ∧
    Resting ⟨.operand, [], ⟨.ofList [.user], [], true⟩, ⟨.set, ∅, ∅, true⟩⟩ ∧
    Course '!' ⟨.operand, [], ⟨.ofList [.user], [], true⟩, ⟨.set, ∅, ∅, true⟩⟩
      [.operand, .permissions, .operator, .separator] none ∧
    settle? '!' maxTurns ⟨.operand, [], ⟨.ofList [.user], [], true⟩, ⟨.set, ∅, ∅, true⟩⟩ =
      some none := by
  have hfeed : ({} : Scan).feedAll 0 ['u', '='] = .ok
      ⟨.operand, [], ⟨.ofList [.user], [], true⟩, ⟨.set, ∅, ∅, true⟩⟩ := by cbv
  obtain ⟨hrest, hsettle⟩ := resting_and_settled
  have hresting := hrest _ _ hfeed
  have hcourse : Course '!' ⟨.operand, [], ⟨.ofList [.user], [], true⟩, ⟨.set, ∅, ∅, true⟩⟩
      [.operand, .permissions, .operator, .separator] none :=
    .passed rfl (.passed rfl (.passed rfl (.refused rfl)))
  obtain ⟨-, -, hwithin, -⟩ := (hsettle _ hresting '!').2 _ _ hcourse
  exact ⟨hfeed, hresting, hcourse, hwithin⟩

end Scan

end FileMode
