import FileMode.Clause.Scan

/-!
# The course of a character

How a character comes to be settled, as a relation that records **which phases see it**: the last
one takes or refuses it, and each of the others passes it on to the next. The relation is defined by
the turns alone and knows nothing of ranks. Every character has exactly one course, and its end is
what feeding the character gives (`course_iff`).
-/

namespace FileMode.Scan

/-- From a scan, a character is seen by the phases listed, and the outcome is the scan after it or
nothing. -/
inductive Course (c : Char) : Scan → List Phase → Option Scan → Prop where
  | taken {s t : Scan} : s.turn c = .taken t → Course c s [s.phase] (some t)
  | refused {s : Scan} : s.turn c = .refused → Course c s [s.phase] none
  | passed {s t : Scan} {phases : List Phase} {outcome : Option Scan} :
      s.turn c = .passed t → Course c t phases outcome → Course c s (s.phase :: phases) outcome

/-- A course ends as feeding the character does. -/
theorem Course.feed?_eq {c : Char} {s : Scan} {phases : List Phase} {outcome : Option Scan}
    (h : Course c s phases outcome) : s.feed? c = outcome := by
  induction h with
  | taken h => exact feed?_of_taken h
  | refused h => exact feed?_of_refused h
  | passed h _ ih => exact (feed?_of_passed h).trans ih

/-- Every character has a course. -/
theorem exists_course (c : Char) (s : Scan) : ∃ phases, Course c s phases (s.feed? c) := by
  match h : s.turn c with
  | .taken t =>
    rw [feed?_of_taken h]
    exact ⟨_, .taken h⟩
  | .refused =>
    rw [feed?_of_refused h]
    exact ⟨_, .refused h⟩
  | .passed t =>
    have : t.phase.rank < s.phase.rank := rank_lt_of_turn h
    obtain ⟨phases, ht⟩ := exists_course c t
    rw [feed?_of_passed h]
    exact ⟨_, .passed h ht⟩
termination_by s.phase.rank

/-- Feeding a character gives what its course ends with. -/
theorem course_iff {c : Char} {s : Scan} {outcome : Option Scan} :
    (∃ phases, Course c s phases outcome) ↔ s.feed? c = outcome :=
  ⟨fun ⟨_, h⟩ => h.feed?_eq, fun h => h ▸ exists_course c s⟩

/-- The phases of a course have lower and lower rank. -/
theorem Course.pairwise_rank {c : Char} {s : Scan} {phases : List Phase} {outcome : Option Scan}
    (h : Course c s phases outcome) :
    phases.head? = some s.phase ∧ phases.Pairwise fun p q => q.rank < p.rank := by
  induction h with
  | taken _ => simp
  | refused _ => simp
  | @passed s t phases _ hturn _ ih =>
    obtain ⟨hhead, hpairs⟩ := ih
    refine ⟨rfl, List.pairwise_cons.mpr ⟨fun q hq => ?_, hpairs⟩⟩
    have hlt := rank_lt_of_turn hturn
    cases phases with
    | nil => cases hq
    | cons p rest =>
      cases hhead
      rcases List.mem_cons.mp hq with rfl | hq
      · exact hlt
      · exact Nat.lt_trans ((List.pairwise_cons.mp hpairs).1 q hq) hlt

end FileMode.Scan
