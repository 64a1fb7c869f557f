import FileMode.Mode.Rendering
import FileMode.Proofs.Scanning
import Mathlib.Data.List.Basic

/-!
# The segment of a clause

The rendering of a clause is the text of a segment, the one whose letters stand in written order,
**unless an action of the clause is mixed**: no phrase of the grammar writes a mixed action
(`Clause.chars_segment`). The segment means the clause again, with the mark of reading on it and on
its actions, or nothing if the clause says nothing (`Clause.clause?_segment`).

Clauses that come of segments have what it takes (`Clause.Readable`): they bear their marks, say
something, and none of their actions is mixed.
-/

namespace FileMode

/-! ### Sets and their letters -/

namespace SubjectSet

theorem ofList_toList (set : SubjectSet) : ofList set.toList = set :=
  ext_mem fun _ => mem_ofList.trans mem_toList

theorem toList_ne_nil_iff {set : SubjectSet} : set.toList ≠ [] ↔ ∃ s, s ∈ set := by
  rw [← List.length_pos_iff, List.length_pos_iff_exists_mem]
  exact exists_congr fun s => mem_toList

end SubjectSet

namespace PermissionSet

theorem ofList_toList (set : PermissionSet) : ofList set.toList = set :=
  ext_mem fun _ => mem_ofList.trans mem_toList

theorem toList_ne_nil_iff {set : PermissionSet} : set.toList ≠ [] ↔ ∃ p, p ∈ set := by
  rw [← List.length_pos_iff, List.length_pos_iff_exists_mem]
  exact exists_congr fun p => mem_toList

theorem eq_empty_of_forall_not_mem {set : PermissionSet} (h : ∀ p, p ∉ set) : set = ∅ :=
  ext_mem fun p => iff_of_false (h p) (not_mem_empty p)

end PermissionSet

/-! ### Actions and phrases -/

namespace Action

instance (a : Action) : Decidable a.Mixed :=
  decidable_of_iff (a.copies.toList ≠ [] ∧ a.permissions.toList ≠ [])
    (and_congr SubjectSet.toList_ne_nil_iff PermissionSet.toList_ne_nil_iff)

/-- The action with its mark. -/
def marked (a : Action) : Action := { a with touched := true }

@[simp] theorem plain_marked (a : Action) : a.marked.plain = a.plain := rfl

/-- The phrase that writes an action, its letters in written order. The permissions of a mixed
action are left out. -/
def phrase (a : Action) : Phrase :=
  match a.copies.toList with
  | [] => ⟨a.operator, .spelled a.permissions.toList⟩
  | first :: more => ⟨a.operator, .copied first more⟩

/-- An action that copies from nobody is written as a phrase that spells out. -/
theorem phrase_of_copies_eq_nil {a : Action} (h : a.copies.toList = []) :
    a.phrase = ⟨a.operator, .spelled a.permissions.toList⟩ := by
  rw [phrase, h]

/-- An action that copies is written as a phrase that copies. -/
theorem phrase_of_copies_eq_cons {a : Action} {first : Subject} {more : List Subject}
    (h : a.copies.toList = first :: more) : a.phrase = ⟨a.operator, .copied first more⟩ := by
  rw [phrase, h]

/-- An action that copies and is not mixed spells out nothing. -/
theorem permissions_eq_empty {a : Action} (h : ¬ a.Mixed) (hcopies : a.copies.toList ≠ []) :
    a.permissions = ∅ :=
  PermissionSet.eq_empty_of_forall_not_mem fun p hp =>
    h ⟨SubjectSet.toList_ne_nil_iff.mp hcopies, p, hp⟩

/-- An action that is not mixed has the text of its phrase. -/
theorem chars_phrase {a : Action} (h : ¬ a.Mixed) : a.phrase.chars = a.chars := by
  rcases hcopies : a.copies.toList with _ | ⟨first, more⟩
  · rw [phrase_of_copies_eq_nil hcopies, chars, SubjectSet.letters, hcopies]
    rfl
  · have hempty := permissions_eq_empty h (by rw [hcopies]; exact List.cons_ne_nil first more)
    rw [phrase_of_copies_eq_cons hcopies, chars, SubjectSet.letters, hcopies, hempty]
    exact congrArg (a.operator.symbol :: ·) (List.append_nil _).symm

/-- The phrase of an action that is not mixed means the action. -/
theorem action_phrase {a : Action} (h : ¬ a.Mixed) : a.phrase.action = a.marked := by
  rcases hcopies : a.copies.toList with _ | ⟨first, more⟩
  · have hset := a.copies.ofList_toList
    rw [hcopies] at hset
    rw [phrase_of_copies_eq_nil hcopies, Phrase.action, Operand.copies, Operand.permissions, hset,
      PermissionSet.ofList_toList]
    rfl
  · have hempty := permissions_eq_empty h (by rw [hcopies]; exact List.cons_ne_nil first more)
    rw [phrase_of_copies_eq_cons hcopies, Phrase.action, Operand.copies, Operand.permissions,
      ← hcopies, SubjectSet.ofList_toList, marked, hempty]
    rfl

end Action

/-- Actions that are not mixed have the text of their phrases. -/
theorem Action.flatMap_chars_phrase {actions : List Action} (h : ∀ a ∈ actions, ¬ a.Mixed) :
    (actions.map phrase).flatMap Phrase.chars = actions.flatMap chars := by
  rw [List.flatMap_map]
  exact List.flatMap_congr fun a ha => chars_phrase (h a ha)

/-- No phrase means a mixed action. -/
theorem Phrase.not_mixed_action (p : Phrase) : ¬ p.action.Mixed := by
  rintro ⟨⟨s, hs⟩, ⟨q, hq⟩⟩
  have hs := SubjectSet.mem_ofList.mp hs
  have hq := PermissionSet.mem_ofList.mp hq
  obtain ⟨o, ⟨first, more⟩ | permissions⟩ := p
  · exact List.not_mem_nil hq
  · exact List.not_mem_nil hs

/-! ### Clauses and segments -/

namespace Clause

instance (c : Clause) : Decidable c.SaysSomething :=
  decidable_of_iff (c.subjects.toList ≠ [] ∨ c.actions ≠ [])
    (or_congr_left SubjectSet.toList_ne_nil_iff)

/-- The clause with its mark and with those of its actions. -/
def marked (c : Clause) : Clause := ⟨c.subjects, c.actions.map Action.marked, true⟩

@[simp] theorem plain_marked (c : Clause) : c.marked.plain = c.plain := by
  simp [plain, marked]

/-- The segment that writes a clause, its letters in written order. -/
def segment (c : Clause) : Segment := ⟨c.subjects.toList.map Who.one, c.actions.map Action.phrase⟩

/-- **A clause without mixed actions has the text of its segment.** -/
theorem chars_segment {c : Clause} (h : ∀ a ∈ c.actions, ¬ a.Mixed) :
    c.segment.chars = c.chars := by
  rw [segment, Segment.chars, Action.flatMap_chars_phrase h, List.map_map]
  rfl

/-- Clauses without mixed actions, each with a comma behind it, have the text of their segments. -/
theorem flatMap_chars_segment {clauses : List Clause}
    (h : ∀ c ∈ clauses, ∀ a ∈ c.actions, ¬ a.Mixed) :
    ((clauses.map segment).flatMap fun s => s.chars ++ [',']) =
      clauses.flatMap fun c => c.chars ++ [','] := by
  rw [List.flatMap_map]
  exact List.flatMap_congr fun c hc => congrArg (· ++ [',']) (chars_segment (h c hc))

/-- The segment of a clause without mixed actions means the clause, if that says something. -/
theorem clause?_segment {c : Clause} (h : ∀ a ∈ c.actions, ¬ a.Mixed) :
    c.segment.clause? = if c.SaysSomething then some c.marked else none := by
  have hactions :
      (c.actions.map Action.phrase).map Phrase.action = c.actions.map Action.marked := by
    rw [List.map_map]
    exact List.map_congr_left fun a ha => Action.action_phrase (h a ha)
  have hsubjects : (c.subjects.toList.map Who.one).flatMap Who.subjects = c.subjects.toList := by
    rw [List.flatMap_map]
    exact List.flatMap_singleton' _
  have hempty : (c.segment.who = [] ∧ c.segment.phrases = []) ↔ ¬ c.SaysSomething := by
    rw [SaysSomething, ← SubjectSet.toList_ne_nil_iff, segment, List.map_eq_nil_iff,
      List.map_eq_nil_iff]
    simp
  rw [Segment.clause?]
  simp only [hempty, ite_not]
  rw [segment, hsubjects, hactions, SubjectSet.ofList_toList]
  rfl

/-- The segments of clauses without mixed actions mean the clauses that say something. -/
theorem filterMap_segment {clauses : List Clause}
    (h : ∀ c ∈ clauses, ∀ a ∈ c.actions, ¬ a.Mixed) :
    (clauses.map segment).filterMap Segment.clause? =
      (clauses.filter fun c => c.SaysSomething).map marked := by
  induction clauses with
  | nil => rfl
  | cons c rest ih =>
    have hrest := ih fun d hd => h d (List.mem_cons_of_mem c hd)
    have hc := clause?_segment (h c List.mem_cons_self)
    by_cases hsays : c.SaysSomething
    · rw [if_pos hsays] at hc
      rw [List.map_cons, List.filterMap_cons_some hc, hrest,
        List.filter_cons_of_pos (by simpa using hsays), List.map_cons]
    · rw [if_neg hsays] at hc
      rw [List.map_cons, List.filterMap_cons_none hc, hrest,
        List.filter_cons_of_neg (by simpa using hsays)]

/-- What reading leaves of a clause: its mark and those of its actions, something that it says, and
no mixed action. -/
structure Readable (c : Clause) : Prop where
  touched : c.touched = true
  saysSomething : c.SaysSomething
  actions : ∀ a ∈ c.actions, a.touched = true ∧ ¬ a.Mixed

/-- A readable clause bears all its marks. -/
theorem Readable.marked_eq {c : Clause} (h : c.Readable) : c.marked = c := by
  have hactions : c.actions.map Action.marked = c.actions := by
    refine (List.map_congr_left fun a ha => ?_).trans (List.map_id _)
    show ({ a with touched := true } : Action) = a
    rw [← (h.actions a ha).1]
  rw [marked, hactions, ← h.touched]

end Clause

/-- A letter in front of a clause names some subject. -/
theorem Who.exists_mem_subjects (w : Who) : ∃ s, s ∈ w.subjects := by
  rcases w with s | _
  · exact ⟨s, List.mem_singleton_self s⟩
  · exact ⟨.user, Subject.mem_all .user⟩

/-- **What a segment means is readable.** -/
theorem Segment.readable_of_clause? {s : Segment} {c : Clause} (h : s.clause? = some c) :
    c.Readable := by
  rw [clause?] at h
  split at h
  · contradiction
  · next hne =>
    cases h
    refine ⟨rfl, ?_, fun a ha => ?_⟩
    · -- without phrases there is a letter in front, and it names somebody
      by_cases hphrases : s.phrases = []
      · have hwho : s.who ≠ [] := fun hwho => hne ⟨hwho, hphrases⟩
        obtain ⟨w, hw⟩ := List.exists_mem_of_ne_nil s.who hwho
        obtain ⟨x, hx⟩ := w.exists_mem_subjects
        exact .inl ⟨x, SubjectSet.mem_ofList.mpr (List.mem_flatMap.mpr ⟨w, hw, hx⟩)⟩
      · exact .inr (mt List.map_eq_nil_iff.mp hphrases)
    · obtain ⟨p, -, rfl⟩ := List.mem_map.mp ha
      exact ⟨rfl, p.not_mixed_action⟩

/-- The clauses of a symbolic mode have the text of their segments. -/
theorem Mode.chars_symbolic {clauses : List Clause}
    (h : ∀ c ∈ clauses, ∀ a ∈ c.actions, ¬ a.Mixed) :
    (symbolic clauses).chars = Segment.charsOfList (clauses.map Clause.segment) := by
  rw [chars, Segment.charsOfList, List.map_map]
  exact congrArg _ (List.map_congr_left fun c hc => (Clause.chars_segment (h c hc)).symm)

end FileMode
