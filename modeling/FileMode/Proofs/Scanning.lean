import FileMode.Clause.Scan
import FileMode.Mode.Reading
import FileMode.Proofs.Growth

/-!
# What a scan has read

A scan keeps sets and marks where the text had letters, so it does not determine what it has read.
It is determined by it: `Scan.behind done last` is the scan behind the segments `done`, each with
its comma, and behind the segment `last`, which is still open.

Three statements say what this description is worth. A character takes the scan behind a segment to
the scan behind the segment grown by it, a comma closes the segment, and **whatever the grammar does
not let stand is refused** (`Scan.feed?_behind`). A text is taken as a whole exactly if it is the
text of segments (`Scan.feedAll_eq_ok_iff`). If the text ends, the clauses read are those that the
segments mean (`Scan.finish_behind`).
-/

namespace FileMode

/-! ### Texts of segments -/

namespace Segment

theorem charsOfList_singleton (s : Segment) : charsOfList [s] = s.chars := by
  simp [charsOfList]

theorem charsOfList_cons {s : Segment} {rest : List Segment} (h : rest ≠ []) :
    charsOfList (s :: rest) = s.chars ++ ',' :: charsOfList rest := by
  rw [charsOfList, List.map_cons, List.intercalate_cons_of_ne_nil (by simpa using h)]
  simp [charsOfList]

/-- The last segment stands behind the others, each of which has a comma behind it. -/
theorem charsOfList_concat (done : List Segment) (last : Segment) :
    charsOfList (done ++ [last]) = (done.flatMap fun s => s.chars ++ [',']) ++ last.chars := by
  induction done with
  | nil => exact charsOfList_singleton last
  | cons s rest ih =>
    rw [List.cons_append, charsOfList_cons (by simp), ih]
    simp

/-- A comma at the end of a text begins an empty segment. -/
theorem charsOfList_concat_empty (done : List Segment) (last : Segment) :
    charsOfList (done ++ [last] ++ [empty]) = charsOfList (done ++ [last]) ++ [','] := by
  rw [charsOfList_concat, charsOfList_concat, List.flatMap_append]
  simp [empty, chars]

end Segment

/-! ### The scan behind segments -/

namespace Phrase

/-- One more subject to copy from, in the action that a phrase means. -/
theorem action_copied_concat (o : Operator) (first : Subject) (more : List Subject) (s : Subject) :
    action ⟨o, .copied first (more ++ [s])⟩ = (action ⟨o, .copied first more⟩).copying s := by
  simp [action, Operand.copies, Operand.permissions, Action.copying, SubjectSet.ofList]

/-- One more permission spelled out, in the action that a phrase means. -/
theorem action_spelled_concat (o : Operator) (permissions : List Permission) (p : Permission) :
    action ⟨o, .spelled (permissions ++ [p])⟩ = (action ⟨o, .spelled permissions⟩).granting p := by
  simp [action, Operand.copies, Operand.permissions, Action.granting, PermissionSet.ofList]

end Phrase

/-- The phase behind the symbol of an action and what has been read of its operand. -/
def Operand.phase : Operand → Phase
  | copied _ _ => .copies
  | spelled [] => .operand
  | spelled (_ :: _) => .permissions

namespace Segment

/-- The clause that is open behind letters for subjects and complete phrases. Behind nothing at all
it is the clause that nothing has been put into. -/
def openClause (who : List Who) (phrases : List Phrase) : Clause :=
  (clause? ⟨who, phrases⟩).getD {}

/-- A clause that a segment means bears the mark. -/
theorem touched_of_clause? {s : Segment} {c : Clause} (h : s.clause? = some c) :
    c.touched = true := by
  rw [clause?] at h
  split at h
  · contradiction
  · cases h
    rfl

/-- A letter for subjects adds to the subjects of the open clause. -/
theorem openClause_addressing (who : List Who) (w : Who) :
    (openClause who []).addressing (SubjectSet.ofList w.subjects) = openClause (who ++ [w]) [] := by
  have hset : SubjectSet.ofList (who.flatMap Who.subjects) ∪ SubjectSet.ofList w.subjects =
      SubjectSet.ofList ((who ++ [w]).flatMap Who.subjects) :=
    SubjectSet.ext_mem fun s => by simp
  rcases who with _ | ⟨v, rest⟩
  · exact congrArg (Clause.mk · [] true) hset
  · simp only [openClause, clause?, List.cons_append, reduceCtorEq, false_and, if_false,
      Option.getD_some, Clause.addressing, List.map_nil]
    exact congrArg (Clause.mk · [] true) hset

/-- A complete phrase adds its action to the open clause. -/
theorem openClause_push (who : List Who) (phrases : List Phrase) (p : Phrase) :
    (openClause who phrases).push p.action = openClause who (phrases ++ [p]) := by
  by_cases h : who = [] ∧ phrases = []
  · obtain ⟨rfl, rfl⟩ := h
    rfl
  · simp [openClause, clause?, h, Clause.push]

end Segment

namespace Scan

/-- The scan behind complete segments, each with its comma, and an open one. -/
def behind (done : List Segment) (last : Segment) : Scan :=
  match last.phrases.getLast? with
  | none => ⟨.subjects, done.filterMap Segment.clause?, Segment.openClause last.who [], {}⟩
  | some p =>
    ⟨p.operand.phase, done.filterMap Segment.clause?,
      Segment.openClause last.who last.phrases.dropLast, p.action⟩

/-- In front of all characters a scan is behind the empty segment. -/
theorem behind_empty : behind [] Segment.empty = {} := rfl

theorem behind_nil (done : List Segment) (who : List Who) :
    behind done ⟨who, []⟩ =
      ⟨.subjects, done.filterMap Segment.clause?, Segment.openClause who [], {}⟩ := rfl

theorem behind_concat (done : List Segment) (who : List Who) (phrases : List Phrase) (p : Phrase) :
    behind done ⟨who, phrases ++ [p]⟩ =
      ⟨p.operand.phase, done.filterMap Segment.clause?, Segment.openClause who phrases,
        p.action⟩ := by
  simp [behind]

/-- Completing the open clause keeps it if the segment means a clause, and drops it otherwise. -/
theorem closeClause_openClause (phase : Phase) (done : List Segment) (s : Segment)
    (action : Action) :
    closeClause ⟨phase, done.filterMap Segment.clause?, Segment.openClause s.who s.phrases,
        action⟩ =
      ⟨phase, (done ++ [s]).filterMap Segment.clause?, {}, action⟩ := by
  rw [closeClause, Segment.openClause, List.filterMap_append]
  rcases h : s.clause? with _ | c
  · simp [h]
  · simp [h, Segment.touched_of_clause? h]

/-- If the text ends behind segments, the clauses read are those that the segments mean. -/
theorem finish_behind (done : List Segment) (last : Segment) :
    (behind done last).finish = (done ++ [last]).filterMap Segment.clause? := by
  rcases last.eq_nil_or_concat with h | ⟨phrases, o, operand, h⟩
  · rw [h, behind_nil]
    exact congrArg Scan.clauses (closeClause_openClause _ done ⟨last.who, []⟩ _)
  · rw [h, behind_concat]
    show (closeClause ⟨_, _, (Segment.openClause last.who phrases).push _, _⟩).clauses = _
    rw [Segment.openClause_push]
    exact congrArg Scan.clauses
      (closeClause_openClause _ done ⟨last.who, phrases ++ [⟨o, operand⟩]⟩ _)

/-! ### One character, phase by phase -/

section Phases

variable (clauses : List Clause) (clause : Clause) (action : Action) (c : Char)

theorem feed?_subjects :
    feed? ⟨.subjects, clauses, clause, action⟩ c =
      match SubjectSet.named? c with
      | some named => some ⟨.subjects, clauses, clause.addressing named, action⟩
      | none => feed? ⟨.operator, clauses, clause, action⟩ c := by
  rcases hc : SubjectSet.named? c with _ | named
  · exact feed?_of_passed (by rw [turn, hc])
  · exact feed?_of_taken (by rw [turn, hc])

theorem feed?_copies :
    feed? ⟨.copies, clauses, clause, action⟩ c =
      match Subject.ofLetter? c with
      | some s => some ⟨.copies, clauses, clause, action.copying s⟩
      | none => feed? ⟨.operator, clauses, clause.push action, {}⟩ c := by
  rcases hc : Subject.ofLetter? c with _ | s
  · exact feed?_of_passed (by rw [turn, hc]; rfl)
  · exact feed?_of_taken (by rw [turn, hc])

theorem feed?_permissions :
    feed? ⟨.permissions, clauses, clause, action⟩ c =
      match Permission.ofLetter? c with
      | some p => some ⟨.permissions, clauses, clause, action.granting p⟩
      | none => feed? ⟨.operator, clauses, clause.push action, {}⟩ c := by
  rcases hc : Permission.ofLetter? c with _ | p
  · exact feed?_of_passed (by rw [turn, hc]; rfl)
  · exact feed?_of_taken (by rw [turn, hc])

theorem feed?_operand :
    feed? ⟨.operand, clauses, clause, action⟩ c =
      feed? ⟨if (Subject.ofLetter? c).isSome then .copies else .permissions, clauses, clause,
        action⟩ c :=
  feed?_of_passed rfl

theorem feed?_separator :
    feed? ⟨.separator, clauses, clause, action⟩ c =
      if c = ',' then some ⟨.subjects, clauses, clause, action⟩ else none := by
  by_cases hc : c = ','
  · rw [if_pos hc]
    exact feed?_of_taken (by rw [turn, if_pos hc])
  · rw [if_neg hc]
    exact feed?_of_refused (by rw [turn, if_neg hc])

theorem feed?_operator :
    feed? ⟨.operator, clauses, clause, action⟩ c =
      match Operator.ofSymbol? c with
      | some o => some ⟨.operand, clauses, clause, action.beginning o⟩
      | none =>
        if c = ',' then
          some { closeClause ⟨.operator, clauses, clause, action⟩ with phase := .subjects }
        else none := by
  rcases hc : Operator.ofSymbol? c with _ | o
  · rw [feed?_of_passed (by rw [turn, hc])]
    exact feed?_separator _ _ _ c
  · exact feed?_of_taken (by rw [turn, hc])

end Phases

/-! ### One character behind segments -/

/-- Behind a segment whose last part is over, a symbol begins a phrase, a comma completes the
segment, and nothing else may stand. -/
theorem feed?_operator_openClause (done : List Segment) (who : List Who) (phrases : List Phrase)
    (c : Char) :
    feed? ⟨.operator, done.filterMap Segment.clause?, Segment.openClause who phrases, {}⟩ c =
      match Operator.ofSymbol? c with
      | some o => some (behind done ⟨who, phrases ++ [⟨o, .spelled []⟩]⟩)
      | none =>
        if c = ',' then some (behind (done ++ [⟨who, phrases⟩]) Segment.empty) else none := by
  rw [feed?_operator, closeClause_openClause _ _ ⟨who, phrases⟩]
  rcases Operator.ofSymbol? c with _ | o
  · rfl
  · dsimp only
    rw [behind_concat]
    rfl

/-- In front of all phrases, a letter names subjects. -/
theorem feed?_behind_nil (done : List Segment) (who : List Who) (c : Char) :
    (behind done ⟨who, []⟩).feed? c =
      match Who.ofLetter? c with
      | some w => some (behind done ⟨who ++ [w], []⟩)
      | none =>
        feed? ⟨.operator, done.filterMap Segment.clause?, Segment.openClause who [], {}⟩ c := by
  rw [behind_nil, feed?_subjects, SubjectSet.named?_eq]
  rcases Who.ofLetter? c with _ | w
  · rfl
  · rw [Option.map_some]
    dsimp only
    rw [Segment.openClause_addressing, behind_nil]

/-- Behind a symbol, a letter belongs to the operand as long as the grammar lets it. -/
theorem feed?_behind_concat (done : List Segment) (who : List Who) (phrases : List Phrase)
    (o : Operator) (operand : Operand) (c : Char) :
    (behind done ⟨who, phrases ++ [⟨o, operand⟩]⟩).feed? c =
      match operand.extend? c with
      | some longer => some (behind done ⟨who, phrases ++ [⟨o, longer⟩]⟩)
      | none =>
        feed? ⟨.operator, done.filterMap Segment.clause?,
          Segment.openClause who (phrases ++ [⟨o, operand⟩]), {}⟩ c := by
  rw [behind_concat, ← Segment.openClause_push]
  -- the phase of a scan behind a symbol is settled by what the operand has so far
  rcases operand with ⟨first, more⟩ | ⟨_ | ⟨p, rest⟩⟩
  · rw [Operand.phase, feed?_copies, Operand.extend?]
    rcases Subject.ofLetter? c with _ | s
    · rfl
    · rw [Option.map_some]
      dsimp only
      rw [behind_concat, Phrase.action_copied_concat]
      rfl
  · rw [Operand.phase, feed?_operand, Operand.extend?]
    -- the first letter is looked at twice, to settle the kind of operand and then as its letter
    rcases hs : Subject.ofLetter? c with _ | s
    · rw [Option.isSome_none, if_neg (by decide), feed?_permissions]
      rcases Permission.ofLetter? c with _ | p
      · rfl
      · rw [Option.map_some]
        dsimp only
        rw [behind_concat]
        rfl
    · rw [Option.isSome_some, if_pos rfl, feed?_copies, hs]
      dsimp only
      rw [behind_concat]
      rfl
  · rw [Operand.phase, feed?_permissions, Operand.extend?]
    rcases Permission.ofLetter? c with _ | q
    · rfl
    · rw [Option.map_some]
      dsimp only
      rw [behind_concat, Phrase.action_spelled_concat]
      rfl

/-- A letter that the open segment can grow by is taken, and any other character meets a scan that
is over with the last part of the segment. -/
theorem feed?_behind_letter (done : List Segment) (last : Segment) (c : Char) :
    (behind done last).feed? c =
      match last.extendLetter? c with
      | some longer => some (behind done longer)
      | none =>
        feed? ⟨.operator, done.filterMap Segment.clause?,
          Segment.openClause last.who last.phrases, {}⟩ c := by
  rcases last.eq_nil_or_concat with h | ⟨phrases, o, operand, h⟩
  · rw [h, feed?_behind_nil, Segment.extendLetter?_nil]
    cases Who.ofLetter? c <;> rfl
  · rw [h, feed?_behind_concat, Segment.extendLetter?_concat]
    cases operand.extend? c <;> rfl

/-- **What a character does behind segments.** A comma completes the open one; any other character
has to be one that the open segment can grow by, and is refused if it is not. -/
theorem feed?_behind (done : List Segment) (last : Segment) (c : Char) :
    (behind done last).feed? c =
      if c = ',' then some (behind (done ++ [last]) Segment.empty)
      else (last.extend? c).map (behind done) := by
  rw [feed?_behind_letter, feed?_operator_openClause]
  by_cases hc : c = ','
  · rw [if_pos hc, hc, Segment.extendLetter?_comma]
    rfl
  rw [if_neg hc, if_neg hc]
  -- what is not a comma is a symbol, which is no letter, or else it has to be a letter
  rcases ho : Operator.ofSymbol? c with _ | o
  · rw [Segment.extend?_of_ofSymbol?_eq_none ho]
    cases last.extendLetter? c <;> rfl
  · obtain rfl := Operator.ofSymbol?_eq_some_iff.mp ho
    rw [Segment.extendLetter?_symbol, Segment.extend?_symbol]
    rfl

/-- A character is refused behind segments if it is no comma and the open one cannot grow by it. -/
theorem feed?_behind_eq_none_iff {done : List Segment} {last : Segment} {c : Char} :
    (behind done last).feed? c = none ↔ c ≠ ',' ∧ last.extend? c = none := by
  rw [feed?_behind]
  split <;> simp_all

/-- A symbol is never refused. -/
theorem feed?_behind_symbol (done : List Segment) (last : Segment) (o : Operator) :
    (behind done last).feed? o.symbol =
      some (behind done ⟨last.who, last.phrases ++ [⟨o, .spelled []⟩]⟩) := by
  have hcomma : o.symbol ≠ ',' := by
    cases o <;> decide
  rw [feed?_behind, if_neg hcomma, Segment.extend?_symbol]
  rfl

/-! ### A whole text -/

/-- Growing the open segment along a text is what feeding the text does to the scan behind it. -/
theorem feedAll_behind {last longer : Segment} {text : List Char}
    (h : last.extendAll? text = some longer) (done : List Segment) (position : Nat) :
    (behind done last).feedAll position text = .ok (behind done longer) := by
  induction text generalizing last position with
  | nil =>
    cases h
    rfl
  | cons c rest ih =>
    obtain ⟨next, hnext, hrest⟩ := Option.bind_eq_some_iff.mp h
    have hc : c ≠ ',' := by
      rintro rfl
      rw [Segment.extend?_comma] at hnext
      contradiction
    rw [feedAll, feed?_behind, if_neg hc, hnext]
    exact ih hrest (position + 1)

/-- A comma completes the open segment. -/
theorem feedAll_behind_comma (done : List Segment) (last : Segment) (position : Nat)
    (text : List Char) :
    (behind done last).feedAll position (',' :: text) =
      (behind (done ++ [last]) Segment.empty).feedAll (position + 1) text := by
  rw [feedAll, feed?_behind, if_pos rfl]

/-- **The text of segments is taken as a whole.** -/
theorem feedAll_charsOfList (done segments : List Segment) (last : Segment) (position : Nat) :
    (behind done Segment.empty).feedAll position (Segment.charsOfList (segments ++ [last])) =
      .ok (behind (done ++ segments) last) := by
  induction segments generalizing done position with
  | nil =>
    rw [List.nil_append, List.append_nil, Segment.charsOfList_singleton]
    exact feedAll_behind last.extendAll?_chars done position
  | cons s rest ih =>
    rw [List.cons_append, Segment.charsOfList_cons (by simp), feedAll_append,
      feedAll_behind s.extendAll?_chars]
    show Scan.feedAll _ _ _ = _
    rw [feedAll_behind_comma, ih, List.append_assoc]
    rfl

/-- Where a character is taken, the scan is behind segments again, and their text has the character
more. -/
theorem exists_behind_of_feed? {done : List Segment} {last : Segment} {c : Char} {t : Scan}
    (h : (behind done last).feed? c = some t) :
    ∃ done' last', t = behind done' last' ∧
      Segment.charsOfList (done' ++ [last']) = Segment.charsOfList (done ++ [last]) ++ [c] := by
  rw [feed?_behind] at h
  by_cases hc : c = ','
  · rw [if_pos hc] at h
    cases h
    refine ⟨done ++ [last], Segment.empty, rfl, ?_⟩
    rw [hc]
    exact Segment.charsOfList_concat_empty done last
  · rw [if_neg hc] at h
    obtain ⟨longer, hlonger, rfl⟩ := Option.map_eq_some_iff.mp h
    refine ⟨done, longer, rfl, ?_⟩
    rw [Segment.charsOfList_concat, Segment.chars_of_extend? hlonger, Segment.charsOfList_concat,
      List.append_assoc]

/-- **Whatever is taken is the text of segments.** -/
theorem exists_behind_of_feedAll {done : List Segment} {last : Segment} {position : Nat}
    {text : List Char} {t : Scan} (h : (behind done last).feedAll position text = .ok t) :
    ∃ done' last', t = behind done' last' ∧
      Segment.charsOfList (done' ++ [last']) = Segment.charsOfList (done ++ [last]) ++ text := by
  induction text generalizing done last position with
  | nil =>
    cases h
    exact ⟨done, last, rfl, (List.append_nil _).symm⟩
  | cons c rest ih =>
    rw [feedAll] at h
    rcases hc : (behind done last).feed? c with _ | next
    · rw [hc] at h
      contradiction
    · rw [hc] at h
      obtain ⟨done₁, last₁, rfl, htext₁⟩ := exists_behind_of_feed? hc
      obtain ⟨done₂, last₂, ht, htext₂⟩ := ih h
      refine ⟨done₂, last₂, ht, ?_⟩
      rw [htext₂, htext₁, List.append_assoc]
      rfl

/-- A scan takes a text exactly if the text is derived, and then it stands behind the segments. -/
theorem feedAll_eq_ok_iff {text : List Char} {t : Scan} :
    ({} : Scan).feedAll 0 text = .ok t ↔
      ∃ done last, Derived text (done ++ [last]) ∧ t = behind done last := by
  rw [← behind_empty]
  constructor
  · intro h
    obtain ⟨done, last, ht, htext⟩ := exists_behind_of_feedAll h
    exact ⟨done, last, ⟨by simp, htext.symm⟩, ht⟩
  · rintro ⟨done, last, ⟨-, rfl⟩, rfl⟩
    exact feedAll_charsOfList [] done last 0

end Scan

/-- **The clauses of a text** are those that the segments mean from which it is derived. -/
theorem Clause.readAll_eq_ok_iff {text : List Char} {clauses : List Clause} :
    Clause.readAll text = .ok clauses ↔
      ∃ segments, Derived text segments ∧ clauses = segments.filterMap Segment.clause? := by
  rw [readAll]
  constructor
  · intro h
    rcases ht : ({} : Scan).feedAll 0 text with e | t
    · rw [ht] at h
      contradiction
    · obtain ⟨done, last, hderived, rfl⟩ := Scan.feedAll_eq_ok_iff.mp ht
      rw [ht] at h
      cases h
      exact ⟨done ++ [last], hderived, Scan.finish_behind done last⟩
  · rintro ⟨segments, hderived, rfl⟩
    rcases List.eq_nil_or_concat segments with rfl | ⟨done, last, rfl⟩
    · exact absurd rfl hderived.1
    · rw [List.concat_eq_append] at hderived ⊢
      rw [Scan.feedAll_eq_ok_iff.mpr ⟨done, last, hderived, rfl⟩]
      exact congrArg Except.ok (Scan.finish_behind done last)

end FileMode
