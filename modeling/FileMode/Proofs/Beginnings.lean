import FileMode.Proofs.OpenSegment

/-!
# The beginning of a text

What has been read of a text is **never revised** by what follows: a further character adds to the
last action of the last clause, or begins something behind it. So the clauses of a beginning of a
text are clauses of the whole, all but the last, and that one has grown; of its actions too only the
last has (`Mode.parse_beginning`). One relation on lists, `GrowsInto`, says this of clauses and,
within a clause, of actions. It is shown for one character (`Scan.growsInto_of_feed?`) and follows
for a text by transitivity.

That a beginning is read at all is no part of this: whatever stands in front of a character that is
taken has been taken itself.
-/

namespace FileMode

/-! ### Growing lists -/

/-- A list **grows into** another one that is at least as long, has the same entries up to the last
one of the first list, and in its place an entry that this one is related to. -/
structure GrowsInto {α : Type} (r : α → α → Prop) (l m : List α) : Prop where
  length_le : l.length ≤ m.length
  earlier : ∀ i, i + 1 < l.length → l[i]? = m[i]?
  last : ∀ a, l.getLast? = some a → ∃ b, m[l.length - 1]? = some b ∧ r a b

namespace GrowsInto

variable {α : Type} {r : α → α → Prop}

/-- A list grows into any list that goes on behind it. -/
theorem append (hr : ∀ a, r a a) (l more : List α) : GrowsInto r l (l ++ more) where
  length_le := by
    rw [List.length_append]
    omega
  earlier i hi := (List.getElem?_append_left (by omega)).symm
  last a ha := by
    rw [List.getLast?_eq_getElem?] at ha
    obtain ⟨hlt, -⟩ := List.getElem?_eq_some_iff.mp ha
    exact ⟨a, by rw [List.getElem?_append_left hlt, ha], hr a⟩

theorem refl (hr : ∀ a, r a a) (l : List α) : GrowsInto r l l := by
  have h := append hr l []
  rw [List.append_nil] at h
  exact h

/-- A list grows by its last entry. -/
theorem concat {a b : α} (h : r a b) (l : List α) : GrowsInto r (l ++ [a]) (l ++ [b]) where
  length_le := by
    rw [List.length_append, List.length_append]
    exact Nat.le_refl _
  earlier i hi := by
    rw [List.length_append, List.length_singleton] at hi
    rw [List.getElem?_append_left (by omega), List.getElem?_append_left (by omega)]
  last a' ha := by
    obtain rfl : a = a' := by simpa using ha
    exact ⟨b, by simp, h⟩

theorem trans {l m n : List α} (h : GrowsInto r l m) (h' : GrowsInto r m n)
    (hr : ∀ a b c, r a b → r b c → r a c) : GrowsInto r l n where
  length_le := Nat.le_trans h.length_le h'.length_le
  earlier i hi := (h.earlier i hi).trans (h'.earlier i (Nat.lt_of_lt_of_le hi h.length_le))
  last a ha := by
    obtain ⟨b, hb, hab⟩ := h.last a ha
    rcases Nat.lt_or_ge (l.length - 1 + 1) m.length with hlt | hge
    · -- behind the last entry of the first list the second goes on, and does not grow there
      exact ⟨b, (h'.earlier _ hlt).symm.trans hb, hab⟩
    · have hlength : l.length = m.length := by
        rw [List.getLast?_eq_getElem?] at ha
        obtain ⟨hlt, -⟩ := List.getElem?_eq_some_iff.mp ha
        have hle := h.length_le
        omega
      rw [hlength, ← List.getLast?_eq_getElem?] at hb
      obtain ⟨c, hc, hbc⟩ := h'.last b hb
      exact ⟨c, by rw [hlength, hc], hr a b c hab hbc⟩

end GrowsInto

/-! ### Growing actions and clauses -/

/-- An action is **within** another with the same operator that copies and spells out as much or
more. -/
structure Action.Within (a b : Action) : Prop where
  operator : a.operator = b.operator
  copies : ∀ s ∈ a.copies, s ∈ b.copies
  permissions : ∀ p ∈ a.permissions, p ∈ b.permissions

theorem Action.Within.refl (a : Action) : a.Within a := ⟨rfl, fun _ => id, fun _ => id⟩

theorem Action.Within.trans {a b c : Action} (h : a.Within b) (h' : b.Within c) : a.Within c :=
  ⟨h.operator.trans h'.operator, fun s hs => h'.copies s (h.copies s hs),
    fun p hp => h'.permissions p (h.permissions p hp)⟩

/-- A clause is **within** another that addresses as many subjects or more, if its actions grow into
those of the other. -/
structure Clause.Within (c d : Clause) : Prop where
  subjects : ∀ s ∈ c.subjects, s ∈ d.subjects
  actions : GrowsInto Action.Within c.actions d.actions

theorem Clause.Within.refl (c : Clause) : c.Within c :=
  ⟨fun _ => id, .refl Action.Within.refl c.actions⟩

theorem Clause.Within.trans {c d e : Clause} (h : c.Within d) (h' : d.Within e) : c.Within e :=
  ⟨fun s hs => h'.subjects s (h.subjects s hs),
    h.actions.trans h'.actions fun _ _ _ => Action.Within.trans⟩

/-! ### One more character -/

/-- The action of a phrase is within that of the phrase with a longer operand. -/
theorem Phrase.within_of_extend? {operand longer : Operand} {c : Char}
    (h : operand.extend? c = some longer) (o : Operator) :
    (action ⟨o, operand⟩).Within (action ⟨o, longer⟩) := by
  have hchars : ∀ d ∈ operand.chars, d ∈ longer.chars := by
    rw [Operand.chars_of_extend? h]
    exact fun d => List.mem_append_left [c]
  refine ⟨rfl, fun s hs => ?_, fun p hp => ?_⟩
  · have hletter := hchars _ (Operand.mem_copies_iff.mp (SubjectSet.mem_ofList.mp hs))
    exact SubjectSet.mem_ofList.mpr (Operand.mem_copies_iff.mpr hletter)
  · have hletter := hchars _ (Operand.mem_permissions_iff.mp (PermissionSet.mem_ofList.mp hp))
    exact PermissionSet.mem_ofList.mpr (Operand.mem_permissions_iff.mpr hletter)

namespace Segment

/-- **The clause of a segment is within that of the longer segment.** -/
theorem within_of_extend? {s longer : Segment} {c : Char} (h : s.extend? c = some longer)
    {a b : Clause} (ha : s.clause? = some a) (hb : longer.clause? = some b) : a.Within b := by
  obtain ⟨-, rfl⟩ := clause?_eq_some_iff.mp ha
  obtain ⟨-, rfl⟩ := clause?_eq_some_iff.mp hb
  rcases hc : Operator.ofSymbol? c with _ | o
  · rw [extend?_of_ofSymbol?_eq_none hc] at h
    rcases s.eq_nil_or_concat with hs | ⟨phrases, o, operand, hs⟩
    · -- one more letter in front of the clause
      rw [hs, extendLetter?_nil] at h
      obtain ⟨w, -, rfl⟩ := Option.map_eq_some_iff.mp h
      refine ⟨fun x hx => ?_, ?_⟩
      · rw [SubjectSet.mem_ofList] at hx ⊢
        rw [List.flatMap_append]
        exact List.mem_append_left _ hx
      · rw [hs]
        exact .refl Action.Within.refl []
    · -- one more letter in the last operand
      rw [hs, extendLetter?_concat] at h
      obtain ⟨operand', hoperand, rfl⟩ := Option.map_eq_some_iff.mp h
      refine ⟨fun x => id, ?_⟩
      rw [hs, List.map_append, List.map_append]
      exact .concat (Phrase.within_of_extend? hoperand o) _
  · obtain rfl := Operator.ofSymbol?_eq_some_iff.mp hc
    obtain rfl := Option.some.inj ((extend?_symbol s o).symm.trans h)
    refine ⟨fun x => id, ?_⟩
    rw [List.map_append]
    exact .append Action.Within.refl _ _

end Segment

namespace Scan

/-- **A character that is taken lets the clauses read so far grow.** -/
theorem growsInto_of_feed? {done : List Segment} {last : Segment} {c : Char} {t : Scan}
    (h : (behind done last).feed? c = some t) :
    GrowsInto Clause.Within (behind done last).finish t.finish := by
  rw [feed?_behind] at h
  split at h
  · -- a comma completes the last clause as it stands
    obtain rfl := Option.some.inj h
    have hsame : (done ++ [last] ++ [Segment.empty]).filterMap Segment.clause? =
        (done ++ [last]).filterMap Segment.clause? := by
      rw [List.filterMap_append]
      exact List.append_nil _
    rw [finish_behind, finish_behind, hsame]
    exact .refl Clause.Within.refl _
  · obtain ⟨longer, hlonger, rfl⟩ := Option.map_eq_some_iff.mp h
    have hne : longer ≠ Segment.empty := by
      rintro rfl
      have hchars := Segment.chars_of_extend? hlonger
      simp [Segment.empty, Segment.chars] at hchars
    have hb := Segment.clause?_eq_some_iff.mpr ⟨hne, rfl⟩
    rw [finish_behind, finish_behind, List.filterMap_append, List.filterMap_append,
      List.filterMap_cons_some hb]
    rcases ha : last.clause? with _ | a
    · rw [List.filterMap_cons_none ha, List.filterMap_nil, List.append_nil]
      exact .append Clause.Within.refl _ _
    · rw [List.filterMap_cons_some ha]
      exact .concat (Segment.within_of_extend? hlonger ha hb) _

/-- A text that is taken lets the clauses read so far grow. -/
theorem growsInto_of_feedAll {done : List Segment} {last : Segment} {position : Nat}
    {text : List Char} {t : Scan} (h : (behind done last).feedAll position text = .ok t) :
    GrowsInto Clause.Within (behind done last).finish t.finish := by
  induction text generalizing done last position with
  | nil =>
    cases h
    exact .refl Clause.Within.refl _
  | cons c rest ih =>
    rw [feedAll] at h
    rcases hc : (behind done last).feed? c with _ | next
    · rw [hc] at h
      contradiction
    · rw [hc] at h
      have hstep := growsInto_of_feed? hc
      obtain ⟨done', last', rfl, -⟩ := exists_behind_of_feed? hc
      exact hstep.trans (ih h) fun _ _ _ => Clause.Within.trans

end Scan

namespace Mode

/-- **Reading revises nothing.** Any beginning of a text that is read as clauses is read as clauses
too, and these grow into those of the whole: they are the same but for the last one, which is within
the one in its place. -/
theorem parse_beginning {first second : String} {clauses : List Clause}
    (h : parse (first ++ second) = .ok (symbolic clauses)) :
    ∃ earlier, parse first = .ok (symbolic earlier) ∧
      GrowsInto Clause.Within earlier clauses := by
  rw [parse, String.toList_append] at h
  obtain ⟨segments, hderived, rfl⟩ := ofChars_eq_symbolic_iff.mp h
  obtain ⟨done, last, rfl⟩ := hderived.exists_eq_concat
  have hwhole := Scan.feedAll_eq_ok_iff.mpr ⟨done, last, hderived, rfl⟩
  obtain ⟨u, hfirst⟩ := Scan.exists_feedAll_of_append hwhole
  obtain ⟨done', last', hderived', rfl⟩ := Scan.feedAll_eq_ok_iff.mp hfirst
  rw [Scan.feedAll_append, hfirst] at hwhole
  have hgrows := Scan.growsInto_of_feedAll hwhole
  rw [Scan.finish_behind, Scan.finish_behind] at hgrows
  exact ⟨_, ofChars_eq_symbolic_iff.mpr ⟨_, hderived', rfl⟩, hgrows⟩

/-- A text cut between two letters to copy from, behind a clause that is complete. -/
theorem parse_beginning_copying :
    parse ("a=,go-x+u" ++ "gu-,u") = .ok (symbolic
      [⟨.everyone, [⟨.set, ∅, ∅, true⟩], true⟩,
        ⟨.ofList [.group, .others], [⟨.remove, ∅, .ofList [.execute], true⟩,
          ⟨.add, .ofList [.user, .group], ∅, true⟩, ⟨.remove, ∅, ∅, true⟩], true⟩,
        ⟨.ofList [.user], [], true⟩]) ∧
    parse "a=,go-x+u" = .ok (symbolic
      [⟨.everyone, [⟨.set, ∅, ∅, true⟩], true⟩,
        ⟨.ofList [.group, .others], [⟨.remove, ∅, .ofList [.execute], true⟩,
          ⟨.add, .ofList [.user], ∅, true⟩], true⟩]) ∧
    GrowsInto Clause.Within
      [⟨.everyone, [⟨.set, ∅, ∅, true⟩], true⟩,
        ⟨.ofList [.group, .others], [⟨.remove, ∅, .ofList [.execute], true⟩,
          ⟨.add, .ofList [.user], ∅, true⟩], true⟩]
      [⟨.everyone, [⟨.set, ∅, ∅, true⟩], true⟩,
        ⟨.ofList [.group, .others], [⟨.remove, ∅, .ofList [.execute], true⟩,
          ⟨.add, .ofList [.user, .group], ∅, true⟩, ⟨.remove, ∅, ∅, true⟩], true⟩,
        ⟨.ofList [.user], [], true⟩] := by
  have hwhole : parse ("a=,go-x+u" ++ "gu-,u") = .ok (symbolic
      [⟨.everyone, [⟨.set, ∅, ∅, true⟩], true⟩,
        ⟨.ofList [.group, .others], [⟨.remove, ∅, .ofList [.execute], true⟩,
          ⟨.add, .ofList [.user, .group], ∅, true⟩, ⟨.remove, ∅, ∅, true⟩], true⟩,
        ⟨.ofList [.user], [], true⟩]) := by cbv
  have hpart : parse "a=,go-x+u" = .ok (symbolic
      [⟨.everyone, [⟨.set, ∅, ∅, true⟩], true⟩,
        ⟨.ofList [.group, .others], [⟨.remove, ∅, .ofList [.execute], true⟩,
          ⟨.add, .ofList [.user], ∅, true⟩], true⟩]) := by cbv
  obtain ⟨earlier, hearlier, hgrows⟩ := parse_beginning hwhole
  obtain rfl := symbolic.inj (Except.ok.inj (hpart.symm.trans hearlier))
  exact ⟨hwhole, hpart, hgrows⟩

end Mode

end FileMode
