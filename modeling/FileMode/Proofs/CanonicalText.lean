import FileMode.Clause.Canonical
import FileMode.Proofs.LeadingZeros
import FileMode.Proofs.RoundTrip
import Mathlib.Data.List.Sort

/-!
# Texts that are canonical already

Rendering what was read from a text gives another text, as a rule: letters are put in order, double
ones and empty segments dropped, zeros added or taken away. Here it is said **which texts stay as
they are** (`Mode.render_eq_iff_canonical`). Each kind of text has a condition of its own, on the
text alone: a numeral is four digits wide, or wider without a zero in front; clauses are canonical
segments, or there are none.

For clauses it comes to this: a segment that is written for a clause is canonical
(`Clause.canonical_segment`), and a canonical segment is the one that is written for the clause that
it means (`Segment.Canonical.exists_clause`). For numerals, the width leaves of all that have the
same value only one.
-/

namespace FileMode

/-! ### Ascending letters -/

/-- A list whose entries ascend is determined by its members. -/
theorem eq_of_ascending {α : Type} {rank : α → Nat} {l m : List α}
    (hl : l.Pairwise fun a b => rank a < rank b) (hm : m.Pairwise fun a b => rank a < rank b)
    (h : ∀ a, a ∈ l ↔ a ∈ m) : l = m := by
  have hirrefl : Std.Irrefl fun a b : α => rank a < rank b := ⟨fun a => Nat.lt_irrefl (rank a)⟩
  have hantisymm : Std.Antisymm fun a b : α => rank a < rank b :=
    ⟨fun a b hab hba => absurd hab (Nat.lt_asymm hba)⟩
  exact hl.eq_of_mem_iff hm h

namespace SubjectSet

/-- The members of a set ascend as they are written. -/
theorem pairwise_rank_toList (set : SubjectSet) :
    set.toList.Pairwise fun s t => s.rank < t.rank := by
  have hall : Subject.all.Pairwise fun s t => s.rank < t.rank := by decide
  exact hall.filter _

/-- Ascending subjects are written as they stand. -/
theorem toList_ofList {subjects : List Subject}
    (h : subjects.Pairwise fun s t => s.rank < t.rank) : (ofList subjects).toList = subjects :=
  eq_of_ascending (pairwise_rank_toList _) h fun _ => mem_toList.trans mem_ofList

end SubjectSet

namespace PermissionSet

/-- The members of a set ascend as they are written. -/
theorem pairwise_rank_toList (set : PermissionSet) :
    set.toList.Pairwise fun p q => p.rank < q.rank := by
  have hall : Permission.all.Pairwise fun p q => p.rank < q.rank := by decide
  exact hall.filter _

/-- Ascending permissions are written as they stand. -/
theorem toList_ofList {permissions : List Permission}
    (h : permissions.Pairwise fun p q => p.rank < q.rank) :
    (ofList permissions).toList = permissions :=
  eq_of_ascending (pairwise_rank_toList _) h fun _ => mem_toList.trans mem_ofList

end PermissionSet

/-! ### Canonical segments -/

/-- The phrase that writes an action has ascending letters. -/
theorem Action.ascending_phrase (a : Action) : a.phrase.operand.Ascending := by
  rcases hcopies : a.copies.toList with _ | ⟨first, more⟩
  · rw [phrase_of_copies_eq_nil hcopies]
    exact a.permissions.pairwise_rank_toList
  · have hpairs := a.copies.pairwise_rank_toList
    rw [hcopies] at hpairs
    rw [phrase_of_copies_eq_cons hcopies]
    exact hpairs

/-- A phrase with ascending letters writes the action that it means. -/
theorem Phrase.phrase_action {p : Phrase} (h : p.operand.Ascending) : p.action.phrase = p := by
  obtain ⟨o, ⟨first, more⟩ | permissions⟩ := p
  · exact Action.phrase_of_copies_eq_cons (SubjectSet.toList_ofList h)
  · have hcopies : (Phrase.action ⟨o, .spelled permissions⟩).copies.toList = [] := rfl
    rw [Action.phrase_of_copies_eq_nil hcopies]
    show (⟨o, .spelled (PermissionSet.ofList permissions).toList⟩ : Phrase) = _
    rw [PermissionSet.toList_ofList h]

/-- **The segment that writes a clause is canonical**, if the clause says something. -/
theorem Clause.canonical_segment {c : Clause} (h : c.SaysSomething) : c.segment.Canonical where
  ne_nil := by
    rcases h with hsubjects | hactions
    · exact .inl (mt List.map_eq_nil_iff.mp (SubjectSet.toList_ne_nil_iff.mpr hsubjects))
    · exact .inr (mt List.map_eq_nil_iff.mp hactions)
  who_ascending := ⟨c.subjects.toList, rfl, c.subjects.pairwise_rank_toList⟩
  operands_ascending p hp := by
    obtain ⟨a, -, rfl⟩ := List.mem_map.mp hp
    exact a.ascending_phrase

namespace Segment

/-- **A canonical segment writes the clause that it means.** -/
theorem Canonical.exists_clause {s : Segment} (h : s.Canonical) :
    ∃ c, s.clause? = some c ∧ c.segment = s := by
  obtain ⟨hne, ⟨subjects, hwho, hsubjects⟩, hoperands⟩ := h
  have hflat : s.who.flatMap Who.subjects = subjects := by
    rw [hwho, List.flatMap_map]
    exact List.flatMap_singleton' subjects
  have hphrases : (s.phrases.map Phrase.action).map Action.phrase = s.phrases := by
    rw [List.map_map]
    exact (List.map_congr_left fun p hp => Phrase.phrase_action (hoperands p hp)).trans
      (List.map_id _)
  have hsome : ¬ (s.who = [] ∧ s.phrases = []) := fun hnil => hne.elim (· hnil.1) (· hnil.2)
  refine ⟨_, if_neg hsome, ?_⟩
  rw [Clause.segment, hflat, SubjectSet.toList_ofList hsubjects, hphrases, ← hwho]

/-- Canonical segments are written again by the clauses that they mean. -/
theorem map_segment_filterMap {segments : List Segment} (h : ∀ s ∈ segments, s.Canonical) :
    (segments.filterMap clause?).map Clause.segment = segments := by
  induction segments with
  | nil => rfl
  | cons s rest ih =>
    obtain ⟨c, hc, hsegment⟩ := (h s List.mem_cons_self).exists_clause
    rw [List.filterMap_cons_some hc, List.map_cons, hsegment,
      ih fun t ht => h t (List.mem_cons_of_mem s ht)]

end Segment

/-! ### Canonical numerals -/

namespace Octal

/-- A text is **a canonical numeral** when it is digits of a number in range, either four of them or
more without a zero in front. -/
structure CanonicalNumeral (text : List Char) : Prop where
  digits : text.all isDigit = true
  le_largest : value text ≤ largest
  width : text.length = 4 ∨ 4 < text.length ∧ text.head? ≠ some '0'

/-- A canonical numeral is a numeral. -/
theorem CanonicalNumeral.read?_eq {text : List Char} (h : CanonicalNumeral text) :
    read? text = some (value text) := by
  have hne : text ≠ [] := by
    rintro rfl
    rcases h.width with hwidth | hwidth
    · contradiction
    · exact absurd hwidth.1 (Nat.not_lt_zero 4)
  exact read?_eq_some_iff.mpr ⟨hne, h.digits, rfl, h.le_largest⟩

/-- Digits without a zero in front are those that are written for their value. -/
theorem digits_value_of_head? {text : List Char} (hne : text ≠ [])
    (hall : text.all isDigit = true) (hhead : text.head? ≠ some '0') :
    digits (value text) = text := by
  obtain ⟨zeros, hzeros⟩ := exists_eq_replicate_append hall
  have hnone : zeros = 0 := by
    rcases zeros with _ | count
    · rfl
    · rw [hzeros] at hhead
      exact absurd rfl hhead
  rw [hnone, List.replicate_zero, List.nil_append] at hzeros
  have hvalue : value text ≠ 0 := by
    intro hzero
    rw [hzero, significant_zero] at hzeros
    exact hne hzeros
  rw [← significant_of_ne_zero hvalue, ← hzeros]

/-- Digits are as many as a rendering has, of width four or more, exactly if they are four, or more
without a zero in front. -/
theorem length_eq_max_iff {text : List Char} (hne : text ≠ []) (hall : text.all isDigit = true) :
    text.length = max 4 (digits (value text)).length ↔
      text.length = 4 ∨ 4 < text.length ∧ text.head? ≠ some '0' := by
  have hle := length_digits_le hne hall
  constructor
  · intro hlength
    rcases Nat.lt_or_ge 4 text.length with hlt | hge
    · refine .inr ⟨hlt, fun hzero => ?_⟩
      -- as long as the digits that are written, it is these digits, and a zero is but one
      have hwritten : (digits (value text)).all isDigit = true :=
        List.all_eq_true.mpr fun _ => isDigit_of_mem_digits
      have hsame : text = digits (value text) :=
        eq_of_value_eq hall hwritten (value_digits _).symm (by omega)
      rw [hsame] at hzero
      have hvalue := eq_zero_of_head?_digits hzero
      have hone : (digits 0).length = 1 := by decide
      rw [hvalue] at hlength
      omega
    · exact .inl (by omega)
  · rintro (hfour | ⟨hlt, hhead⟩)
    · omega
    · rw [digits_value_of_head? hne hall hhead]
      omega

/-- The rendering of a number that was read is the text that was read exactly if that is
canonical. -/
theorem render_eq_iff_canonicalNumeral {text : List Char} {n : Nat} (h : read? text = some n) :
    render 4 n = text ↔ CanonicalNumeral text := by
  obtain ⟨hne, hall, rfl, hle⟩ := read?_eq_some_iff.mp h
  have hlength : (render 4 (value text : Int)).length = max 4 (digits (value text)).length := by
    have hsign : sign (value text : Int) = [] := if_neg (by omega)
    rw [length_render, hsign, Int.natAbs_natCast, List.length_nil, Nat.zero_add]
  rw [eq_comm, eq_render_iff 4 (by omega) (by omega), hlength, length_eq_max_iff hne hall]
  exact ⟨fun hwidth => ⟨hall, hle, hwidth.2⟩, fun hcanonical => ⟨⟨_, h, rfl⟩, hcanonical.width⟩⟩

end Octal

/-! ### Texts of modes -/

/-- Canonical clauses are no numeral. -/
theorem CanonicalClauses.read?_eq_none {text : List Char} (h : CanonicalClauses text) :
    Octal.read? text = none := by
  rcases h with rfl | ⟨segments, hderived, -⟩
  · rfl
  · exact hderived.read?_eq_none

namespace Mode

/-- The text of clauses that were read is the text that was read exactly if that is canonical. -/
theorem chars_symbolic_eq_iff {text : String} {clauses : List Clause}
    (h : parse text = .ok (symbolic clauses)) :
    (symbolic clauses).chars = text.toList ↔ CanonicalClauses text.toList := by
  have hreadable : ∀ c ∈ clauses, c.Readable := readable_of_parse h
  rw [chars_symbolic fun c hc a ha => ((hreadable c hc).actions a ha).2]
  constructor
  · intro htext
    rcases eq_or_ne clauses [] with rfl | hne
    · exact .inl htext.symm
    · refine .inr ⟨_, ⟨mt List.map_eq_nil_iff.mp hne, htext.symm⟩, fun s hs => ?_⟩
      obtain ⟨c, hc, rfl⟩ := List.mem_map.mp hs
      exact Clause.canonical_segment (hreadable c hc).saysSomething
  · -- the canonical segments of the text mean the same clauses, and these write them again
    rintro (hnil | ⟨segments, hderived, hcanonical⟩)
    · rw [parse, hnil] at h
      have hempty := h.symm.trans (ofChars_eq_symbolic_iff.mpr ⟨_, derived_nil, rfl⟩)
      rw [hnil, symbolic.inj (Except.ok.inj hempty)]
      rfl
    · have hsame := h.symm.trans (ofChars_eq_symbolic_iff.mpr ⟨_, hderived, rfl⟩)
      rw [symbolic.inj (Except.ok.inj hsame), Segment.map_segment_filterMap hcanonical]
      exact hderived.2.symm

/-- **The texts that stay as they are.** Reading a text and rendering the mode gives the text again
exactly if it is a canonical numeral, or canonical clauses. -/
theorem render_eq_iff_canonical {text : String} {m : Mode} (h : parse text = .ok m) :
    m.render = text ↔ Octal.CanonicalNumeral text.toList ∨ CanonicalClauses text.toList := by
  rw [← String.toList_inj, render, String.toList_ofList]
  rcases m with value | clauses
  · obtain ⟨n, hn, rfl⟩ := ofChars_eq_absolute_iff.mp h
    have hclauses : ¬ CanonicalClauses text.toList := by
      intro hcanonical
      rw [hcanonical.read?_eq_none] at hn
      contradiction
    rw [or_iff_left hclauses]
    exact Octal.render_eq_iff_canonicalNumeral hn
  · obtain ⟨segments, hderived, -⟩ := ofChars_eq_symbolic_iff.mp h
    have hnumeral : ¬ Octal.CanonicalNumeral text.toList := by
      intro hcanonical
      have hread := hcanonical.read?_eq
      rw [hderived.read?_eq_none] at hread
      contradiction
    rw [or_iff_right hnumeral]
    exact chars_symbolic_eq_iff h

/-- Two clauses in order, letters of subjects out of order, all letters of permissions in order and
the last two of them out of order, and a numeral with a zero too many. -/
theorem render_eq_iff_canonical_ordered :
    (parse "go+ug-rX,u=" = .ok (symbolic
        [⟨.ofList [.group, .others], [⟨.add, .ofList [.user, .group], ∅, true⟩,
          ⟨.remove, ∅, .ofList [.read, .executeDir], true⟩], true⟩,
          ⟨.ofList [.user], [⟨.set, ∅, ∅, true⟩], true⟩]) ∧
      (Octal.CanonicalNumeral "go+ug-rX,u=".toList ∨ CanonicalClauses "go+ug-rX,u=".toList)) ∧
    (parse "og+r" = .ok (symbolic
        [⟨.ofList [.group, .others], [⟨.add, ∅, .ofList [.read], true⟩], true⟩]) ∧
      ¬ (Octal.CanonicalNumeral "og+r".toList ∨ CanonicalClauses "og+r".toList)) ∧
    (parse "=rwxXst" = .ok (symbolic [⟨∅, [⟨.set, ∅, .ofList
        [.read, .write, .execute, .executeDir, .setId, .sticky], true⟩], true⟩]) ∧
      (Octal.CanonicalNumeral "=rwxXst".toList ∨ CanonicalClauses "=rwxXst".toList)) ∧
    (parse "=rwxXts" = .ok (symbolic [⟨∅, [⟨.set, ∅, .ofList
        [.read, .write, .execute, .executeDir, .setId, .sticky], true⟩], true⟩]) ∧
      ¬ (Octal.CanonicalNumeral "=rwxXts".toList ∨ CanonicalClauses "=rwxXts".toList)) ∧
    (parse "00755" = .ok (absolute 493) ∧ (absolute 493).render = "0755" ∧
      ¬ (Octal.CanonicalNumeral "00755".toList ∨ CanonicalClauses "00755".toList)) := by
  have hordered : parse "go+ug-rX,u=" = .ok (symbolic
      [⟨.ofList [.group, .others], [⟨.add, .ofList [.user, .group], ∅, true⟩,
        ⟨.remove, ∅, .ofList [.read, .executeDir], true⟩], true⟩,
        ⟨.ofList [.user], [⟨.set, ∅, ∅, true⟩], true⟩]) := by cbv
  have hunordered : parse "og+r" = .ok (symbolic
      [⟨.ofList [.group, .others], [⟨.add, ∅, .ofList [.read], true⟩], true⟩]) := by cbv
  have hall : parse "=rwxXst" = .ok (symbolic [⟨∅, [⟨.set, ∅, .ofList
      [.read, .write, .execute, .executeDir, .setId, .sticky], true⟩], true⟩]) := by cbv
  have hswapped : parse "=rwxXts" = .ok (symbolic [⟨∅, [⟨.set, ∅, .ofList
      [.read, .write, .execute, .executeDir, .setId, .sticky], true⟩], true⟩]) := by cbv
  have hnumeral : parse "00755" = .ok (absolute 493) :=
    ofChars_eq_absolute_iff.mpr ⟨493, by decide, rfl⟩
  have hrender : (absolute 493).render = "0755" := by decide +kernel
  exact ⟨⟨hordered, (render_eq_iff_canonical hordered).mp (by decide +kernel)⟩,
    ⟨hunordered, mt (render_eq_iff_canonical hunordered).mpr (by decide +kernel)⟩,
    ⟨hall, (render_eq_iff_canonical hall).mp (by decide +kernel)⟩,
    ⟨hswapped, mt (render_eq_iff_canonical hswapped).mpr (by decide +kernel)⟩,
    hnumeral, hrender, mt (render_eq_iff_canonical hnumeral).mpr (by decide +kernel)⟩

end Mode

end FileMode
