import FileMode.Proofs.CanonicalSegment
import FileMode.Proofs.Comma
import FileMode.Proofs.OpenSegment

/-!
# Runs of letters

Letters for subjects and the letters of an operand are put into sets, so their order and their
repetitions are lost, and so is the difference between `a` and the three letters that it stands for.
`SameRun` says when one run of letters may stand for another behind a text. **The scan behind both
is the very same** (`SameRun.exists_feedAll`), and with it what comes of any text behind them. All
that can differ is how far a failure there is from the beginning (`Mode.parse_of_sameRun`).

Nothing is claimed of runs that stand elsewhere: behind letters of an operand, say, a letter of the
other kind is refused.
-/

namespace FileMode

/-- One run of letters **may stand for another** behind a text: either at the beginning of a clause,
and they name the same subjects, or behind a symbol, and they are operands with the same letters. -/
inductive SameRun (front : List Char) : List Char → List Char → Prop where
  | who {letters others : List Who} (hend : front = [] ∨ front.getLast? = some ',')
      (hsame : ∀ s, s ∈ letters.flatMap Who.subjects ↔ s ∈ others.flatMap Who.subjects) :
      SameRun front (letters.map Who.letter) (others.map Who.letter)
  | operand {o : Operator} {operand other : Operand} (hend : front.getLast? = some o.symbol)
      (hsame : ∀ c, c ∈ operand.chars ↔ c ∈ other.chars) :
      SameRun front operand.chars other.chars

/-! ### Sets that are put together alike -/

theorem Who.flatMap_subjects_eq_nil_iff {who : List Who} :
    who.flatMap subjects = [] ↔ who = [] := by
  refine ⟨fun h => ?_, fun h => by rw [h, List.flatMap_nil]⟩
  rcases who with _ | ⟨w, rest⟩
  · rfl
  · obtain ⟨s, hs⟩ := w.exists_mem_subjects
    rw [List.flatMap_cons, List.append_eq_nil_iff] at h
    rw [h.1] at hs
    contradiction

/-- The phase behind an operand is settled by the kinds of its letters. -/
theorem Operand.phase_eq (o : Operand) :
    o.phase = if o.copies ≠ [] then .copies
      else if o.permissions ≠ [] then .permissions else .operand := by
  rcases o with ⟨first, more⟩ | ⟨_ | ⟨p, rest⟩⟩ <;> rfl

/-- Two lists with the same members are empty alike. -/
theorem eq_nil_iff_of_mem_iff {α : Type} {l m : List α} (h : ∀ a, a ∈ l ↔ a ∈ m) :
    l = [] ↔ m = [] := by
  simp only [List.eq_nil_iff_forall_not_mem, h]

/-- Lists with the same members give the same set. -/
theorem SubjectSet.ofList_congr {l m : List Subject} (h : ∀ s, s ∈ l ↔ s ∈ m) :
    ofList l = ofList m :=
  ext_mem fun s => mem_ofList.trans ((h s).trans mem_ofList.symm)

/-- Lists with the same members give the same set. -/
theorem PermissionSet.ofList_congr {l m : List Permission} (h : ∀ p, p ∈ l ↔ p ∈ m) :
    ofList l = ofList m :=
  ext_mem fun p => mem_ofList.trans ((h p).trans mem_ofList.symm)

namespace Scan

variable (done : List Segment)

/-- Behind letters for the same subjects stands the same scan. -/
theorem behind_who_congr {who others : List Who}
    (h : ∀ s, s ∈ who.flatMap Who.subjects ↔ s ∈ others.flatMap Who.subjects) :
    behind done ⟨who, []⟩ = behind done ⟨others, []⟩ := by
  have hnil : who = [] ↔ others = [] := by
    rw [← Who.flatMap_subjects_eq_nil_iff, eq_nil_iff_of_mem_iff h,
      Who.flatMap_subjects_eq_nil_iff]
  rw [behind_nil, behind_nil, Segment.openClause, Segment.openClause, Segment.clause?,
    Segment.clause?, SubjectSet.ofList_congr h]
  simp only [hnil]

/-- Behind operands with the same letters stands the same scan. -/
theorem behind_operand_congr (who : List Who) (phrases : List Phrase) (o : Operator)
    {operand other : Operand} (h : ∀ c, c ∈ operand.chars ↔ c ∈ other.chars) :
    behind done ⟨who, phrases ++ [⟨o, operand⟩]⟩ = behind done ⟨who, phrases ++ [⟨o, other⟩]⟩ := by
  have hcopies (s : Subject) : s ∈ operand.copies ↔ s ∈ other.copies :=
    Operand.mem_copies_iff.trans ((h s.letter).trans Operand.mem_copies_iff.symm)
  have hpermissions (p : Permission) : p ∈ operand.permissions ↔ p ∈ other.permissions :=
    Operand.mem_permissions_iff.trans ((h p.letter).trans Operand.mem_permissions_iff.symm)
  have hphase : operand.phase = other.phase := by
    simp only [Operand.phase_eq, ne_eq, eq_nil_iff_of_mem_iff hcopies,
      eq_nil_iff_of_mem_iff hpermissions]
  rw [behind_concat, behind_concat, Phrase.action, Phrase.action, hphase,
    SubjectSet.ofList_congr hcopies, PermissionSet.ofList_congr hpermissions]

end Scan

/-- An operand is read behind its symbol. -/
theorem Segment.extendAll?_operand (who : List Who) (phrases : List Phrase) (o : Operator)
    (operand : Operand) :
    extendAll? ⟨who, phrases ++ [⟨o, .spelled []⟩]⟩ operand.chars =
      some ⟨who, phrases ++ [⟨o, operand⟩]⟩ := by
  have hphrase := extendAll?_phrase who phrases ⟨o, operand⟩
  rw [Phrase.chars, extendAll?_cons, extend?_symbol] at hphrase
  exact hphrase

/-! ### What is behind a run -/

namespace SameRun

variable {front run other : List Char}

theorem symm (h : SameRun front run other) : SameRun front other run := by
  cases h with
  | who hend hsame => exact .who hend fun s => (hsame s).symm
  | operand hend hsame => exact .operand hend fun c => (hsame c).symm

/-- **Both runs are taken, and the scan behind them is the same.** -/
theorem exists_feedAll (h : SameRun front run other) {t : Scan}
    (ht : ({} : Scan).feedAll 0 front = .ok t) :
    ∃ u, ∀ position, t.feedAll position run = .ok u ∧ t.feedAll position other = .ok u := by
  cases h with
  | @who letters others hend hsame =>
    obtain ⟨done, last, hderived, rfl⟩ := Scan.feedAll_eq_ok_iff.mp ht
    obtain rfl := hderived.last_eq_empty_iff.mp hend
    refine ⟨Scan.behind done ⟨letters, []⟩, fun position => ⟨?_, ?_⟩⟩
    · exact Scan.feedAll_behind (Segment.extendAll?_who [] letters) done position
    · rw [Scan.behind_who_congr done hsame]
      exact Scan.feedAll_behind (Segment.extendAll?_who [] others) done position
  | @operand o operand other hend hsame =>
    obtain ⟨earlier, rfl⟩ := List.getLast?_eq_some_iff.mp hend
    obtain ⟨done, who, phrases, rfl⟩ := Scan.exists_behind_of_symbol ht
    refine ⟨Scan.behind done ⟨who, phrases ++ [⟨o, operand⟩]⟩, fun position => ⟨?_, ?_⟩⟩
    · exact Scan.feedAll_behind (Segment.extendAll?_operand who phrases o operand) done position
    · rw [Scan.behind_operand_congr done who phrases o hsame]
      exact Scan.feedAll_behind (Segment.extendAll?_operand who phrases o other) done position

/-- A run has no digits. -/
theorem isDigit_eq_false (h : SameRun front run other) {c : Char} (hc : c ∈ run) :
    Octal.isDigit c = false := by
  refine Bool.eq_false_iff.mpr fun hdigit => ?_
  obtain ⟨-, hwho, hsubject, hpermission, -⟩ := Octal.kinds_of_isDigit hdigit
  cases h with
  | who hend hsame =>
    obtain ⟨w, -, rfl⟩ := List.mem_map.mp hc
    rw [Who.ofLetter?_letter] at hwho
    contradiction
  | @operand o operand other hend hsame =>
    rcases operand with ⟨first, more⟩ | permissions
    · obtain ⟨s, -, rfl⟩ := List.mem_map.mp hc
      rw [Subject.ofLetter?_letter] at hsubject
      contradiction
    · obtain ⟨p, -, rfl⟩ := List.mem_map.mp hc
      rw [Permission.ofLetter?_letter] at hpermission
      contradiction

/-- A text with a run in it is no numeral, unless the run is empty. -/
theorem read?_eq_none (h : SameRun front run other) (hne : run ≠ []) (back : List Char) :
    Octal.read? (front ++ run ++ back) = none := by
  refine Option.eq_none_iff_forall_ne_some.mpr fun n hn => ?_
  obtain ⟨-, hall, -, -⟩ := Octal.read?_eq_some_iff.mp hn
  obtain ⟨c, hc⟩ := List.exists_mem_of_ne_nil run hne
  have hdigit := List.all_eq_true.mp hall c (by simp [hc])
  rw [h.isDigit_eq_false hc] at hdigit
  contradiction

end SameRun

/-- A text that stands further behind fails further behind, and in no other way. -/
theorem Scan.feedAll_add (s : Scan) (count position : Nat) (text : List Char) :
    s.feedAll (count + position) text =
      (s.feedAll position text).mapError (Unexpected.shift count) := by
  have hafter := feedAll_after [] s count position text
  rcases hs : s.feedAll position text with e | t <;> rw [hs] at hafter <;> exact hafter

/-- What comes of a text as clauses with one of two runs in it: the same clauses, the same failure
in front of the run, or the same failure behind it, as far behind the one run as behind the
other. -/
theorem Clause.readAll_of_sameRun {front run other : List Char} (h : SameRun front run other)
    (back : List Char) :
    (∃ clauses, readAll (front ++ run ++ back) = .ok clauses ∧
      readAll (front ++ other ++ back) = .ok clauses) ∨
    (∃ e : Unexpected, e.position < front.length ∧ readAll (front ++ run ++ back) = .error e ∧
      readAll (front ++ other ++ back) = .error e) ∨
    ∃ c k, readAll (front ++ run ++ back) = .error ⟨c, front.length + run.length + k⟩ ∧
      readAll (front ++ other ++ back) = .error ⟨c, front.length + other.length + k⟩ := by
  rcases hfront : ({} : Scan).feedAll 0 front with e | t
  · refine .inr (.inl ⟨e, ?_, ?_, ?_⟩)
    · obtain ⟨i, hi, hchar⟩ := Scan.getElem?_of_feedAll_error hfront
      have hlt := (List.getElem?_eq_some_iff.mp hchar).1
      omega
    · rw [readAll, List.append_assoc, Scan.feedAll_append_of_error hfront]
      rfl
    · rw [readAll, List.append_assoc, Scan.feedAll_append_of_error hfront]
      rfl
  · obtain ⟨u, hu⟩ := h.exists_feedAll hfront
    have hread (word : List Char) (hword : ∀ position, t.feedAll position word = .ok u) :
        readAll (front ++ word ++ back) =
          ((u.feedAll 0 back).mapError
            (Unexpected.shift (front.length + word.length))).map Scan.finish := by
      rw [readAll, Scan.feedAll_append, Scan.feedAll_append, hfront]
      show ((t.feedAll _ word).bind _).map _ = _
      rw [hword, List.length_append, Nat.zero_add, ← Scan.feedAll_add]
      rfl
    rw [hread run fun position => (hu position).1, hread other fun position => (hu position).2]
    rcases u.feedAll 0 back with e | v
    · exact .inr (.inr ⟨e.char, e.position, rfl, rfl⟩)
    · exact .inl ⟨v.finish, rfl, rfl⟩

namespace Mode

/-- **Order and repetition within a run do not matter.** A text with one of two runs in it that may
stand for each other is the same mode with either run, or fails in the same way with either: in
front of the run and at the same place, or behind the run and as far behind the one as behind the
other. It never fails within a run. -/
theorem parse_of_sameRun {front run other : String}
    (h : SameRun front.toList run.toList other.toList) (hrun : run ≠ "") (hother : other ≠ "")
    (back : String) :
    (∃ m, parse (front ++ run ++ back) = .ok m ∧ parse (front ++ other ++ back) = .ok m) ∨
    (∃ e, e.position < front.length ∧ parse (front ++ run ++ back) = .error e ∧
      parse (front ++ other ++ back) = .error e) ∨
    ∃ c k, parse (front ++ run ++ back) = .error ⟨c, front.length + run.length + k⟩ ∧
      parse (front ++ other ++ back) = .error ⟨c, front.length + other.length + k⟩ := by
  have hnone := h.read?_eq_none (mt String.toList_eq_nil_iff.mp hrun) back.toList
  have hnone' := h.symm.read?_eq_none (mt String.toList_eq_nil_iff.mp hother) back.toList
  simp only [parse, ofChars, String.toList_append, hnone, hnone', ← String.length_toList]
  rcases Clause.readAll_of_sameRun h back.toList with
    ⟨clauses, hread, hread'⟩ | ⟨e, he, hread, hread'⟩ | ⟨c, k, hread, hread'⟩
  · exact .inl ⟨symbolic clauses, by rw [hread]; rfl, by rw [hread']; rfl⟩
  · exact .inr (.inl ⟨e, he, by rw [hread]; rfl, by rw [hread']; rfl⟩)
  · exact .inr (.inr ⟨c, k, by rw [hread]; rfl, by rw [hread']; rfl⟩)

/-- Letters to copy from in front of a failure, and letters for subjects behind a comma. -/
theorem parse_of_sameRun_repeated :
    (SameRun "g=".toList "gug".toList "ug".toList ∧
      parse ("g=" ++ "gug" ++ "x") = .error ⟨'x', 5⟩ ∧
      parse ("g=" ++ "ug" ++ "x") = .error ⟨'x', 4⟩) ∧
    SameRun "=r,".toList "ao".toList "goug".toList ∧
      parse ("=r," ++ "ao" ++ "") = .ok (symbolic
        [⟨∅, [⟨.set, ∅, .ofList [.read], true⟩], true⟩, ⟨.everyone, [], true⟩]) ∧
      parse ("=r," ++ "goug" ++ "") = .ok (symbolic
        [⟨∅, [⟨.set, ∅, .ofList [.read], true⟩], true⟩, ⟨.everyone, [], true⟩]) := by
  have hcopies : SameRun "g=".toList "gug".toList "ug".toList :=
    @SameRun.operand _ .set (.copied .group [.user, .group]) (.copied .user [.group]) (by decide)
      (by simp [Operand.chars, Subject.letter])
  have hwho : SameRun "=r,".toList "ao".toList "goug".toList :=
    @SameRun.who _ [.everyone, .one .others] [.one .group, .one .others, .one .user, .one .group]
      (by decide) fun s => by cases s <;> decide
  have hfailure : parse ("g=" ++ "gug" ++ "x") = .error ⟨'x', 5⟩ := by cbv
  have hread : parse ("=r," ++ "ao" ++ "") = .ok (symbolic
      [⟨∅, [⟨.set, ∅, .ofList [.read], true⟩], true⟩, ⟨.everyone, [], true⟩]) := by cbv
  refine ⟨⟨hcopies, hfailure, ?_⟩, hwho, hread, ?_⟩
  · obtain ⟨hfront, hrun, hother⟩ :
        "g=".length = 2 ∧ "gug".length = 3 ∧ "ug".length = 2 := by decide
    rcases parse_of_sameRun hcopies (by decide) (by decide) "x" with
      ⟨m, hm, -⟩ | ⟨e, he, hm, -⟩ | ⟨c, k, hm, hm'⟩ <;> rw [hfailure] at hm
    · contradiction
    · rw [← Except.error.inj hm, hfront] at he
      contradiction
    · obtain ⟨rfl, hk⟩ := Unexpected.mk.inj (Except.error.inj hm)
      obtain rfl : k = 0 := by omega
      rw [hm', hfront, hother]
  · rcases parse_of_sameRun hwho (by decide) (by decide) "" with
      ⟨m, hm, hm'⟩ | ⟨e, he, hm, -⟩ | ⟨c, k, hm, -⟩ <;> rw [hread] at hm
    · cases hm
      exact hm'
    · contradiction
    · contradiction

end Mode

end FileMode
