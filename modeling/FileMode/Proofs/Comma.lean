import FileMode.Proofs.Kinds

/-!
# Texts joined by a comma

A comma completes whatever is open, in any phase, just as the end of the text does; behind it the
scan is the one in front of all characters, but for the clauses that are complete
(`Scan.feed?_comma`). These take no part in anything that follows (`Scan.feedAll_after`). So **a
text of two parts with a comma between them is read as the parts are**, first the one and then the
other (`Clause.readAll_append_comma`), and a failure in the second part is the failure of that part
alone, further behind.

A numeral is nothing that could stand in front of a comma or behind one, although it is a mode: as
clauses it fails at its first digit.
-/

namespace FileMode

/-- The failure of a text that has more characters in front of it. -/
def Unexpected.shift (count : Nat) (e : Unexpected) : Unexpected := ⟨e.char, count + e.position⟩

/-! ### Clauses that are complete -/

/-- What a phase does with a character, given what becomes of the scan. -/
def Turn.map (f : Scan → Scan) : Turn → Turn
  | taken next => taken (f next)
  | passed next => passed (f next)
  | refused => refused

namespace Scan

/-- The scan with earlier clauses in front of those that are complete. -/
def after (earlier : List Clause) (s : Scan) : Scan := { s with clauses := earlier ++ s.clauses }

variable (earlier : List Clause)

theorem closeClause_after (s : Scan) :
    (s.after earlier).closeClause = s.closeClause.after earlier := by
  obtain ⟨phase, clauses, clause, action⟩ := s
  cases ht : clause.touched <;> simp [closeClause, after, ht]

theorem finish_after (s : Scan) : (s.after earlier).finish = earlier ++ s.finish := by
  have hclose : (s.after earlier).closeAction = s.closeAction.after earlier := rfl
  have hif : (if (s.after earlier).action.touched then (s.after earlier).closeAction
      else s.after earlier) = (if s.action.touched then s.closeAction else s).after earlier := by
    rw [hclose, apply_ite (after earlier)]
    rfl
  rw [finish, hif, closeClause_after]
  rfl

/-- A phase does with a character what it does without the earlier clauses. -/
theorem turn_after (s : Scan) (c : Char) :
    (s.after earlier).turn c = (s.turn c).map (after earlier) := by
  obtain ⟨phase, clauses, clause, action⟩ := s
  cases phase with
  | subjects =>
    simp only [turn, after]
    cases SubjectSet.named? c <;> rfl
  | operator =>
    have hclose := closeClause_after earlier ⟨.operator, clauses, clause, action⟩
    simp only [turn, after] at hclose ⊢
    rw [hclose]
    cases Operator.ofSymbol? c <;> rfl
  | operand => rfl
  | copies =>
    simp only [turn, after]
    cases Subject.ofLetter? c <;> rfl
  | permissions =>
    simp only [turn, after]
    cases Permission.ofLetter? c <;> rfl
  | separator =>
    simp only [turn, after]
    split <;> rfl

/-- **The earlier clauses take no part in what becomes of a character.** -/
theorem feed?_after (s : Scan) (c : Char) :
    (s.after earlier).feed? c = (s.feed? c).map (after earlier) := by
  have hturn := turn_after earlier s c
  match h : s.turn c with
  | .taken t =>
    rw [h] at hturn
    rw [feed?_of_taken hturn, feed?_of_taken h]
    rfl
  | .refused =>
    rw [h] at hturn
    rw [feed?_of_refused hturn, feed?_of_refused h]
    rfl
  | .passed t =>
    -- the next phase has the character behind the same earlier clauses
    have : t.phase.rank < s.phase.rank := rank_lt_of_turn h
    rw [h] at hturn
    rw [feed?_of_passed hturn, feed?_of_passed h]
    exact feed?_after t c
termination_by s.phase.rank

/-- Nor do they take part in what becomes of a text, which may also stand behind more characters:
only the position of a failure changes. -/
theorem feedAll_after (s : Scan) (count position : Nat) (text : List Char) :
    (s.after earlier).feedAll (count + position) text =
      ((s.feedAll position text).mapError (Unexpected.shift count)).map (after earlier) := by
  induction text generalizing s position with
  | nil => rfl
  | cons c rest ih =>
    rw [feedAll, feedAll, feed?_after]
    cases s.feed? c with
    | none => rfl
    | some next => exact ih next (position + 1)

end Scan

/-! ### The comma -/

/-- **A comma completes what is open** as the end of the text does, and behind it the scan begins
anew. -/
theorem Scan.feed?_comma (done : List Segment) (last : Segment) :
    (behind done last).feed? ',' = some (({} : Scan).after (behind done last).finish) := by
  -- in front of the next segment nothing is open, and no action is left from the last
  have hafter : behind (done ++ [last]) Segment.empty =
      ({} : Scan).after ((done ++ [last]).filterMap Segment.clause?) := by
    rw [after, List.append_nil]
    rfl
  rw [feed?_behind, if_pos rfl, hafter, finish_behind]

/-- What stands behind a comma is read as a text of its own. -/
theorem Scan.feedAll_comma (done : List Segment) (last : Segment) (position : Nat)
    (text : List Char) :
    (behind done last).feedAll position (',' :: text) =
      ((({} : Scan).feedAll 0 text).mapError (Unexpected.shift (position + 1))).map
        (after (behind done last).finish) := by
  rw [feedAll, feed?_comma]
  exact feedAll_after _ {} (position + 1) 0 text

/-- **A text with a comma in it** is read as clauses by reading what stands in front of the comma
and then what stands behind it. -/
theorem Clause.readAll_append_comma (first second : List Char) :
    readAll (first ++ ',' :: second) =
      (readAll first).bind fun earlier =>
        ((readAll second).mapError (Unexpected.shift (first.length + 1))).map (earlier ++ ·) := by
  rw [readAll, readAll, readAll, Scan.feedAll_append, Nat.zero_add]
  rcases hfirst : ({} : Scan).feedAll 0 first with e | s
  · rfl
  · obtain ⟨done, last, -, rfl⟩ := Scan.feedAll_eq_ok_iff.mp hfirst
    show (Scan.feedAll _ _ (',' :: second)).map Scan.finish = _
    rw [Scan.feedAll_comma]
    rcases ({} : Scan).feedAll 0 second with e | t
    · rfl
    · exact congrArg Except.ok (Scan.finish_after _ t)

/-- A text with a comma in it is no numeral. -/
theorem Octal.read?_append_comma (first second : List Char) :
    read? (first ++ ',' :: second) = none := by
  refine Option.eq_none_iff_forall_ne_some.mpr fun n hn => ?_
  obtain ⟨-, hall, -, -⟩ := read?_eq_some_iff.mp hn
  have hcomma : isDigit ',' = true := List.all_eq_true.mp hall ',' (by simp)
  contradiction

/-! ### Modes -/

namespace Mode

section Characters

variable {text : List Char}

/-- The text of a symbolic mode is read as its clauses. -/
theorem readAll_of_symbolic {clauses : List Clause}
    (h : ofChars text = .ok (.symbolic clauses)) : Clause.readAll text = .ok clauses :=
  Clause.readAll_eq_ok_iff.mpr (ofChars_eq_symbolic_iff.mp h)

/-- A text that is no mode fails in the same way as clauses. -/
theorem readAll_of_error {e : Unexpected} (h : ofChars text = .error e) :
    Clause.readAll text = .error e := by
  rw [Clause.readAll, (ofChars_eq_error_iff.mp h).2]
  rfl

/-- The text of an absolute mode fails as clauses at its first character. -/
theorem readAll_of_absolute {value : Int} (h : ofChars text = .ok (.absolute value)) :
    ∃ d, text[0]? = some d ∧ Clause.readAll text = .error ⟨d, 0⟩ := by
  obtain ⟨n, hn, -⟩ := ofChars_eq_absolute_iff.mp h
  obtain ⟨d, rest, rfl, hd⟩ := Octal.exists_digit_of_read? hn
  refine ⟨d, rfl, ?_⟩
  rw [Clause.readAll, Scan.feedAll_digit hd]
  rfl

end Characters

/-- A text with a comma in it can only be read as clauses. -/
theorem parse_append_comma_eq (first second : String) :
    parse (first ++ "," ++ second) =
      ((Clause.readAll first.toList).bind fun earlier =>
        ((Clause.readAll second.toList).mapError (Unexpected.shift (first.length + 1))).map
          (earlier ++ ·)).map symbolic := by
  have htext : (first ++ "," ++ second).toList = first.toList ++ ',' :: second.toList := by simp
  rw [parse, htext, ofChars, Octal.read?_append_comma, ← String.length_toList,
    ← Clause.readAll_append_comma]

/-- **Two texts joined by a comma**, in every outcome. If both are symbolic modes, so is the whole,
with the clauses of the first in front of those of the second. Behind a symbolic mode, a text that
is no mode fails as it does alone, and a numeral fails at its first character. A first text that is
no symbolic mode fails whatever stands behind the comma: as it does alone, or if it is a numeral, at
its first character. -/
theorem parse_append_comma (first second : String) :
    (∀ clauses more, parse first = .ok (symbolic clauses) → parse second = .ok (symbolic more) →
      parse (first ++ "," ++ second) = .ok (symbolic (clauses ++ more))) ∧
    (∀ clauses e, parse first = .ok (symbolic clauses) → parse second = .error e →
      parse (first ++ "," ++ second) = .error ⟨e.char, first.length + 1 + e.position⟩) ∧
    (∀ clauses n, parse first = .ok (symbolic clauses) → parse second = .ok (absolute n) →
      ∃ d, second.toList[0]? = some d ∧
        parse (first ++ "," ++ second) = .error ⟨d, first.length + 1⟩) ∧
    (∀ e, parse first = .error e → parse (first ++ "," ++ second) = .error e) ∧
    ∀ n, parse first = .ok (absolute n) →
      ∃ d, first.toList[0]? = some d ∧ parse (first ++ "," ++ second) = .error ⟨d, 0⟩ := by
  rw [parse_append_comma_eq]
  refine ⟨fun clauses more hfirst hsecond => ?_, fun clauses e hfirst hsecond => ?_,
    fun clauses n hfirst hsecond => ?_, fun e hfirst => ?_, fun n hfirst => ?_⟩
  · rw [readAll_of_symbolic hfirst, readAll_of_symbolic hsecond]
    rfl
  · rw [readAll_of_symbolic hfirst, readAll_of_error hsecond]
    rfl
  · obtain ⟨d, hd, hread⟩ := readAll_of_absolute hsecond
    rw [readAll_of_symbolic hfirst, hread]
    exact ⟨d, hd, rfl⟩
  · rw [readAll_of_error hfirst]
    rfl
  · obtain ⟨d, hd, hread⟩ := readAll_of_absolute hfirst
    rw [hread]
    exact ⟨d, hd, rfl⟩

/-- A comma behind a lone symbol, behind an operand, behind a failure and behind a numeral. -/
theorem parse_append_comma_open :
    parse ("u+" ++ "," ++ "g=o") = .ok (symbolic
      ([⟨.ofList [.user], [⟨.add, ∅, ∅, true⟩], true⟩] ++
        [⟨.ofList [.group], [⟨.set, .ofList [.others], ∅, true⟩], true⟩])) ∧
    parse ("u+" ++ "," ++ "g=or") = .error ⟨'r', 6⟩ ∧
    (∃ d, "755".toList[0]? = some d ∧ parse ("u+" ++ "," ++ "755") = .error ⟨d, 3⟩) ∧
    parse ("g=or" ++ "," ++ "u+") = .error ⟨'r', 3⟩ ∧
    ∃ d, "755".toList[0]? = some d ∧ parse ("755" ++ "," ++ "u+") = .error ⟨d, 0⟩ := by
  have hsymbol : parse "u+" = .ok (symbolic [⟨.ofList [.user], [⟨.add, ∅, ∅, true⟩], true⟩]) := by
    cbv
  have hoperand : parse "g=o" = .ok (symbolic
      [⟨.ofList [.group], [⟨.set, .ofList [.others], ∅, true⟩], true⟩]) := by cbv
  have hfailure : parse "g=or" = .error ⟨'r', 3⟩ := by cbv
  have hnumeral : parse "755" = .ok (absolute 493) :=
    ofChars_eq_absolute_iff.mpr ⟨493, by decide, rfl⟩
  have hsecond := (parse_append_comma "u+" "g=or").2.1 _ _ hsymbol hfailure
  have hlength : "u+".length = 2 := by decide
  rw [hlength] at hsecond
  exact ⟨(parse_append_comma "u+" "g=o").1 _ _ hsymbol hoperand, hsecond,
    (parse_append_comma "u+" "755").2.2.1 _ _ hsymbol hnumeral,
    (parse_append_comma "g=or" "u+").2.2.2.1 _ hfailure,
    (parse_append_comma "755" "u+").2.2.2.2 _ hnumeral⟩

end Mode

end FileMode
