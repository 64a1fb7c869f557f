import FileMode.Proofs.Numeral
import FileMode.Proofs.Scanning

/-!
# Two kinds of mode texts

A text is a numeral, or it is derived as clauses, or neither, but **never both**: a numeral begins
with a digit, and no digit can stand in a segment (`Derived.read?_eq_none`). So it does not matter
that numerals are looked for first, and each outcome of reading a text is described on its own:
which texts are absolute (`Mode.ofChars_eq_absolute_iff`), which are symbolic
(`Mode.ofChars_eq_symbolic_iff`), and which are neither (`Mode.ofChars_eq_error_iff`).
-/

namespace FileMode

/-! ### Digits -/

namespace Octal

/-- The letters and symbols of the grammar and the comma are no digits. -/
theorem kinds_of_isDigit {c : Char} (h : isDigit c = true) :
    Operator.ofSymbol? c = none ∧ Who.ofLetter? c = none ∧ Subject.ofLetter? c = none ∧
      Permission.ofLetter? c = none ∧ c ≠ ',' := by
  have hall : ∀ n : Fin 8, Operator.ofSymbol? (Nat.digitChar n) = none ∧
      Who.ofLetter? (Nat.digitChar n) = none ∧ Subject.ofLetter? (Nat.digitChar n) = none ∧
      Permission.ofLetter? (Nat.digitChar n) = none ∧ Nat.digitChar n ≠ ',' := by decide
  obtain ⟨n, hn, rfl⟩ := exists_digitChar_of_isDigit h
  exact hall ⟨n, hn⟩

/-- A numeral begins with a digit. -/
theorem exists_digit_of_read? {text : List Char} {n : Nat} (h : read? text = some n) :
    ∃ d rest, text = d :: rest ∧ isDigit d = true := by
  obtain ⟨hne, hall, -, -⟩ := read?_eq_some_iff.mp h
  obtain ⟨d, rest, rfl⟩ := List.exists_cons_of_ne_nil hne
  exact ⟨d, rest, rfl, List.all_eq_true.mp hall d List.mem_cons_self⟩

end Octal

/-- A digit can stand nowhere behind segments. -/
theorem Scan.feed?_behind_digit {d : Char} (h : Octal.isDigit d = true) (done : List Segment)
    (last : Segment) : (behind done last).feed? d = none := by
  obtain ⟨ho, hw, hs, hp, hcomma⟩ := Octal.kinds_of_isDigit h
  refine feed?_behind_eq_none_iff.mpr ⟨hcomma, ?_⟩
  rw [Segment.extend?_of_ofSymbol?_eq_none ho, Segment.extendLetter?_eq_none hw hs hp]

/-- As clauses, a text that begins with a digit fails there. -/
theorem Scan.feedAll_digit {d : Char} (h : Octal.isDigit d = true) (position : Nat)
    (rest : List Char) : ({} : Scan).feedAll position (d :: rest) = .error ⟨d, position⟩ := by
  rw [feedAll, ← behind_empty, feed?_behind_digit h]

/-- **A derived text is no numeral.** -/
theorem Derived.read?_eq_none {text : List Char} {segments : List Segment}
    (h : Derived text segments) : Octal.read? text = none := by
  refine Option.eq_none_iff_forall_ne_some.mpr fun n hn => ?_
  obtain ⟨d, rest, rfl, hd⟩ := Octal.exists_digit_of_read? hn
  have hok := Clause.readAll_eq_ok_iff.mpr ⟨segments, h, rfl⟩
  rw [Clause.readAll, Scan.feedAll_digit hd] at hok
  contradiction

/-! ### The outcomes of reading -/

namespace Mode

variable {text : List Char}

/-- A text is an absolute mode exactly if it is a numeral. -/
theorem ofChars_eq_absolute_iff {value : Int} :
    ofChars text = .ok (.absolute value) ↔ ∃ n, Octal.read? text = some n ∧ value = n := by
  rw [ofChars]
  rcases Octal.read? text with _ | n
  · cases Clause.readAll text <;> simp [Except.map]
  · simp [eq_comm]

/-- A text is a symbolic mode exactly if it is derived, with the clauses that the segments mean. -/
theorem ofChars_eq_symbolic_iff {clauses : List Clause} :
    ofChars text = .ok (.symbolic clauses) ↔
      ∃ segments, Derived text segments ∧ clauses = segments.filterMap Segment.clause? := by
  rw [← Clause.readAll_eq_ok_iff, ofChars]
  constructor
  · intro h
    split at h
    · cases h
    · rcases hr : Clause.readAll text with e | cs
      · rw [hr] at h
        contradiction
      · rw [hr] at h
        cases h
        rfl
  · intro h
    -- clauses are looked for only in a text that is no numeral
    obtain ⟨segments, hderived, -⟩ := Clause.readAll_eq_ok_iff.mp h
    rw [hderived.read?_eq_none, h]
    rfl

/-- A text is no mode exactly if it is no numeral and the scan refuses one of its characters. -/
theorem ofChars_eq_error_iff {e : Unexpected} :
    ofChars text = .error e ↔
      Octal.read? text = none ∧ ({} : Scan).feedAll 0 text = .error e := by
  rw [ofChars, Clause.readAll]
  rcases Octal.read? text with _ | n
  · cases ({} : Scan).feedAll 0 text <;> simp [Except.map]
  · simp

end Mode

end FileMode
