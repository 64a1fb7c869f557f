import FileMode.Proofs.Kinds

/-!
# Where reading fails

A scan fails at a character exactly if it takes all of the text in front of it and refuses the
character (`Scan.feedAll_eq_error_iff`); nothing that stands behind the character matters. Together
with exactness this makes the position of a failure **the end of the longest text that could still
become clauses**, and makes the failure final: no continuation of the text mends it
(`Mode.parse_eq_error_viable`).

Numerals are the one exception, and in one direction only: a text that begins with a digit fails at
its first character, and yet a shorter beginning of it may be a numeral.
-/

namespace FileMode

namespace Scan

variable {s : Scan} {position : Nat} {text : List Char} {e : Unexpected}

/-- **A scan fails at a character** if it takes what stands in front of it and refuses it. -/
theorem feedAll_eq_error_iff :
    s.feedAll position text = .error e ↔
      ∃ front rest t, text = front ++ e.char :: rest ∧ e.position = position + front.length ∧
        s.feedAll position front = .ok t ∧ t.feed? e.char = none := by
  constructor
  · intro h
    induction text generalizing s position with
    | nil => contradiction
    | cons c rest ih =>
      rw [feedAll] at h
      rcases hc : s.feed? c with _ | next
      · rw [hc] at h
        cases h
        exact ⟨[], rest, s, rfl, rfl, rfl, hc⟩
      · -- a character that is taken leaves the failure to the rest of the text
        rw [hc] at h
        obtain ⟨front, rest, t, rfl, hposition, hfront, ht⟩ := ih h
        refine ⟨c :: front, rest, t, rfl, ?_, ?_, ht⟩
        · rw [hposition, List.length_cons]
          omega
        · rw [feedAll, hc]
          exact hfront
  · rintro ⟨front, rest, t, rfl, hposition, hfront, ht⟩
    rw [feedAll_append, hfront]
    show t.feedAll _ _ = _
    rw [feedAll, ht, ← hposition]

/-- A text behind a failure does not matter. -/
theorem feedAll_append_of_error (h : s.feedAll position text = .error e) (more : List Char) :
    s.feedAll position (text ++ more) = .error e := by
  rw [feedAll_append, h]
  rfl

/-- The beginning of a text that is taken is taken. -/
theorem exists_feedAll_of_append {first second : List Char} {t : Scan}
    (h : s.feedAll position (first ++ second) = .ok t) :
    ∃ u, s.feedAll position first = .ok u := by
  rw [feedAll_append] at h
  rcases hfirst : s.feedAll position first with e | u
  · rw [hfirst] at h
    contradiction
  · exact ⟨u, rfl⟩

/-- A text is taken up to the character at which the scan fails, and up to any earlier place. -/
theorem exists_feedAll_take (h : s.feedAll position text = .error e) {k : Nat}
    (hk : position + k ≤ e.position) : ∃ t, s.feedAll position (text.take k) = .ok t := by
  obtain ⟨front, rest, t, rfl, hposition, hfront, -⟩ := feedAll_eq_error_iff.mp h
  rw [List.take_append_of_le_length (by omega)]
  rw [← List.take_append_drop k front] at hfront
  exact exists_feedAll_of_append hfront

/-- Cutting a text anywhere behind the character at which the scan fails does not matter. -/
theorem feedAll_take_of_error (h : s.feedAll position text = .error e) {k : Nat}
    (hk : e.position < position + k) : s.feedAll position (text.take k) = .error e := by
  obtain ⟨front, rest, t, rfl, hposition, hfront, ht⟩ := feedAll_eq_error_iff.mp h
  have hlength : k - front.length = k - (front.length + 1) + 1 := by omega
  refine feedAll_eq_error_iff.mpr
    ⟨front, rest.take (k - (front.length + 1)), t, ?_, hposition, hfront, ht⟩
  rw [List.take_append, List.take_of_length_le (by omega), hlength, List.take_succ_cons]

end Scan

namespace Mode

/-! ### Texts that are no modes -/

section Characters

variable {text : List Char} {e : Unexpected}

/-- A text that a scan takes is a symbolic mode. -/
theorem exists_symbolic_of_feedAll {t : Scan} (h : ({} : Scan).feedAll 0 text = .ok t) :
    ∃ clauses, ofChars text = .ok (.symbolic clauses) := by
  obtain ⟨done, last, hderived, -⟩ := Scan.feedAll_eq_ok_iff.mp h
  exact ⟨_, ofChars_eq_symbolic_iff.mpr ⟨_, hderived, rfl⟩⟩

/-- A text at which a scan fails is not derived. -/
theorem not_derived_of_feedAll (h : ({} : Scan).feedAll 0 text = .error e)
    (segments : List Segment) : ¬ Derived text segments := by
  intro hderived
  have hok := Clause.readAll_eq_ok_iff.mpr ⟨segments, hderived, rfl⟩
  rw [Clause.readAll, h] at hok
  contradiction

/-- A numeral fails as clauses at its first character. -/
theorem position_eq_zero_of_read? {n : Nat} (h : Octal.read? text = some n)
    (he : ({} : Scan).feedAll 0 text = .error e) : e.position = 0 := by
  obtain ⟨d, rest, rfl, hd⟩ := Octal.exists_digit_of_read? h
  rw [Scan.feedAll_digit hd] at he
  cases he
  rfl

/-- Where a scan fails behind the first character, the text is no mode. -/
theorem ofChars_eq_error_of_ne_zero (he : ({} : Scan).feedAll 0 text = .error e)
    (hposition : e.position ≠ 0) : ofChars text = .error e := by
  have hnone : Octal.read? text = none := Option.eq_none_iff_forall_ne_some.mpr fun n hn =>
    hposition (position_eq_zero_of_read? hn he)
  exact ofChars_eq_error_iff.mpr ⟨hnone, he⟩

/-- A failure names the character of the text that stands at its position. -/
theorem getElem?_position (h : ofChars text = .error e) : text[e.position]? = some e.char := by
  obtain ⟨i, hi, hc⟩ := Scan.getElem?_of_feedAll_error (ofChars_eq_error_iff.mp h).2
  rw [hi, Nat.zero_add]
  exact hc

/-- What stands in front of a failure is read as clauses, as is every beginning of it. -/
theorem exists_symbolic_take (h : ofChars text = .error e) {k : Nat} (hk : k ≤ e.position) :
    ∃ clauses, ofChars (text.take k) = .ok (.symbolic clauses) := by
  have hle : 0 + k ≤ e.position := by omega
  obtain ⟨t, ht⟩ := Scan.exists_feedAll_take (ofChars_eq_error_iff.mp h).2 hle
  exact exists_symbolic_of_feedAll ht

/-- No text with the failure in it is derived, however it goes on. -/
theorem not_derived_take_append (h : ofChars text = .error e) (more : List Char)
    (segments : List Segment) : ¬ Derived (text.take (e.position + 1) ++ more) segments := by
  have hlt : e.position < 0 + (e.position + 1) := by omega
  have htake := Scan.feedAll_take_of_error (ofChars_eq_error_iff.mp h).2 hlt
  exact not_derived_of_feedAll (Scan.feedAll_append_of_error htake more) segments

/-- A failure stays behind any continuation, which cannot make a numeral of the text either. -/
theorem ofChars_append_of_error (h : ofChars text = .error e) (more : List Char) :
    ofChars (text ++ more) = .error e := by
  obtain ⟨hnone, hfeed⟩ := ofChars_eq_error_iff.mp h
  have hne : text ≠ [] := by
    rintro rfl
    contradiction
  refine ofChars_eq_error_iff.mpr ⟨?_, Scan.feedAll_append_of_error hfeed more⟩
  refine Option.eq_none_iff_forall_ne_some.mpr fun n hn => ?_
  obtain ⟨m, hm⟩ := Octal.exists_read?_of_append hne hn
  rw [hnone] at hm
  contradiction

/-- A shorter text with the failure in it fails alike, unless it is a numeral. -/
theorem ofChars_take_of_error (h : ofChars text = .error e) {k : Nat} (hk : e.position < k)
    (hnumeral : ¬ (e.position = 0 ∧ ∃ n, Octal.read? (text.take k) = some n)) :
    ofChars (text.take k) = .error e := by
  have hlt : e.position < 0 + k := by omega
  have hfeed := Scan.feedAll_take_of_error (ofChars_eq_error_iff.mp h).2 hlt
  refine ofChars_eq_error_iff.mpr ⟨?_, hfeed⟩
  refine Option.eq_none_iff_forall_ne_some.mpr fun n hn => hnumeral ⟨?_, n, hn⟩
  exact position_eq_zero_of_read? hn hfeed

end Characters

/-- **The position of a failure** is that of a character of the text. What stands in front of the
character is read as clauses, as is every beginning of it; with the character, no text is derived
however it goes on. The failure stays the same behind any continuation, and also for any shorter
text that contains the character, except for a numeral. -/
theorem parse_eq_error_viable {text : String} {e : Unexpected} (h : parse text = .error e) :
    e.position < text.length ∧ text.toList[e.position]? = some e.char ∧
      (∀ k ≤ e.position, ∃ clauses,
        parse (String.ofList (text.toList.take k)) = .ok (.symbolic clauses)) ∧
      (∀ more segments, ¬ Derived (text.toList.take (e.position + 1) ++ more) segments) ∧
      (∀ more : String, parse (text ++ more) = .error e) ∧
      ∀ k > e.position,
        (∀ n, e.position = 0 → Octal.read? (text.toList.take k) = some n →
          parse (String.ofList (text.toList.take k)) = .ok (.absolute n)) ∧
        (¬ (e.position = 0 ∧ ∃ n, Octal.read? (text.toList.take k) = some n) →
          parse (String.ofList (text.toList.take k)) = .error e) := by
  have hchar := getElem?_position h
  have hlt : e.position < text.length := by
    rw [← String.length_toList]
    exact (List.getElem?_eq_some_iff.mp hchar).1
  refine ⟨hlt, hchar, fun k hk => ?_, not_derived_take_append h, fun more => ?_,
    fun k hk => ⟨fun n _ hn => ?_, fun hnumeral => ?_⟩⟩
  · rw [parse, String.toList_ofList]
    exact exists_symbolic_take h hk
  · rw [parse, String.toList_append]
    exact ofChars_append_of_error h more.toList
  · rw [parse, String.toList_ofList]
    exact ofChars_eq_absolute_iff.mpr ⟨n, hn, rfl⟩
  · rw [parse, String.toList_ofList]
    exact ofChars_take_of_error h hk hnumeral

/-- A text of digits that is no numeral, though its first character alone is one. -/
theorem parse_eq_error_viable_digits :
    parse "79" = .error ⟨'7', 0⟩ ∧
      (∀ more segments, ¬ Derived ('7' :: more) segments) ∧
      (∀ more : String, parse ("79" ++ more) = .error ⟨'7', 0⟩) ∧
      parse "7" = .ok (.absolute 7) := by
  have h : parse "79" = .error ⟨'7', 0⟩ := by cbv
  obtain ⟨-, -, -, hderived, happend, hcut⟩ := parse_eq_error_viable h
  exact ⟨h, hderived, happend, (hcut 1 Nat.one_pos).1 7 rfl (by decide)⟩

end Mode

end FileMode
