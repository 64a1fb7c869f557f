import FileMode.Proofs.Failure
import FileMode.Proofs.Meaning

/-!
# The last character of a text

Of the segments of a text only the last is open to what is added to the text, and what it is open to
shows in **the last character alone**. It is empty if the text ends with a comma, or is empty itself
(`Derived.last_eq_empty_iff`), and its last phrase lacks an operand if the text ends with a symbol
(`Scan.exists_behind_of_symbol`).
-/

namespace FileMode

namespace Segment

theorem eq_empty_iff {s : Segment} : s = empty ↔ s.who = [] ∧ s.phrases = [] := by
  obtain ⟨who, phrases⟩ := s
  rw [empty, mk.injEq]

/-- Only the empty segment has no text. -/
theorem chars_eq_nil_iff {s : Segment} : s.chars = [] ↔ s = empty := by
  rw [← clause?_eq_none_iff, clause?, eq_empty_iff]
  split <;> simp_all

/-- A segment means a clause exactly if it is not empty: the clause of its letters and phrases. -/
theorem clause?_eq_some_iff {s : Segment} {c : Clause} :
    s.clause? = some c ↔ s ≠ empty ∧
      c = ⟨SubjectSet.ofList (s.who.flatMap Who.subjects), s.phrases.map Phrase.action, true⟩ := by
  rw [clause?, ne_eq, eq_empty_iff]
  split <;> simp_all [eq_comm]

/-- A segment grows by no comma. -/
theorem comma_not_mem_of_extendAll? {s longer : Segment} {text : List Char}
    (h : s.extendAll? text = some longer) : ',' ∉ text := by
  induction text generalizing s with
  | nil => exact List.not_mem_nil
  | cons c rest ih =>
    obtain ⟨next, hnext, hrest⟩ := Option.bind_eq_some_iff.mp h
    have hc : ',' ≠ c := by
      rintro rfl
      rw [extend?_comma] at hnext
      contradiction
    exact List.not_mem_cons_of_ne_of_not_mem hc (ih hrest)

/-- No comma stands in a segment. -/
theorem comma_not_mem_chars (s : Segment) : ',' ∉ s.chars :=
  comma_not_mem_of_extendAll? s.extendAll?_chars

end Segment

namespace Derived

variable {text : List Char} {done : List Segment} {last : Segment}

/-- A text has a last segment. -/
theorem exists_eq_concat {segments : List Segment} (h : Derived text segments) :
    ∃ done last, segments = done ++ [last] :=
  ⟨_, _, (List.dropLast_concat_getLast h.1).symm⟩

/-- A text ends as its last segment does, unless that is empty. -/
theorem getLast?_eq (h : Derived text (done ++ [last])) (hne : last ≠ Segment.empty) :
    text.getLast? = last.chars.getLast? := by
  have hchars : last.chars ≠ [] := mt Segment.chars_eq_nil_iff.mp hne
  rw [h.2, Segment.charsOfList_concat, List.getLast?_append_of_ne_nil _ hchars]

/-- **The last segment is empty** behind a comma and in the empty text, and nowhere else. -/
theorem last_eq_empty_iff (h : Derived text (done ++ [last])) :
    (text = [] ∨ text.getLast? = some ',') ↔ last = Segment.empty := by
  constructor
  · intro hend
    by_contra hne
    have hlast := h.getLast?_eq hne
    rcases hend with rfl | hcomma
    · exact hne (Segment.chars_eq_nil_iff.mp (List.getLast?_eq_none_iff.mp hlast.symm))
    · rw [hcomma] at hlast
      exact last.comma_not_mem_chars (List.mem_of_getLast? hlast.symm)
  · rintro rfl
    rw [h.2, Segment.charsOfList_concat]
    rcases List.eq_nil_or_concat done with rfl | ⟨front, s, rfl⟩
    · exact .inl rfl
    · exact .inr (by simp [Segment.empty, Segment.chars])

end Derived

/-- **The last phrase lacks an operand** behind its symbol. -/
theorem Scan.exists_behind_of_symbol {front : List Char} {o : Operator} {t : Scan}
    (h : ({} : Scan).feedAll 0 (front ++ [o.symbol]) = .ok t) :
    ∃ done who phrases, t = behind done ⟨who, phrases ++ [⟨o, .spelled []⟩]⟩ := by
  obtain ⟨u, hu⟩ := exists_feedAll_of_append h
  obtain ⟨done, last, -, rfl⟩ := feedAll_eq_ok_iff.mp hu
  rw [feedAll_append, hu] at h
  change feedAll _ _ [o.symbol] = _ at h
  rw [feedAll, feed?_behind_symbol] at h
  exact ⟨done, last.who, last.phrases, (Except.ok.inj h).symm⟩

end FileMode
