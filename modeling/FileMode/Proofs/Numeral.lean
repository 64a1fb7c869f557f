import FileMode.Octal

/-!
# Octal numerals as texts

What `Octal.render` writes and `Octal.read?` reads, beyond the values. A rendering is digits, behind
a minus if the number is negative, and **the zeros that fill it do not change its value**: so a
number that is not negative reads back, unless it is too large (`Octal.read?_render`), and no two
numbers at all have the same rendering (`Octal.render_injective`).

A text that begins a numeral is a numeral itself unless it is empty, since a number does not become
smaller by further digits (`Octal.exists_read?_of_append`).
-/

namespace FileMode.Octal

/-! ### Digits -/

/-- The character of a number below eight is a digit. -/
theorem isDigit_digitChar {n : Nat} (h : n < 8) : isDigit n.digitChar = true := by
  have hall : ∀ k : Fin 8, isDigit (Nat.digitChar k) = true := by decide
  exact hall ⟨n, h⟩

/-- A digit is the character of a number below eight. -/
theorem exists_digitChar_of_isDigit {c : Char} (h : isDigit c = true) :
    ∃ n < 8, c = Nat.digitChar n := by
  have hbounds : 48 ≤ c.toNat ∧ c.toNat ≤ 55 := by
    simpa [isDigit, Char.le_def, UInt32.le_iff_toNat_le] using h
  refine ⟨c.toNat - 48, by omega, Char.toNat_inj.mp ?_⟩
  rw [Nat.toNat_digitChar_of_lt_ten (by omega)]
  omega

/-- The digits of a number are digits. -/
theorem isDigit_of_mem_digits {n : Nat} {c : Char} (h : c ∈ digits n) : isDigit c = true := by
  induction n using Nat.strongRecOn with
  | ind n ih =>
    -- the digits of `n` are those of `n / 8` and one more
    rw [digits, Nat.toDigits_eq_if (by decide)] at h
    split at h
    · next hlt =>
      rw [List.mem_singleton.mp h]
      exact isDigit_digitChar hlt
    · next hge =>
      rcases List.mem_append.mp h with h | h
      · exact ih (n / 8) (by omega) h
      · rw [List.mem_singleton.mp h]
        exact isDigit_digitChar (Nat.mod_lt n (by decide))

theorem digits_ne_nil (n : Nat) : digits n ≠ [] := Nat.toDigits_ne_nil

/-! ### Values -/

/-- Further digits do not make a number smaller. -/
theorem value_le_value_append (first second : List Char) :
    value first ≤ value (first ++ second) := by
  have hle : ∀ (text : List Char) (start : Nat), start ≤ Nat.ofDigitChars 8 text start := by
    intro text
    induction text with
    | nil => exact fun start => Nat.le_refl start
    | cons c rest ih =>
      intro start
      rw [Nat.ofDigitChars_cons]
      exact Nat.le_trans (by omega) (ih _)
  rw [value, value, Nat.ofDigitChars_append]
  exact hle second _

/-- Zeros in front of a number do not change it. -/
theorem value_replicate_append (count : Nat) (text : List Char) :
    value (List.replicate count '0' ++ text) = value text := by
  rw [value, Nat.ofDigitChars_append, Nat.ofDigitChars_replicate_zero, Nat.mul_zero]
  rfl

/-- The beginning of a numeral is a numeral, unless it is empty. -/
theorem exists_read?_of_append {first second : List Char} {n : Nat} (hne : first ≠ [])
    (h : read? (first ++ second) = some n) : ∃ m, read? first = some m := by
  obtain ⟨-, hall, rfl, hle⟩ := read?_eq_some_iff.mp h
  rw [List.all_append, Bool.and_eq_true] at hall
  exact ⟨value first, read?_eq_some_iff.mpr
    ⟨hne, hall.1, rfl, Nat.le_trans (value_le_value_append first second) hle⟩⟩

/-! ### Renderings -/

/-- What stands behind the sign of a rendering. -/
def body (width : Nat) (n : Int) : List Char := filling width n ++ digits n.natAbs

theorem render_of_nonneg (width : Nat) {n : Int} (h : 0 ≤ n) : render width n = body width n := by
  rw [render, sign, if_neg (by omega)]
  rfl

theorem render_of_neg (width : Nat) {n : Int} (h : n < 0) :
    render width n = '-' :: body width n := by
  rw [render, sign, if_pos h]
  rfl

/-- Behind the sign stand digits only. -/
theorem all_isDigit_body (width : Nat) (n : Int) : (body width n).all isDigit = true := by
  refine List.all_eq_true.mpr fun c hc => ?_
  rcases List.mem_append.mp hc with hc | hc
  · rw [List.eq_of_mem_replicate hc]
    decide
  · exact isDigit_of_mem_digits hc

/-- Behind the sign stands a digit at least. -/
theorem exists_body_eq_cons (width : Nat) (n : Int) :
    ∃ d rest, body width n = d :: rest ∧ isDigit d = true := by
  have hne : body width n ≠ [] := fun h =>
    digits_ne_nil n.natAbs (List.append_eq_nil_iff.mp h).2
  obtain ⟨d, rest, hbody⟩ := List.exists_cons_of_ne_nil hne
  have hall := all_isDigit_body width n
  rw [hbody] at hall
  exact ⟨d, rest, hbody, List.all_eq_true.mp hall d List.mem_cons_self⟩

/-- What stands behind the sign has the absolute value of the number. -/
theorem value_body (width : Nat) (n : Int) : value (body width n) = n.natAbs := by
  rw [body, filling, value_replicate_append, value_digits]

/-- **A number that is not negative reads back**, unless it is too large. -/
theorem read?_render (width : Nat) {n : Int} (h : 0 ≤ n) :
    read? (render width n) = if n ≤ largest then some n.natAbs else none := by
  obtain ⟨d, rest, hbody, -⟩ := exists_body_eq_cons width n
  have hne : body width n ≠ [] := by rw [hbody]; exact List.cons_ne_nil d rest
  have hle : n.natAbs ≤ largest ↔ n ≤ largest := by omega
  rw [render_of_nonneg width h, read?, value_body]
  simp only [ne_eq, hne, not_false_eq_true, all_isDigit_body, true_and, hle]

/-- A rendering begins with a minus exactly if the number is negative. -/
theorem head?_render_eq_minus_iff (width : Nat) (n : Int) :
    (render width n).head? = some '-' ↔ n < 0 := by
  rcases Int.lt_or_le n 0 with h | h
  · rw [render_of_neg width h]
    exact iff_of_true rfl h
  · obtain ⟨d, rest, hbody, hd⟩ := exists_body_eq_cons width n
    rw [render_of_nonneg width h, hbody]
    refine iff_of_false (fun hminus => ?_) (by omega)
    obtain rfl : d = '-' := Option.some.inj hminus
    contradiction

/-- **A rendering tells the number**, in range or not. -/
theorem render_injective (width : Nat) : Function.Injective (render width) := by
  intro n m h
  have hsign : n < 0 ↔ m < 0 := by
    rw [← head?_render_eq_minus_iff width, h, head?_render_eq_minus_iff]
  have hbody : body width n = body width m := by
    rcases Int.lt_or_le n 0 with hn | hn
    · rw [render_of_neg width hn, render_of_neg width (hsign.mp hn)] at h
      exact List.tail_eq_of_cons_eq h
    · rw [render_of_nonneg width hn, render_of_nonneg width (by omega)] at h
      exact h
  have habs : n.natAbs = m.natAbs := by rw [← value_body width n, hbody, value_body]
  omega

end FileMode.Octal
