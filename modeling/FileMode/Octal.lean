/-!
# Octal numerals

Reading and writing numbers in base eight.

*Reading* takes a non-empty run of the digits `0` to `7`, however long and with any number of
leading zeros, whose value is at most `Octal.largest`. **Nothing else is a numeral**: no sign, no
blank, no separator, no digit of another script.

*Writing* takes any integer. It gives the shortest numeral, filled up with zeros to a width in which
the sign counts; the zeros stand between the sign and the digits.
-/

namespace FileMode

namespace Octal

/-- The largest number that a numeral may stand for, all of 32 bits set. -/
def largest : Nat := 0xFFFFFFFF

/-- Whether a character is one of the digits `0` to `7`. -/
def isDigit (c : Char) : Bool := '0' ≤ c && c ≤ '7'

/-- The number that a run of digits stands for, the most significant digit first. -/
def value (digits : List Char) : Nat := Nat.ofDigitChars 8 digits 0

/-- The digits of a number without leading zeros; zero has the one digit `0`. -/
def digits (n : Nat) : List Char := Nat.toDigits 8 n

/-- The number that a text stands for, if it is a numeral. -/
def read? (text : List Char) : Option Nat :=
  if text ≠ [] ∧ text.all isDigit = true ∧ value text ≤ largest then some (value text) else none

/-- What stands in front of the digits of a number: a minus if it is negative. -/
def sign (n : Int) : List Char := if n < 0 then ['-'] else []

/-- The zeros that fill a numeral up to a width. -/
def filling (width : Nat) (n : Int) : List Char :=
  List.replicate (width - ((sign n).length + (digits n.natAbs).length)) '0'

/-- The numeral of an integer, filled up with zeros behind its sign to at least the given width. -/
def render (width : Nat) (n : Int) : List Char := sign n ++ filling width n ++ digits n.natAbs

theorem value_digits (n : Nat) : value (digits n) = n :=
  Nat.ofDigitChars_toDigits (by decide) (by decide)

/-- Reading gives a number exactly if the text is a numeral for it and it is not too large. -/
theorem read?_eq_some_iff {text : List Char} {n : Nat} :
    read? text = some n ↔
      text ≠ [] ∧ text.all isDigit = true ∧ value text = n ∧ n ≤ largest := by
  unfold read?
  constructor
  · intro h
    split at h
    · next hr =>
      cases h
      exact ⟨hr.1, hr.2.1, rfl, hr.2.2⟩
    · cases h
  · rintro ⟨hne, hall, rfl, hle⟩
    exact if_pos ⟨hne, hall, hle⟩

/-- A numeral is as long as its width asks or as its sign and its digits need. -/
theorem length_render (width : Nat) (n : Int) :
    (render width n).length = max width ((sign n).length + (digits n.natAbs).length) := by
  simp only [render, filling, List.length_append, List.length_replicate]
  omega

end Octal

end FileMode
