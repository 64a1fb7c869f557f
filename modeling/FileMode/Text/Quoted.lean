import FileMode.Text.Printable

/-!
# Quoted text

A text in quotation marks, so written that no character of it can be mistaken for the end. The marks
are single quotes unless that would need an escape and double quotes would not. Inside, the mark in
use and the backslash are preceded by a backslash; line feed, carriage return and tab have a letter
of their own; **every other character that is not printable is written by its code point**, in two,
four or eight hexadecimal digits, whichever is the least that holds it.
-/

namespace FileMode.Text

/-- The mark that a text is put between: the double quote if the text holds a single quote and no
double quote, and otherwise the single quote. -/
def quotationMark (text : List Char) : Char :=
  if '\'' ∈ text ∧ '"' ∉ text then '"' else '\''

/-- The last digits of a number in base sixteen, as many as are asked for, in small letters. -/
def hexDigits (count n : Nat) : List Char :=
  (List.range count).reverse.map fun i => Nat.digitChar (n / Nat.pow 16 i % 16)

/-- A code point written with a backslash and a letter that tells the number of digits. -/
def escapedCodePoint (n : Nat) : List Char :=
  if n ≤ 0xFF then '\\' :: 'x' :: hexDigits 2 n
  else if n ≤ 0xFFFF then '\\' :: 'u' :: hexDigits 4 n
  else '\\' :: 'U' :: hexDigits 8 n

/-- A character as it stands between two quotation marks. -/
def escapedChar (mark c : Char) : List Char :=
  if c = mark ∨ c = '\\' then ['\\', c]
  else if c = '\n' then ['\\', 'n']
  else if c = '\r' then ['\\', 'r']
  else if c = '\t' then ['\\', 't']
  else if isPrintable c then [c]
  else escapedCodePoint c.toNat

/-- A text in quotation marks. -/
def quotedChars (text : List Char) : List Char :=
  quotationMark text :: (text.flatMap (escapedChar (quotationMark text)) ++ [quotationMark text])

/-- A text in quotation marks. -/
def quoted (text : String) : String := String.ofList (quotedChars text.toList)

end FileMode.Text
