import FileMode.Text.CodePoints

/-!
# Blanks

The characters that separate words: the spaces of all widths, the line and paragraph separators, and
the controls that move to another place or divide a text. Among them are more than the six that
plain text files use, which have a name of their own here.
-/

namespace FileMode.Text

/-- The code points of blanks. -/
def blanks : List (Nat × Nat) :=
  [(0x9, 0xD), (0x1C, 0x20), (0x85, 0x85), (0xA0, 0xA0), (0x1680, 0x1680), (0x2000, 0x200A),
   (0x2028, 0x2029), (0x202F, 0x202F), (0x205F, 0x205F), (0x3000, 0x3000)]

/-- Whether a character is a blank. -/
def isBlank (c : Char) : Bool := inRanges blanks c

/-- Whether a character is one of the six blanks of plain text files: tab, line feed, vertical tab,
form feed, carriage return, space. -/
def isPlainBlank (c : Char) : Bool := inRanges [(0x9, 0xD), (0x20, 0x20)] c

/-- A text without the blanks at its two ends. -/
def trimBlanks (text : List Char) : List Char :=
  ((text.dropWhile isBlank).reverse.dropWhile isBlank).reverse

end FileMode.Text
