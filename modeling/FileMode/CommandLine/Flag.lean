/-!
# Flags

The three options of the command. Each has a long name; two of them also have a letter, and letters
can be written together behind one hyphen. **No option takes a value.**
-/

namespace FileMode

/-- An option of the command. -/
inductive Flag where
  /-- Show how the command is used, and do nothing else. -/
  | help
  /-- Report only what is not a mode. -/
  | quiet
  /-- Show the version, and do nothing else. -/
  | version
deriving DecidableEq, Inhabited

namespace Flag

/-- The options in the order in which they are listed. -/
def all : List Flag := [help, quiet, version]

/-- The long name of an option, without the two hyphens in front of it. -/
def word : Flag → String
  | help => "help"
  | quiet => "quiet"
  | version => "version"

/-- The letter of an option, if it has one. -/
def letter? : Flag → Option Char
  | help => some 'h'
  | quiet => some 'q'
  | version => none

/-- The option of a letter. -/
def ofLetter? (c : Char) : Option Flag := all.find? fun flag => flag.letter? == some c

/-- The options whose long name begins with the given characters. -/
def ofWordStart (start : List Char) : List Flag :=
  all.filter fun flag => start.isPrefixOf flag.word.toList

/-- The long name as it is written. -/
def longName (flag : Flag) : String := "--" ++ flag.word

/-- All names of an option as they are written, a slash between them. -/
def names (flag : Flag) : String :=
  match flag.letter? with
  | some c => String.ofList ['-', c, '/'] ++ flag.longName
  | none => flag.longName

end Flag

end FileMode
