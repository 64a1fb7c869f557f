import FileMode.CommandLine.Flag
import FileMode.Text.DecimalDigit
import FileMode.Text.Quoted

/-!
# Arguments

What an argument of the command is, by its text alone. An argument that does not begin with a hyphen
is an operand, and so is a lone hyphen. An argument that begins with one is a flag if it names one;
the name may be cut short as long as only one begins like it. Otherwise it is an operand if it
looks like a negative number or holds a space, and an unknown option if it does not.

The argument `--` ends this: **everything behind the first one is an operand**.

A text that cuts several long names short is no argument of any kind, and this is found out for
every argument in front of `--` before any of them is acted upon. A value given to a flag is a
mistake too, but **one that counts only once the argument's turn has come**; such an argument keeps
its mistake.

Letters of flags may be written together behind one hyphen. The rule for what stands among them and
is no such letter has come in two **editions**, an earlier one and the one that holds in 3.11.10.
They agree on everything else, and what is proved of a run of the command is proved for both.
-/

namespace FileMode

/-- What is wrong with the use of the command. -/
inductive UsageError where
  /-- An argument could be any of several long options. -/
  | ambiguous (argument : String) (flags : List Flag)
  /-- An option was given a value. -/
  | unusedValue (flag : Flag) (value : String)
  /-- There is nothing to check. -/
  | missingModes
  /-- Arguments are left over. -/
  | unrecognized (arguments : List String)
deriving DecidableEq

/-- The mistake in words. -/
def UsageError.message : UsageError → String
  | ambiguous argument flags =>
    "ambiguous option: " ++ argument ++ " could match "
      ++ String.intercalate ", " (flags.map Flag.longName)
  | unusedValue flag value =>
    "argument " ++ flag.names ++ ": ignored explicit argument " ++ Text.quoted value
  | missingModes => "the following arguments are required: modes"
  | unrecognized arguments => "unrecognized arguments: " ++ String.intercalate " " arguments

/-- The rule for letters written together behind one hyphen. -/
inductive Edition where
  /-- The earlier rule. What is no letter of a flag is a value, with all that follows. An equals
  sign right behind the first letter is skipped. -/
  | first
  /-- The rule in 3.11.10. What is no letter of a flag is left over, with all that follows, and the
  flags in front of it are acted upon. A value is only what an equals sign stands in front of, or
  what begins with a hyphen. -/
  | second
deriving DecidableEq, Inhabited

/-- What one argument names. -/
structure NamedFlags where
  flags : List Flag
  /-- The characters behind the letters that are left over, with a hyphen in front of them. -/
  leftOver : Option String := none
deriving DecidableEq

/-- With one more flag in front. -/
def NamedFlags.cons (flag : Flag) (named : NamedFlags) : NamedFlags :=
  { named with flags := flag :: named.flags }

/-- An argument by its kind. -/
inductive Argument where
  | operand (text : String)
  /-- The end of the options. -/
  | terminator
  /-- One flag or several, or the mistake in naming them. -/
  | flags (named : Except UsageError NamedFlags)
  | unknown (text : String)

namespace Argument

/-- The text that ends the options. -/
def terminatorText : String := "--"

/-- Whether a text is a number without a sign: digits, or digits that a point stands in front of,
with or without digits before it. -/
def isUnsignedNumber (text : List Char) : Bool :=
  match text.dropWhile Text.isDecimalDigit with
  | [] => text ≠ []
  | '.' :: fraction => fraction ≠ [] && fraction.all Text.isDecimalDigit
  | _ => false

/-- Whether the text behind a hyphen makes it a negative number; a line feed at its end is
overlooked. -/
def isNumberBehindHyphen (text : List Char) : Bool :=
  isUnsignedNumber (if text.getLast? = some '\n' then text.dropLast else text)

/-- An argument behind whose first hyphen no flag is named. -/
def ofUnnamed (text : String) : Argument :=
  if isNumberBehindHyphen (text.toList.drop 1) || text.toList.contains ' ' then operand text
  else unknown text

/-- What comes of characters behind the letter of a flag, the first of which is no such letter. -/
def foreign (edition : Edition) (flag : Flag) (text : List Char) : Except UsageError NamedFlags :=
  match edition, text with
  | .first, _ => .error (.unusedValue flag (String.ofList text))
  | .second, '=' :: value => .error (.unusedValue flag (String.ofList value))
  | .second, '-' :: _ => .error (.unusedValue flag (String.ofList text))
  | .second, _ => .ok { flags := [flag], leftOver := some (String.ofList ('-' :: text)) }

/-- What letters written together name, given the flag of the first letter and the characters behind
it. -/
def cluster (edition : Edition) (flag : Flag) : List Char → Except UsageError NamedFlags
  | [] => .ok { flags := [flag] }
  | c :: rest =>
    match Flag.ofLetter? c with
    | some next => (cluster edition next rest).map (NamedFlags.cons flag)
    | none => foreign edition flag (c :: rest)

/-- What a letter names with the characters behind it. Where an equals sign right behind the letter
is skipped, there is a value even if nothing follows. -/
def shortFlags (edition : Edition) (flag : Flag) (text : List Char) :
    Except UsageError NamedFlags :=
  match edition, text with
  | .first, ['='] => .error (.unusedValue flag "")
  | .first, '=' :: rest => cluster .first flag rest
  | _, _ => cluster edition flag text

/-- What a long name stands for with the characters behind it, which are nothing or an equals sign
and a value. -/
def longFlags (flag : Flag) : List Char → Except UsageError NamedFlags
  | [] => .ok { flags := [flag] }
  | _ :: value => .error (.unusedValue flag (String.ofList value))

/-- An argument with two hyphens in front of the given characters. -/
def ofLong (text : String) (name : List Char) : Except UsageError Argument :=
  match Flag.ofWordStart (name.takeWhile (· ≠ '=')) with
  | [] => .ok (ofUnnamed text)
  | [flag] => .ok (flags (longFlags flag (name.dropWhile (· ≠ '='))))
  | several => .error (.ambiguous text several)

/-- What an argument in front of the end of the options is. -/
def ofText (edition : Edition) (text : String) : Except UsageError Argument :=
  match text.toList with
  | '-' :: '-' :: name => ofLong text name
  | '-' :: c :: rest =>
    match Flag.ofLetter? c with
    | some flag => .ok (flags (shortFlags edition flag rest))
    | none => .ok (ofUnnamed text)
  | _ => .ok (operand text)

/-- What the arguments of a command are. -/
def ofTexts (edition : Edition) : List String → Except UsageError (List Argument)
  | [] => .ok []
  | text :: rest =>
    if text = terminatorText then .ok (terminator :: rest.map operand)
    else do
      let first ← ofText edition text
      let others ← ofTexts edition rest
      return first :: others

end Argument

end FileMode
