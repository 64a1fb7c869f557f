import FileMode.CommandLine.Argument

/-!
# Requests

What the arguments of a command ask for. Arguments are acted upon from left to right; help and
version settle the matter at once, **whatever stands behind them**.

Of the operands only the first unbroken run is taken as modes. Anything that is not an operand ends
the run, except for the end of the options, which is merely left out; operands behind the run are
left over, as are unknown options and what flags leave over. That is a mistake, though less of one
than having no modes at all.
-/

namespace FileMode

/-- What a command is to do. -/
inductive Request where
  | help
  | version
  /-- Check modes and report on them, or only on those that are wrong. -/
  | check (quiet : Bool) (modes : List String)
deriving DecidableEq

/-- The request of a flag that settles the matter. -/
def Flag.request? : Flag → Option Request
  | help => some .help
  | quiet => none
  | version => some .version

/-- What has been gathered from the arguments acted upon so far. -/
structure Gathering where
  quiet : Bool := false
  /-- The operands of the first run. -/
  modes : List String := []
  /-- Whether the first run is over. -/
  closed : Bool := false
  /-- The arguments that are left over. -/
  extras : List String := []
deriving DecidableEq, Inhabited

namespace Gathering

/-- Ends the first run, if it has begun. -/
def close (g : Gathering) : Gathering := { g with closed := g.closed || !g.modes.isEmpty }

/-- Adds an argument to those that are left over. -/
def leave (g : Gathering) (text : String) : Gathering := { g with extras := g.extras ++ [text] }

/-- Adds an operand, to the first run unless that is over. -/
def operand (g : Gathering) (text : String) : Gathering :=
  if g.closed then g.leave text else { g with modes := g.modes ++ [text] }

/-- Leaves out the end of the options, unless the first run is over. -/
def terminator (g : Gathering) : Gathering :=
  if g.closed then g.leave Argument.terminatorText else g

/-- Adds an unknown option. -/
def unknown (g : Gathering) (text : String) : Gathering := g.close.leave text

/-- Adds an argument that asks for quiet, and leaves over what it does. -/
def silence (g : Gathering) (leftOver : Option String) : Gathering :=
  { g.close with quiet := true, extras := g.extras ++ leftOver.toList }

/-- What is asked for once all arguments are gathered. -/
def request (g : Gathering) : Except UsageError Request :=
  if g.modes = [] then .error .missingModes
  else if g.extras ≠ [] then .error (.unrecognized g.extras)
  else .ok (.check g.quiet g.modes)

/-- Acts upon the arguments that are left. -/
def gather (g : Gathering) : List Argument → Except UsageError Request
  | [] => g.request
  | .operand text :: rest => (g.operand text).gather rest
  | .terminator :: rest => g.terminator.gather rest
  | .unknown text :: rest => (g.unknown text).gather rest
  | .flags (.error mistake) :: _ => .error mistake
  | .flags (.ok named) :: rest =>
    match named.flags.findSome? Flag.request? with
    | some request => .ok request
    | none => (g.silence named.leftOver).gather rest

end Gathering

/-- What the arguments of a command ask for. -/
def Request.ofArguments (edition : Edition) (args : List String) : Except UsageError Request := do
  let arguments ← Argument.ofTexts edition args
  ({} : Gathering).gather arguments

end FileMode
