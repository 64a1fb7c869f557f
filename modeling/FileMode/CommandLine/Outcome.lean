import FileMode.CommandLine.Notice
import FileMode.CommandLine.Request
import FileMode.Mode.Reading
import FileMode.Mode.Rendering

/-!
# Outcomes

What a run of the command leaves behind: a status and two streams of text. Outcomes are put together
one behind the other; the status is then **the larger of the two**, so a single mode that is wrong
makes the run fail, and nothing that stands beside it is kept back.
-/

namespace FileMode

/-- What a run leaves behind. -/
structure Outcome where
  status : Nat := 0
  output : String := ""
  errors : String := ""
deriving DecidableEq, Inhabited

namespace Outcome

/-- One outcome behind the other. -/
def append (first second : Outcome) : Outcome :=
  ⟨max first.status second.status, first.output ++ second.output, first.errors ++ second.errors⟩

instance : Append Outcome := ⟨append⟩

/-- The outcome that writes to the output. -/
def ofOutput (text : String) : Outcome := ⟨0, text, ""⟩

/-- Something that was to be checked is wrong. -/
def failure (text : String) : Outcome := ⟨1, "", text⟩

/-- The command was called in a wrong way. -/
def misuse (text : String) : Outcome := ⟨2, "", text⟩

/-- The report on one mode. -/
def ofMode (command : String) (quiet : Bool) (text : String) : Outcome :=
  match Mode.parse text with
  | .ok mode => ofOutput (if quiet then "" else text ++ ": " ++ mode.describe ++ "\n")
  | .error reason =>
    failure (command ++ ": invalid mode: '" ++ text ++ "': " ++ reason.message ++ "\n")

/-- The reports on modes, in order. -/
def ofModes (command : String) (quiet : Bool) : List String → Outcome
  | [] => {}
  | text :: rest => ofMode command quiet text ++ ofModes command quiet rest

/-- What comes of a request. -/
def ofRequest (command : String) : Except UsageError Request → Outcome
  | .ok .help => ofOutput (Notice.help command)
  | .ok .version => ofOutput (Notice.version command)
  | .ok (.check quiet modes) => ofModes command quiet modes
  | .error reason => misuse (Notice.mistake command reason.message)

/-- What comes of calling the command that lies at a path, by the first edition unless another one
is named. -/
def ofCall (path : String) (args : List String) (edition : Edition := .first) : Outcome :=
  ofRequest (Notice.commandName path) (Request.ofArguments edition args)

@[simp] theorem status_append (first second : Outcome) :
    (first ++ second).status = max first.status second.status := rfl

@[simp] theorem output_append (first second : Outcome) :
    (first ++ second).output = first.output ++ second.output := rfl

@[simp] theorem errors_append (first second : Outcome) :
    (first ++ second).errors = first.errors ++ second.errors := rfl

theorem empty_append (outcome : Outcome) : ({} : Outcome) ++ outcome = outcome := by
  cases outcome
  show append _ _ = _
  simp [append]

theorem append_empty (outcome : Outcome) : outcome ++ ({} : Outcome) = outcome := by
  cases outcome
  show append _ _ = _
  simp [append]

theorem append_assoc (first second third : Outcome) :
    first ++ second ++ third = first ++ (second ++ third) := by
  show append (append _ _) _ = append _ (append _ _)
  simp [append, Nat.max_assoc, String.append_assoc]

/-- The reports on two lists of modes are the report on the one list that they make. -/
theorem ofModes_append (command : String) (quiet : Bool) (first second : List String) :
    ofModes command quiet (first ++ second) =
      ofModes command quiet first ++ ofModes command quiet second := by
  induction first with
  | nil => exact (empty_append _).symm
  | cons text rest ih => rw [List.cons_append, ofModes, ih, ← append_assoc]; rfl

end Outcome

end FileMode
