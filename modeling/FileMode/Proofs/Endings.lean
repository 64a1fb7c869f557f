import FileMode.Proofs.Operands
import FileMode.Proofs.Requests

/-!
# How a run ends

A run ends with one of three statuses, and the status says what the two streams hold
(`Outcome.ofCall_ends`). **A mistake in calling the command is all that is reported**: whatever
operands stand beside it, none of them is looked at. Otherwise there are errors exactly if something
that was to be checked is no mode.

Asking for quiet empties the output, unless that is a notice, and changes nothing else
(`Outcome.ofCall_quietText`).

Both hold in either edition, although a run may end in another way there.
-/

namespace FileMode.Outcome

/-! ### What the streams hold -/

/-- A complaint has a text. -/
theorem ne_empty_of_complaint? {command text line : String}
    (h : complaint? command text = some line) : line ≠ "" := by
  rw [complaint?] at h
  split at h
  · contradiction
  · cases h
    simp

section Modes

variable (command : String) (quiet : Bool) (texts : List String)

/-- There are errors exactly if the status is not zero. -/
theorem errors_ofModes_eq_empty_iff :
    (ofModes command quiet texts).errors = "" ↔ (ofModes command quiet texts).status = 0 := by
  rw [errors_ofModes, status_ofModes]
  rcases hlines : texts.filterMap (complaint? command) with _ | ⟨line, rest⟩
  · exact iff_of_true rfl rfl
  · have hmem : line ∈ texts.filterMap (complaint? command) := hlines ▸ List.mem_cons_self
    obtain ⟨text, -, hline⟩ := List.mem_filterMap.mp hmem
    refine iff_of_false (fun hempty => ?_) (by simp)
    rw [String.join_cons] at hempty
    exact ne_empty_of_complaint? hline (String.append_eq_empty_iff.mp hempty).1

theorem status_ofModes_le_one : (ofModes command quiet texts).status ≤ 1 := by
  rw [status_ofModes]
  split <;> decide

/-- Nothing is reported on the output when quiet is asked for. -/
theorem output_ofModes_true : (ofModes command true texts).output = "" := by
  induction texts with
  | nil => rfl
  | cons text rest ih =>
    have hmode : (ofMode command true text).output = "" := by
      rw [ofMode]
      cases Mode.parse text <;> rfl
    rw [ofModes, output_append, hmode, ih]
    rfl

end Modes

/-- A mistake in calling the command has a text. -/
theorem mistake_ne_empty (command message : String) : Notice.mistake command message ≠ "" := by
  simp [Notice.mistake]

/-! ### What the status says -/

/-- **The status says what was requested and how it went.** -/
theorem status_ofRequest (command : String) (requested : Except UsageError Request) :
    (ofRequest command requested).status ≤ 2 ∧
    ((ofRequest command requested).status = 0 ↔ (ofRequest command requested).errors = "") ∧
    ((ofRequest command requested).status = 2 ↔ ∃ reason, requested = .error reason) ∧
    ((ofRequest command requested).status = 1 ↔
      ∃ quiet modes, requested = .ok (.check quiet modes) ∧
        ∃ text ∈ modes, ∃ e, Mode.parse text = .error e) := by
  match requested with
  | .error reason => simp [ofRequest, misuse, mistake_ne_empty]
  | .ok .help => simp [ofRequest, ofOutput]
  | .ok .version => simp [ofRequest, ofOutput]
  | .ok (.check quiet modes) =>
    have hle := status_ofModes_le_one command quiet modes
    have hone := status_ofModes_eq_one_iff command quiet modes
    rw [ofRequest]
    refine ⟨by omega, (errors_ofModes_eq_empty_iff command quiet modes).symm,
      iff_of_false (by omega) (by simp), hone.trans ⟨fun h => ⟨quiet, modes, rfl, h⟩, ?_⟩⟩
    rintro ⟨_, _, heq, h⟩
    cases heq
    exact h

/-- **How a run ends.** There are three statuses. With the first there are no errors, and there are
errors with the others. The last one means that the arguments are a mistake: then the output is
empty, and the errors are a line on how the command is called and the mistake, whatever else stands
among the arguments. The one between means that the arguments ask for modes to be checked and one of
them is none: then the errors are a complaint about each of these. What arguments ask for, or which
mistake they are, is told by what arises from them. -/
theorem ofCall_ends (edition : Edition) (path : String) (args : List String) :
    (ofCall path args edition).status ∈ [0, 1, 2] ∧
    ((ofCall path args edition).status = 0 ↔ (ofCall path args edition).errors = "") ∧
    ((ofCall path args edition).status = 2 ↔
      ∃ reason, Request.ofArguments edition args = .error reason) ∧
    (∀ reason, Request.ofArguments edition args = .error reason →
      (ofCall path args edition).output = "" ∧
      (ofCall path args edition).errors =
        Notice.usage (Notice.commandName path) ++
          (Notice.commandName path ++ ": error: " ++ reason.message ++ "\n")) ∧
    ((ofCall path args edition).status = 1 ↔
      ∃ quiet modes, Request.ofArguments edition args = .ok (.check quiet modes) ∧
        ∃ text ∈ modes, ∃ e, Mode.parse text = .error e) ∧
    (∀ quiet modes, Request.ofArguments edition args = .ok (.check quiet modes) →
      (ofCall path args edition).errors =
        String.join (modes.filterMap (complaint? (Notice.commandName path)))) ∧
    ∀ result, Request.ofArguments edition args = result ↔ Request.Arises edition args result := by
  obtain ⟨hle, hzero, htwo, hone⟩ :=
    status_ofRequest (Notice.commandName path) (Request.ofArguments edition args)
  refine ⟨?_, hzero, htwo, fun reason h => ?_, hone, fun quiet modes h => ?_,
    fun result => Request.ofArguments_eq_iff⟩
  · have hle' : (ofCall path args edition).status ≤ 2 := hle
    simp only [List.mem_cons, List.not_mem_nil, or_false]
    omega
  · rw [ofCall, h, ofRequest, misuse, Notice.mistake]
    refine ⟨rfl, ?_⟩
    simp only [String.append_assoc]
  · rw [ofCall, h, ofRequest, errors_ofModes]

/-- Modes on both sides of an option with a letter that is none, which is a mistake of another kind
in each edition, and modes of which one is none. -/
theorem ofCall_ends_failing :
    (Request.ofArguments .first ["755", "-qx", "u+x"] = .error (.unusedValue .quiet "x") ∧
      (ofCall "filemode" ["755", "-qx", "u+x"] .first).output = "" ∧
      (ofCall "filemode" ["755", "-qx", "u+x"] .first).errors =
        "usage: filemode [-q] mode ...\n" ++
          "filemode: error: argument -q/--quiet: ignored explicit argument 'x'\n" ∧
      (ofCall "filemode" ["755", "-qx", "u+x"] .first).status = 2) ∧
    (Request.ofArguments .second ["755", "-qx", "u+x"] = .error (.unrecognized ["-x", "u+x"]) ∧
      (ofCall "filemode" ["755", "-qx", "u+x"] .second).output = "" ∧
      (ofCall "filemode" ["755", "-qx", "u+x"] .second).errors =
        "usage: filemode [-q] mode ...\n" ++
          "filemode: error: unrecognized arguments: -x u+x\n" ∧
      (ofCall "filemode" ["755", "-qx", "u+x"] .second).status = 2) ∧
    Request.ofArguments .second ["755", "79", "-q"] = .ok (.check true ["755", "79"]) ∧
      (ofCall "filemode" ["755", "79", "-q"] .second).errors =
        "filemode: invalid mode: '79': unexpected character '7' at position 0\n" ∧
      (ofCall "filemode" ["755", "79", "-q"] .second).status = 1 := by
  have hvalue : Request.ofArguments .first ["755", "-qx", "u+x"] =
      .error (.unusedValue .quiet "x") := rfl
  have hextras : Request.ofArguments .second ["755", "-qx", "u+x"] =
      .error (.unrecognized ["-x", "u+x"]) := rfl
  have hcheck : Request.ofArguments .second ["755", "79", "-q"] =
      .ok (.check true ["755", "79"]) := rfl
  have hno : Mode.parse "79" = .error ⟨'7', 0⟩ := by cbv
  obtain ⟨-, -, htwo, hreason, -⟩ := ofCall_ends .first "filemode" ["755", "-qx", "u+x"]
  obtain ⟨-, -, htwo', hreason', -⟩ := ofCall_ends .second "filemode" ["755", "-qx", "u+x"]
  obtain ⟨-, -, -, -, hone, herrors, -⟩ := ofCall_ends .second "filemode" ["755", "79", "-q"]
  refine ⟨⟨hvalue, (hreason _ hvalue).1, (hreason _ hvalue).2.trans ?_, htwo.mpr ⟨_, hvalue⟩⟩,
    ⟨hextras, (hreason' _ hextras).1, (hreason' _ hextras).2.trans ?_, htwo'.mpr ⟨_, hextras⟩⟩,
    hcheck, (herrors _ _ hcheck).trans ?_, hone.mpr ⟨_, _, hcheck, "79", by simp, _, hno⟩⟩
  · decide +kernel
  · decide +kernel
  · decide +kernel

/-! ### Asking for quiet -/

/-- A silenced request ends as it would have, but for the output. -/
theorem ofRequest_silenced (command : String) (requested : Except UsageError Request) :
    (ofRequest command (requested.map Request.silenced)).status =
      (ofRequest command requested).status ∧
    (ofRequest command (requested.map Request.silenced)).errors =
      (ofRequest command requested).errors := by
  match requested with
  | .error _ => exact ⟨rfl, rfl⟩
  | .ok .help => exact ⟨rfl, rfl⟩
  | .ok .version => exact ⟨rfl, rfl⟩
  | .ok (.check quiet modes) =>
    show (ofModes command true modes).status = (ofModes command quiet modes).status ∧
      (ofModes command true modes).errors = (ofModes command quiet modes).errors
    rw [status_ofModes, status_ofModes, errors_ofModes, errors_ofModes]
    exact ⟨rfl, rfl⟩

/-- A silenced request has no output but a notice. -/
theorem output_ofRequest_silenced (command : String) {requested : Except UsageError Request}
    (hhelp : requested ≠ .ok .help) (hversion : requested ≠ .ok .version) :
    (ofRequest command (requested.map Request.silenced)).output = "" := by
  match requested with
  | .error _ => rfl
  | .ok .help => contradiction
  | .ok .version => contradiction
  | .ok (.check quiet modes) => exact output_ofModes_true command modes

/-- **Asking for quiet in front of everything else** changes nothing but the output, and that only
if it is no notice; then it is empty. -/
theorem ofCall_quietText (edition : Edition) (path : String) (args : List String) :
    (ofCall path ("-q" :: args) edition).status = (ofCall path args edition).status ∧
    (ofCall path ("-q" :: args) edition).errors = (ofCall path args edition).errors ∧
    (Request.ofArguments edition args = .ok .help ∨
      Request.ofArguments edition args = .ok .version →
      (ofCall path ("-q" :: args) edition).output = (ofCall path args edition).output) ∧
    (Request.ofArguments edition args ≠ .ok .help ∧
      Request.ofArguments edition args ≠ .ok .version →
      (ofCall path ("-q" :: args) edition).output = "") := by
  have hcall : ofCall path ("-q" :: args) edition = ofRequest (Notice.commandName path)
      ((Request.ofArguments edition args).map Request.silenced) :=
    congrArg (ofRequest _) (Request.ofArguments_quietText edition args)
  obtain ⟨hstatus, herrors⟩ :=
    ofRequest_silenced (Notice.commandName path) (Request.ofArguments edition args)
  rw [hcall]
  refine ⟨hstatus, herrors, ?_, fun ⟨hhelp, hversion⟩ => output_ofRequest_silenced _ hhelp hversion⟩
  rintro (h | h) <;> rw [ofCall, h] <;> rfl

/-- Quiet in front of help asked for among letters of which one is none, behind an operand that is
no mode, and in front of a mistake. -/
theorem ofCall_quietText_help :
    Request.ofArguments .second ["79", "-hx"] = .ok .help ∧
    (ofCall "filemode" ["-q", "79", "-hx"] .second).output =
      (ofCall "filemode" ["79", "-hx"] .second).output ∧
    Request.ofArguments .first ["79", "-hx"] ≠ .ok .help ∧
    Request.ofArguments .first ["79", "-hx"] ≠ .ok .version ∧
    (ofCall "filemode" ["-q", "79", "-hx"] .first).output = "" := by
  have hhelp : Request.ofArguments .second ["79", "-hx"] = .ok .help := rfl
  have hmistake : Request.ofArguments .first ["79", "-hx"] = .error (.unusedValue .help "x") := rfl
  obtain ⟨-, -, hnotice, -⟩ := ofCall_quietText .second "filemode" ["79", "-hx"]
  obtain ⟨-, -, -, hempty⟩ := ofCall_quietText .first "filemode" ["79", "-hx"]
  have hne : Request.ofArguments .first ["79", "-hx"] ≠ .ok .help ∧
      Request.ofArguments .first ["79", "-hx"] ≠ .ok .version := by
    rw [hmistake]
    exact ⟨nofun, nofun⟩
  exact ⟨hhelp, hnotice (.inl hhelp), hne.1, hne.2, hempty hne⟩

end FileMode.Outcome
