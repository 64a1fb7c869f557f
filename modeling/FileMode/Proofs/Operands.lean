import FileMode.CommandLine.Outcome

/-!
# Operands one by one

Behind the end of the options **every argument is an operand**, however it looks
(`Request.ofArguments_terminator`). Each operand is dealt with by itself: a mode has a line on the
output (`Outcome.output_ofModes`), anything else a line on the errors (`Outcome.errors_ofModes`),
and the status tells whether there is a line on the errors (`Outcome.status_ofModes`). Nothing is
carried over from one operand to the next, so the run on two lists of operands is the two runs, one
behind the other (`Outcome.ofOperands_append`).

What may stand in front of the end of the options is no concern here, and neither is the edition.
-/

namespace FileMode

/-! ### Gathering operands -/

/-- As long as the first run is not over, operands are added to it. -/
theorem Gathering.gather_operands {g : Gathering} (hopen : g.closed = false) (texts : List String)
    (rest : List Argument) :
    g.gather (texts.map .operand ++ rest) =
      ({ g with modes := g.modes ++ texts } : Gathering).gather rest := by
  induction texts generalizing g with
  | nil => simp
  | cons text others ih =>
    have hoperand : g.operand text = { g with modes := g.modes ++ [text] } := by
      rw [operand, hopen, if_neg Bool.false_ne_true]
    have hopen' : (g.operand text).closed = false := by rw [hoperand]; exact hopen
    rw [List.map_cons, List.cons_append, gather, ih hopen', hoperand]
    simp

/-- **Behind the end of the options all arguments are modes to check**, if there are any. -/
theorem Request.ofArguments_terminator (edition : Edition) {texts : List String} (h : texts ≠ []) :
    ofArguments edition (Argument.terminatorText :: texts) = .ok (.check false texts) := by
  have harguments : Argument.ofTexts edition (Argument.terminatorText :: texts) =
      .ok (.terminator :: texts.map .operand) := if_pos rfl
  calc
    ofArguments edition (Argument.terminatorText :: texts)
    _ = ({} : Gathering).gather (.terminator :: texts.map .operand) := by
      rw [ofArguments, harguments]
      rfl
    _ = ({} : Gathering).gather (texts.map .operand ++ []) := by
      rw [List.append_nil]
      rfl
    _ = ({ modes := texts } : Gathering).request := Gathering.gather_operands rfl texts []
    _ = .ok (.check false texts) := by
      rw [Gathering.request, if_neg h]
      rfl

/-! ### Reports -/

namespace Outcome

/-- The line that reports on a text, if it is a mode. -/
def report? (text : String) : Option String :=
  match Mode.parse text with
  | .ok mode => some (text ++ ": " ++ mode.describe ++ "\n")
  | .error _ => none

/-- The line that says what is wrong with a text, if it is no mode. -/
def complaint? (command text : String) : Option String :=
  match Mode.parse text with
  | .ok _ => none
  | .error reason =>
    some (command ++ ": invalid mode: '" ++ text ++ "': " ++ reason.message ++ "\n")

/-- There is no complaint about a text exactly if it is a mode. -/
theorem complaint?_eq_none_iff {command text : String} :
    complaint? command text = none ↔ ∃ m, Mode.parse text = .ok m := by
  rw [complaint?]
  cases Mode.parse text <;> simp

theorem complaint?_ne_none_iff {command text : String} :
    complaint? command text ≠ none ↔ ∃ e, Mode.parse text = .error e := by
  rw [complaint?]
  cases Mode.parse text <;> simp

/-- Lines that there may or may not be, with one more in front. -/
theorem join_filterMap_cons (line? : String → Option String) (text : String) (rest : List String) :
    String.join ((text :: rest).filterMap line?) =
      (line? text).getD "" ++ String.join (rest.filterMap line?) := by
  rcases h : line? text with _ | line
  · rw [List.filterMap_cons_none h]
    exact String.empty_append.symm
  · rw [List.filterMap_cons_some h, String.join_cons]
    rfl

section Modes

variable (command : String) (quiet : Bool)

theorem output_ofMode (text : String) :
    (ofMode command false text).output = (report? text).getD "" := by
  rw [ofMode, report?]
  cases Mode.parse text <;> rfl

theorem errors_ofMode (text : String) :
    (ofMode command quiet text).errors = (complaint? command text).getD "" := by
  rw [ofMode, complaint?]
  cases Mode.parse text <;> rfl

theorem status_ofMode (text : String) :
    (ofMode command quiet text).status = if complaint? command text = none then 0 else 1 := by
  rw [ofMode, complaint?]
  cases Mode.parse text <;> rfl

/-- **The output is the reports on the modes**, in order. -/
theorem output_ofModes (texts : List String) :
    (ofModes command false texts).output = String.join (texts.filterMap report?) := by
  induction texts with
  | nil => rfl
  | cons text rest ih =>
    rw [ofModes, output_append, output_ofMode, ih, join_filterMap_cons]

/-- **The errors are the complaints about what is no mode**, in order. -/
theorem errors_ofModes (texts : List String) :
    (ofModes command quiet texts).errors = String.join (texts.filterMap (complaint? command)) := by
  induction texts with
  | nil => rfl
  | cons text rest ih =>
    rw [ofModes, errors_append, errors_ofMode, ih, join_filterMap_cons]

/-- **The status tells whether there is any complaint.** -/
theorem status_ofModes (texts : List String) :
    (ofModes command quiet texts).status =
      if texts.filterMap (complaint? command) = [] then 0 else 1 := by
  induction texts with
  | nil => rfl
  | cons text rest ih =>
    rw [ofModes, status_append, status_ofMode, ih]
    rcases h : complaint? command text with _ | line
    · rw [List.filterMap_cons_none h, if_pos rfl, Nat.zero_max]
    · rw [List.filterMap_cons_some h, if_neg (Option.some_ne_none line),
        if_neg (List.cons_ne_nil line _)]
      split <;> rfl

/-- The status is zero exactly if all texts are modes. -/
theorem status_ofModes_eq_zero_iff (texts : List String) :
    (ofModes command quiet texts).status = 0 ↔ ∀ text ∈ texts, ∃ m, Mode.parse text = .ok m := by
  have hnone : texts.filterMap (complaint? command) = [] ↔
      ∀ text ∈ texts, ∃ m, Mode.parse text = .ok m :=
    List.filterMap_eq_nil_iff.trans (forall₂_congr fun _ _ => complaint?_eq_none_iff)
  rw [status_ofModes, ← hnone]
  simp

/-- The status is one exactly if some text is no mode. -/
theorem status_ofModes_eq_one_iff (texts : List String) :
    (ofModes command quiet texts).status = 1 ↔ ∃ text ∈ texts, ∃ e, Mode.parse text = .error e := by
  have hsome : texts.filterMap (complaint? command) ≠ [] ↔
      ∃ text ∈ texts, ∃ e, Mode.parse text = .error e := by
    rw [ne_eq, List.filterMap_eq_nil_iff]
    simp only [Classical.not_forall, exists_prop]
    exact exists_congr fun _ => and_congr_right fun _ => complaint?_ne_none_iff
  rw [status_ofModes, ← hsome]
  simp

end Modes

/-! ### Runs -/

/-- What comes of calling the command with operands behind the end of the options. -/
def ofOperands (path : String) (texts : List String) (edition : Edition) : Outcome :=
  ofCall path (Argument.terminatorText :: texts) edition

/-- A run on operands leaves the reports on them. -/
theorem ofOperands_eq (edition : Edition) (path : String) {texts : List String} (h : texts ≠ []) :
    ofOperands path texts edition = ofModes (Notice.commandName path) false texts := by
  rw [ofOperands, ofCall, Request.ofArguments_terminator edition h, ofRequest]

/-- A run on two lists of operands is the run on the first and behind it that on the second. -/
theorem ofOperands_append (edition : Edition) (path : String) {texts more : List String}
    (h : texts ≠ []) (hmore : more ≠ []) :
    ofOperands path (texts ++ more) edition =
      ofOperands path texts edition ++ ofOperands path more edition := by
  rw [ofOperands_eq edition path h, ofOperands_eq edition path hmore,
    ofOperands_eq edition path (List.append_ne_nil_of_left_ne_nil h more), ofModes_append]

/-- **Operands behind the end of the options are reported on one by one.** All of them are taken as
modes to check. The output is the reports on those that are modes, the errors are the complaints
about the others, both in order, and the status is one if there are others and zero if not. So no
operand has any effect on what is said about another: a run on more operands leaves behind what the
runs on its parts do, and has the larger status of the two. -/
theorem ofOperands_reports (edition : Edition) (path : String) {texts : List String}
    (h : texts ≠ []) :
    Request.ofArguments edition (Argument.terminatorText :: texts) = .ok (.check false texts) ∧
    (ofOperands path texts edition).output = String.join (texts.filterMap report?) ∧
    (ofOperands path texts edition).errors =
      String.join (texts.filterMap (complaint? (Notice.commandName path))) ∧
    ((ofOperands path texts edition).status = 1 ↔ ∃ text ∈ texts, ∃ e, Mode.parse text = .error e) ∧
    ((ofOperands path texts edition).status = 0 ↔ ∀ text ∈ texts, ∃ m, Mode.parse text = .ok m) ∧
    ∀ more ≠ [],
      (ofOperands path (texts ++ more) edition).output =
        (ofOperands path texts edition).output ++ (ofOperands path more edition).output ∧
      (ofOperands path (texts ++ more) edition).errors =
        (ofOperands path texts edition).errors ++ (ofOperands path more edition).errors ∧
      (ofOperands path (texts ++ more) edition).status =
        max (ofOperands path texts edition).status (ofOperands path more edition).status := by
  refine ⟨Request.ofArguments_terminator edition h, ?_, ?_, ?_, ?_, fun more hmore => ?_⟩
  · rw [ofOperands_eq edition path h, output_ofModes]
  · rw [ofOperands_eq edition path h, errors_ofModes]
  · rw [ofOperands_eq edition path h, status_ofModes_eq_one_iff]
  · rw [ofOperands_eq edition path h, status_ofModes_eq_zero_iff]
  · rw [ofOperands_append edition path h hmore]
    exact ⟨rfl, rfl, rfl⟩

/-- Operands that look like the end of the options, like an option and like an unknown one. -/
theorem ofOperands_reports_hyphens :
    ["--", "-q"] ≠ [] ∧
    Request.ofArguments .first (Argument.terminatorText :: ["--", "-q"]) =
      .ok (.check false ["--", "-q"]) ∧
    (ofOperands "bin/filemode" ["--", "-q"] .first).output = "--: symbolic --\n" ∧
    (ofOperands "bin/filemode" ["--", "-q"] .first).errors =
      "filemode: invalid mode: '-q': unexpected character 'q' at position 1\n" ∧
    (ofOperands "bin/filemode" ["--", "-q"] .first).status = 1 ∧
    (ofOperands "bin/filemode" (["--", "-q"] ++ ["-w"]) .first).output =
      (ofOperands "bin/filemode" ["--", "-q"] .first).output ++
        (ofOperands "bin/filemode" ["-w"] .first).output := by
  have hne : ["--", "-q"] ≠ [] := List.cons_ne_nil _ _
  obtain ⟨hrequest, houtput, herrors, hstatus, -, happend⟩ :=
    ofOperands_reports .first "bin/filemode" hne
  have hq : Mode.parse "-q" = .error ⟨'q', 1⟩ := by cbv
  refine ⟨hne, hrequest, houtput.trans ?_, herrors.trans ?_, hstatus.mpr ⟨"-q", by simp, _, hq⟩,
    (happend ["-w"] (List.cons_ne_nil _ _)).1⟩
  · decide +kernel
  · decide +kernel

end Outcome

end FileMode
