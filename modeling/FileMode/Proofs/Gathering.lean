import FileMode.CommandLine.Request

/-!
# What is gathered

Arguments are acted upon one by one, but what comes of it can be told **by where they stand**. The
first argument that settles the matter does so; if there is none, all are gathered
(`Gathering.gather_eq`). Of what is gathered, the modes are the operands of the first unbroken run;
left over are unknown options and what flags leave over, and behind that run operands as well
(`Gathering.foldl_add`).

The first run begins with an operand. An end of the options in front of it is left out like one
within it, and **only one behind it is left over**.
-/

namespace FileMode

/-! ### Settling the matter -/

/-- What an argument settles on its own: flags are a mistake, or one of them asks for help or for
the version. -/
def Argument.verdict? : Argument → Option (Except UsageError Request)
  | .flags (.error mistake) => some (.error mistake)
  | .flags (.ok named) => (named.flags.findSome? Flag.request?).map .ok
  | _ => none

/-- The text that an argument leaves over wherever it stands: an unknown option, or what flags leave
over. -/
def Argument.unknown? : Argument → Option String
  | unknown text => some text
  | flags (.ok named) => named.leftOver
  | _ => none

namespace Gathering

/-- What is gathered with one more argument, which settles nothing. -/
def add (g : Gathering) (a : Argument) : Gathering :=
  match a with
  | .operand text => g.operand text
  | .terminator => g.terminator
  | .unknown text => g.unknown text
  | .flags _ => g.silence a.unknown?

/-- An argument settles the matter, or it is added and leaves the matter to the others. -/
theorem gather_cons (g : Gathering) (a : Argument) (rest : List Argument) :
    g.gather (a :: rest) = a.verdict?.getD ((g.add a).gather rest) := by
  rcases a with text | _ | ⟨mistake | named⟩ | text
  · rfl
  · rfl
  · rfl
  · rw [gather, Argument.verdict?]
    cases named.flags.findSome? Flag.request? <;> rfl
  · rfl

/-- **The first argument that settles the matter does so**; if there is none, all are gathered. -/
theorem gather_eq (g : Gathering) (arguments : List Argument) :
    g.gather arguments =
      (arguments.findSome? Argument.verdict?).getD (arguments.foldl add g).request := by
  induction arguments generalizing g with
  | nil => rfl
  | cons a rest ih =>
    rw [gather_cons, ih, List.findSome?_cons, List.foldl_cons]
    cases a.verdict? <;> rfl

end Gathering

/-! ### Positions -/

/-- What is selected from a list comes from the first entry and then from the others. -/
theorem filterMap_cons_eq_append {α β : Type} (select? : α → Option β) (a : α) (rest : List α) :
    (a :: rest).filterMap select? = (select? a).toList ++ rest.filterMap select? := by
  rw [List.filterMap_cons]
  cases select? a <;> rfl

namespace Argument

/-- The text of an operand. -/
def operand? : Argument → Option String
  | operand text => some text
  | _ => none

/-- The text that an argument leaves over behind the first run. -/
def leftOver? : Argument → Option String
  | operand text => some text
  | terminator => some terminatorText
  | other => other.unknown?

/-- Whether an argument consists of flags. -/
def isFlags : Argument → Bool
  | flags _ => true
  | _ => false

/-- Whether a run of operands goes on with an argument. -/
def staysInRun : Argument → Bool
  | operand _ => true
  | terminator => true
  | _ => false

/-- The arguments in front of the first operand. -/
def beforeRun (arguments : List Argument) : List Argument :=
  arguments.takeWhile fun a => a.operand?.isNone

/-- The first operand and all arguments behind it. -/
def fromRun (arguments : List Argument) : List Argument :=
  arguments.dropWhile fun a => a.operand?.isNone

/-- **The modes among arguments**: the operands of the first unbroken run. -/
def modes (arguments : List Argument) : List String :=
  ((fromRun arguments).takeWhile staysInRun).filterMap operand?

/-- The arguments behind the first unbroken run of operands. -/
def behindRun (arguments : List Argument) : List Argument :=
  (fromRun arguments).dropWhile staysInRun

/-- **What is left over of arguments**: unknown options and what flags leave over, and behind the
first run operands as well. -/
def extras (arguments : List Argument) : List String :=
  (beforeRun arguments).filterMap unknown? ++ (behindRun arguments).filterMap leftOver?

theorem isFlags_eq_false_of_staysInRun {a : Argument} (h : a.staysInRun = true) :
    a.isFlags = false := by
  cases a with
  | operand _ => rfl
  | terminator => rfl
  | flags _ => contradiction
  | unknown _ => contradiction

section Front

-- What is in front of the first operand stands in no run: of that only what is unknown counts.

variable {a : Argument} (h : a.operand? = none) (rest : List Argument)
include h

theorem fromRun_cons : fromRun (a :: rest) = fromRun rest :=
  List.dropWhile_cons_of_pos (Option.isNone_iff_eq_none.mpr h)

theorem modes_cons : modes (a :: rest) = modes rest := by
  rw [modes, fromRun_cons h, modes]

theorem behindRun_cons : behindRun (a :: rest) = behindRun rest := by
  rw [behindRun, fromRun_cons h, behindRun]

theorem extras_cons : extras (a :: rest) = a.unknown?.toList ++ extras rest := by
  have hbefore : beforeRun (a :: rest) = a :: beforeRun rest :=
    List.takeWhile_cons_of_pos (Option.isNone_iff_eq_none.mpr h)
  rw [extras, hbefore, filterMap_cons_eq_append, behindRun_cons h, List.append_assoc, extras]

end Front

end Argument

/-! ### Gathering by position -/

namespace Gathering

section Add

variable (quiet : Bool) (modes extras : List String) {a : Argument}

/-- In front of the first operand, what is unknown is left over. -/
theorem add_before (h : a.operand? = none) :
    add ⟨quiet, [], false, extras⟩ a =
      ⟨quiet || a.isFlags, [], false, extras ++ a.unknown?.toList⟩ := by
  cases a with
  | operand text => contradiction
  | terminator => simp [add, terminator, Argument.isFlags, Argument.unknown?]
  | flags named => simp [add, silence, close, Argument.isFlags]
  | unknown text => simp [add, unknown, close, leave, Argument.isFlags, Argument.unknown?]

/-- In a run, an operand joins the modes. -/
theorem add_open (h : a.staysInRun = true) :
    add ⟨quiet, modes, false, extras⟩ a =
      ⟨quiet, modes ++ a.operand?.toList, false, extras⟩ := by
  cases a with
  | operand text => rfl
  | terminator => simp [add, terminator, Argument.operand?]
  | flags named => contradiction
  | unknown text => contradiction

/-- Behind the first run, operands are left over as well. -/
theorem add_closed (a : Argument) :
    add ⟨quiet, modes, true, extras⟩ a =
      ⟨quiet || a.isFlags, modes, true, extras ++ a.leftOver?.toList⟩ := by
  cases a with
  | operand text => simp [add, operand, leave, Argument.isFlags, Argument.leftOver?]
  | terminator => simp [add, terminator, leave, Argument.isFlags, Argument.leftOver?]
  | flags named => simp [add, silence, close, Argument.isFlags, Argument.leftOver?]
  | unknown text =>
    simp [add, unknown, close, leave, Argument.isFlags, Argument.leftOver?, Argument.unknown?]

/-- What ends a run closes it, once there are modes. -/
theorem add_of_not_staysInRun (hmodes : modes ≠ []) (h : a.staysInRun = false) :
    add ⟨quiet, modes, false, extras⟩ a = add ⟨quiet, modes, true, extras⟩ a := by
  have hclose : close ⟨quiet, modes, false, extras⟩ = close ⟨quiet, modes, true, extras⟩ := by
    simp [close, hmodes]
  cases a with
  | operand text => contradiction
  | terminator => contradiction
  | flags named => rw [add, add, silence, silence, hclose]
  | unknown text => rw [add, add, unknown, unknown, hclose]

end Add

section Fold

variable (quiet : Bool) (modes extras : List String) (arguments : List Argument)

/-- What is gathered behind the first run. -/
theorem foldl_add_closed :
    arguments.foldl add ⟨quiet, modes, true, extras⟩ =
      ⟨quiet || arguments.any Argument.isFlags, modes, true,
        extras ++ arguments.filterMap Argument.leftOver?⟩ := by
  induction arguments generalizing quiet extras with
  | nil => simp
  | cons a rest ih =>
    rw [List.foldl_cons, add_closed, ih, List.any_cons, Bool.or_assoc, filterMap_cons_eq_append,
      List.append_assoc]

/-- What is gathered once the first run has begun. -/
theorem foldl_add_open (hmodes : modes ≠ []) :
    arguments.foldl add ⟨quiet, modes, false, extras⟩ =
      ⟨quiet || arguments.any Argument.isFlags,
        modes ++ (arguments.takeWhile Argument.staysInRun).filterMap Argument.operand?,
        !(arguments.dropWhile Argument.staysInRun).isEmpty,
        extras ++ (arguments.dropWhile Argument.staysInRun).filterMap Argument.leftOver?⟩ := by
  induction arguments generalizing modes with
  | nil => simp
  | cons a rest ih =>
    rcases hstays : a.staysInRun with _ | _
    · rw [List.foldl_cons, add_of_not_staysInRun quiet modes extras hmodes hstays,
        ← List.foldl_cons, foldl_add_closed]
      simp [hstays]
    · have hmodes' : modes ++ a.operand?.toList ≠ [] :=
        List.append_ne_nil_of_left_ne_nil hmodes _
      rw [List.foldl_cons, add_open quiet modes extras hstays, ih _ hmodes', List.any_cons,
        Argument.isFlags_eq_false_of_staysInRun hstays, Bool.false_or,
        List.takeWhile_cons_of_pos hstays, List.dropWhile_cons_of_pos hstays,
        filterMap_cons_eq_append, List.append_assoc]

/-- **What is gathered, by position**: whether anything asks for quiet, the operands of the first
run, whether anything is behind it, and what is left over. -/
theorem foldl_add :
    arguments.foldl add ⟨quiet, [], false, extras⟩ =
      ⟨quiet || arguments.any Argument.isFlags, Argument.modes arguments,
        !(Argument.behindRun arguments).isEmpty, extras ++ Argument.extras arguments⟩ := by
  induction arguments generalizing quiet extras with
  | nil =>
    show _ = (⟨quiet || false, [], false, extras ++ []⟩ : Gathering)
    rw [Bool.or_false, List.append_nil]
    rfl
  | cons a rest ih =>
    rcases h : a.operand? with _ | text
    · rw [List.foldl_cons, add_before quiet extras h, ih, List.any_cons, Bool.or_assoc,
        Argument.modes_cons h, Argument.behindRun_cons h, Argument.extras_cons h,
        List.append_assoc]
    · cases a with
      | operand text => exact foldl_add_open quiet [text] extras rest (List.cons_ne_nil text [])
      | terminator => contradiction
      | flags named => contradiction
      | unknown text => contradiction

end Fold

end Gathering

end FileMode
