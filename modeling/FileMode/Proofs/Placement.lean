import FileMode.Proofs.Operands
import FileMode.Proofs.Requests

/-!
# Where quiet is asked for

Arguments that are not hyphenated are operands (`Argument.ofText_of_not_hyphenated`), and operands
alone are modes to check, with no need for the end of the options in front of them
(`Request.ofArguments_operands`). Quiet may be asked for **in front of all of them or behind all of
them**, any number of times, and it is the same request. Between two of them it ends the first run:
what stands in front are the modes, what stands behind is left over, and that is a mistake
(`Request.ofArguments_quiet_between`).

Nothing is said here about operands that are hyphenated; such are those that look like a negative
number or have a space in them.
-/

namespace FileMode

/-! ### Arguments that are not hyphenated -/

namespace Argument

variable {edition : Edition}

/-- A text is **hyphenated** when it begins with a hyphen and goes on behind it. -/
def Hyphenated (text : String) : Prop := ∃ c rest, text.toList = '-' :: c :: rest

theorem hyphenated_iff {text : String} :
    Hyphenated text ↔ text.toList.head? = some '-' ∧ 2 ≤ text.toList.length := by
  rw [Hyphenated]
  rcases text.toList with _ | ⟨c, _ | ⟨d, rest⟩⟩ <;> simp

instance (text : String) : Decidable (Hyphenated text) := decidable_of_iff' _ hyphenated_iff

theorem hyphenated_terminatorText : Hyphenated terminatorText := ⟨'-', [], rfl⟩

theorem not_hyphenated_of_head? {text : String} (h : text.toList.head? ≠ some '-') :
    ¬ Hyphenated text :=
  fun hhyphen => h (hyphenated_iff.mp hhyphen).1

/-- **What is not hyphenated is an operand.** -/
theorem ofText_of_not_hyphenated {text : String} (h : ¬ Hyphenated text) :
    ofText edition text = .ok (.operand text) := by
  rw [ofText]
  split
  · next name htext => exact absurd ⟨'-', name, htext⟩ h
  · next c rest _ htext => exact absurd ⟨c, rest, htext⟩ h
  · rfl

/-- Arguments that are not hyphenated are operands, and those behind them are what they are. -/
theorem ofTexts_operands_append {texts : List String} (h : ∀ text ∈ texts, ¬ Hyphenated text)
    (rest : List String) :
    ofTexts edition (texts ++ rest) = (ofTexts edition rest).map (texts.map .operand ++ ·) := by
  induction texts with
  | nil => cases hrest : ofTexts edition rest <;> simp [hrest, Except.map]
  | cons text others ih =>
    obtain ⟨htext, hothers⟩ := List.forall_mem_cons.mp h
    have hterm : text ≠ terminatorText := by
      rintro rfl
      exact htext hyphenated_terminatorText
    rw [List.cons_append, ofTexts, if_neg hterm, ofText_of_not_hyphenated htext, ih hothers]
    cases ofTexts edition rest <;> rfl

theorem ofTexts_operands {texts : List String} (h : ∀ text ∈ texts, ¬ Hyphenated text) :
    ofTexts edition texts = .ok (texts.map .operand) := by
  have happend : ofTexts edition (texts ++ []) = _ := ofTexts_operands_append h []
  rw [List.append_nil] at happend
  exact happend.trans (congrArg Except.ok (List.append_nil _))

/-- Operands settle nothing. -/
theorem verdict?_of_mem_operands {texts : List String} {a : Argument}
    (h : a ∈ texts.map operand) : a.verdict? = none := by
  obtain ⟨text, -, rfl⟩ := List.mem_map.mp h
  rfl

/-! ### A run of operands in front -/

section Front

-- Operands in front of an argument that ends their run, and of any others.

variable {texts : List String} (hne : texts ≠ []) {a : Argument} (ha : a.staysInRun = false)
  (rest : List Argument)
include hne

theorem fromRun_operands : fromRun (texts.map .operand ++ a :: rest) =
    texts.map .operand ++ a :: rest := by
  obtain ⟨text, others, rfl⟩ := List.exists_cons_of_ne_nil hne
  rfl

theorem beforeRun_operands : beforeRun (texts.map .operand ++ a :: rest) = [] := by
  obtain ⟨text, others, rfl⟩ := List.exists_cons_of_ne_nil hne
  rfl

include ha

/-- The operands in front are the modes. -/
theorem modes_operands : modes (texts.map .operand ++ a :: rest) = texts := by
  have hstay : ∀ b ∈ texts.map operand, b.staysInRun = true := by simp [staysInRun]
  have hrun : (texts.map operand ++ a :: rest).takeWhile staysInRun = texts.map operand := by
    rw [List.takeWhile_append_of_pos hstay, List.takeWhile_cons_of_neg (by simp [ha]),
      List.append_nil]
  rw [modes, fromRun_operands hne, hrun, List.filterMap_map]
  exact List.filterMap_some

/-- Behind the operands in front, everything but flags is left over. -/
theorem extras_operands :
    extras (texts.map .operand ++ a :: rest) = (a :: rest).filterMap leftOver? := by
  have hstay : ∀ b ∈ texts.map operand, b.staysInRun = true := by simp [staysInRun]
  have hbehind : behindRun (texts.map operand ++ a :: rest) = a :: rest := by
    rw [behindRun, fromRun_operands hne, List.dropWhile_append_of_pos hstay,
      List.dropWhile_cons_of_neg (by simp [ha])]
  rw [extras, beforeRun_operands hne, hbehind]
  rfl

end Front

end Argument

namespace Request

variable (edition : Edition)

/-- **Operands alone are modes to check.** -/
theorem ofArguments_operands {texts : List String} (hne : texts ≠ [])
    (h : ∀ text ∈ texts, ¬ Argument.Hyphenated text) :
    ofArguments edition texts = .ok (.check false texts) := by
  calc
    ofArguments edition texts
    _ = ({} : Gathering).gather (texts.map .operand ++ []) := by
      rw [ofArguments_of_ofTexts (Argument.ofTexts_operands h), List.append_nil]
    _ = ({ modes := texts } : Gathering).request := Gathering.gather_operands rfl texts []
    _ = .ok (.check false texts) := by
      rw [Gathering.request, if_neg hne]
      rfl

/-! ### Quiet in front, behind and between -/

theorem silenced_silenced (request : Request) : request.silenced.silenced = request.silenced := by
  cases request <;> rfl

/-- Asking for quiet again and again in front of everything else is asking once. -/
theorem ofArguments_replicate_quietText (k : Nat) (args : List String) :
    ofArguments edition (List.replicate (k + 1) quietText ++ args) =
      (ofArguments edition args).map silenced := by
  induction k with
  | zero => exact ofArguments_quietText edition args
  | succ k ih =>
    rw [List.replicate_succ, List.cons_append, ofArguments_quietText, ih]
    rcases ofArguments edition args with reason | request
    · rfl
    · exact congrArg Except.ok request.silenced_silenced

theorem ofTexts_replicate_quietText {args : List String} {arguments : List Argument}
    (h : Argument.ofTexts edition args = .ok arguments) (k : Nat) :
    Argument.ofTexts edition (List.replicate k quietText ++ args) =
      .ok (List.replicate k .quiet ++ arguments) := by
  induction k with
  | zero => exact h
  | succ k ih =>
    rw [List.replicate_succ, List.cons_append, ofTexts_quietText ih]
    rfl

/-- **Quiet behind operands ends their run**: they are the modes, and further operands behind it are
left over. -/
theorem ofArguments_quiet_between {texts more : List String} (hne : texts ≠ [])
    (h : ∀ text ∈ texts, ¬ Argument.Hyphenated text)
    (hmore : ∀ text ∈ more, ¬ Argument.Hyphenated text) (k : Nat) :
    ofArguments edition (texts ++ (List.replicate (k + 1) quietText ++ more)) =
      if more = [] then .ok (.check true texts) else .error (.unrecognized more) := by
  have harguments : Argument.ofTexts edition (texts ++ (List.replicate (k + 1) quietText ++ more)) =
      .ok (texts.map .operand ++ .quiet :: (List.replicate k .quiet ++ more.map .operand)) := by
    rw [Argument.ofTexts_operands_append h,
      ofTexts_replicate_quietText edition (Argument.ofTexts_operands hmore)]
    rfl
  have hquiet : ∀ a ∈ List.replicate k Argument.quiet, a.verdict? = none := by
    intro a ha
    rw [List.eq_of_mem_replicate ha]
    rfl
  have hopen : ∀ a ∈ texts.map .operand ++ .quiet :: (List.replicate k .quiet ++ more.map .operand),
      Argument.verdict? a = none :=
    List.forall_mem_append.mpr ⟨fun _ => Argument.verdict?_of_mem_operands,
      List.forall_mem_cons.mpr ⟨rfl,
        List.forall_mem_append.mpr ⟨hquiet, fun _ => Argument.verdict?_of_mem_operands⟩⟩⟩
  have hmodes := Argument.modes_operands hne (a := .quiet) rfl
    (List.replicate k .quiet ++ more.map .operand)
  have hextras : Argument.extras
      (texts.map .operand ++ .quiet :: (List.replicate k .quiet ++ more.map .operand)) = more := by
    rw [Argument.extras_operands hne rfl, List.filterMap_cons_none rfl, List.filterMap_append,
      List.filterMap_replicate_of_none rfl, List.filterMap_map, List.nil_append]
    exact List.filterMap_some
  rw [ofArguments_of_verdict?_eq_none harguments hopen, hmodes, hextras, if_neg hne]
  by_cases hnil : more = []
  · rw [if_neg (not_not_intro hnil), if_pos hnil]
    simp [Argument.isFlags, Argument.quiet]
  · rw [if_pos hnil, if_neg hnil]

end Request

/-! ### Runs -/

namespace Outcome

/-- Arguments that are left over are a mistake, and named as one. -/
theorem ofRequest_unrecognized (command : String) (texts : List String) :
    ofRequest command (.error (.unrecognized texts)) =
      ⟨2, "", Notice.usage command ++ (command ++ ": error: unrecognized arguments: " ++
        String.intercalate " " texts ++ "\n")⟩ := by
  have hwords :
      ": error: unrecognized arguments: " = ": error: " ++ "unrecognized arguments: " := rfl
  have hassoc (usage joined : String) :
      usage ++ command ++ ": error: " ++ ("unrecognized arguments: " ++ joined) ++ "\n" =
        usage ++ (command ++ ": error: unrecognized arguments: " ++ joined ++ "\n") := by
    rw [hwords]
    simp only [String.append_assoc]
  exact congrArg (Outcome.mk 2 "") (hassoc _ _)

/-- **Where quiet may be asked for.** In front of operands and behind them, any number of times, it
is the same request, to check all of them quietly, and so the same outcome. Between operands it is a
mistake: no mode is checked, nothing is written to the output, and the errors name the operands
behind it as left over. -/
theorem ofCall_quiet_placed (edition : Edition) (path : String) {texts : List String}
    (hne : texts ≠ []) (h : ∀ text ∈ texts, text.toList.head? ≠ some '-') {k : Nat} (hk : 1 ≤ k) :
    Request.ofArguments edition (List.replicate k "-q" ++ texts) = .ok (.check true texts) ∧
    ofCall path (List.replicate k "-q" ++ texts) edition =
      ofCall path (texts ++ List.replicate k "-q") edition ∧
    ∀ before after, texts = before ++ after → before ≠ [] → after ≠ [] →
      Request.ofArguments edition (before ++ List.replicate k "-q" ++ after) =
        .error (.unrecognized after) ∧
      ofCall path (before ++ List.replicate k "-q" ++ after) edition =
        ⟨2, "", Notice.usage (Notice.commandName path) ++
          (Notice.commandName path ++ ": error: unrecognized arguments: " ++
            String.intercalate " " after ++ "\n")⟩ := by
  obtain ⟨k, rfl⟩ := Nat.exists_eq_add_of_le' hk
  have hoperands : ∀ text ∈ texts, ¬ Argument.Hyphenated text :=
    fun text htext => Argument.not_hyphenated_of_head? (h text htext)
  have hfront : Request.ofArguments edition (List.replicate (k + 1) "-q" ++ texts) =
      .ok (.check true texts) := by
    rw [← Request.quietText, Request.ofArguments_replicate_quietText edition,
      Request.ofArguments_operands edition hne hoperands]
    rfl
  have hbehind : Request.ofArguments edition (texts ++ List.replicate (k + 1) "-q") =
      .ok (.check true texts) := by
    have hbetween :=
      Request.ofArguments_quiet_between edition hne hoperands (List.forall_mem_nil _) k
    rwa [List.append_nil, if_pos rfl] at hbetween
  have hsame : ofCall path (List.replicate (k + 1) "-q" ++ texts) edition =
      ofCall path (texts ++ List.replicate (k + 1) "-q") edition := by
    rw [ofCall, ofCall, hfront, hbehind]
  refine ⟨hfront, hsame, ?_⟩
  rintro before after rfl hbefore hafter
  obtain ⟨hoperands₁, hoperands₂⟩ := List.forall_mem_append.mp hoperands
  have hbetween : Request.ofArguments edition (before ++ List.replicate (k + 1) "-q" ++ after) =
      .error (.unrecognized after) := by
    have hright := Request.ofArguments_quiet_between edition hbefore hoperands₁ hoperands₂ k
    rwa [← List.append_assoc, if_neg hafter] at hright
  refine ⟨hbetween, ?_⟩
  rw [ofCall, hbetween]
  exact ofRequest_unrecognized (Notice.commandName path) after

/-- Quiet asked for twice: in front of two operands of which one is no mode, and between them. -/
theorem ofCall_quiet_placed_twice :
    ["755", "79"] ≠ [] ∧ (∀ text ∈ ["755", "79"], text.toList.head? ≠ some '-') ∧ 1 ≤ 2 ∧
    ofCall "filemode" ["-q", "-q", "755", "79"] .first =
      ofCall "filemode" ["755", "79", "-q", "-q"] .first ∧
    ofCall "filemode" ["755", "-q", "-q", "79"] .first =
      ⟨2, "", "usage: filemode [-q] mode ...\n" ++
        "filemode: error: unrecognized arguments: 79\n"⟩ := by
  have hne : ["755", "79"] ≠ [] := List.cons_ne_nil _ _
  have hplain : ∀ text ∈ ["755", "79"], text.toList.head? ≠ some '-' := by decide
  have htwice : 1 ≤ 2 := by decide
  obtain ⟨-, hsame, hbetween⟩ := ofCall_quiet_placed .first "filemode" hne hplain htwice
  refine ⟨hne, hplain, htwice, hsame, ?_⟩
  refine (hbetween ["755"] ["79"] rfl (List.cons_ne_nil _ _) (List.cons_ne_nil _ _)).2.trans ?_
  decide +kernel

end Outcome

end FileMode
