import FileMode.Proofs.OpenSegment
import FileMode.Proofs.Placement
import Mathlib.Data.List.TakeWhile

/-!
# Modes that begin with a hyphen

A hyphen is a symbol of the grammar, so a mode can be hyphenated like an option. **Such a mode is
never taken for a flag and never for an operand**: no character that clauses are written with begins
the name of a flag, is a digit or is a space. It is the end of the options, or it is ambiguous, or
else it is an unknown option (`Argument.ofText_of_hyphenated`). So if arguments are all modes and
one of them is hyphenated, they are a mistake, or the first that is hyphenated ends the options and
is not checked itself (`Request.ofArguments_of_hyphenated`).

Texts that are no modes are no concern here; among them are all names of flags.
-/

namespace FileMode

/-! ### The characters of clauses -/

/-- The characters that clauses are written with. -/
def clauseChars : List Char :=
  ['u', 'g', 'o', 'a', 'r', 'w', 'x', 'X', 's', 't', '+', '-', '=', ',']

theorem Segment.mem_clauseChars {s : Segment} {c : Char} (h : c ∈ s.chars) : c ∈ clauseChars := by
  have hsubject (x : Subject) : x.letter ∈ clauseChars := by cases x <;> decide
  have hpermission (p : Permission) : p.letter ∈ clauseChars := by cases p <;> decide
  have hsymbol (o : Operator) : o.symbol ∈ clauseChars := by cases o <;> decide
  rcases List.mem_append.mp h with h | h
  · obtain ⟨w, -, rfl⟩ := List.mem_map.mp h
    rcases w with x | _
    · exact hsubject x
    · decide
  · obtain ⟨⟨o, operand⟩, -, h⟩ := List.mem_flatMap.mp h
    rcases List.mem_cons.mp h with rfl | h
    · exact hsymbol o
    rcases operand with ⟨first, more⟩ | permissions
    · obtain ⟨x, -, rfl⟩ := List.mem_map.mp h
      exact hsubject x
    · obtain ⟨p, -, rfl⟩ := List.mem_map.mp h
      exact hpermission p

/-- In a derived text stand characters of clauses only. -/
theorem Derived.mem_clauseChars {text : List Char} {segments : List Segment}
    (h : Derived text segments) {c : Char} (hc : c ∈ text) : c ∈ clauseChars := by
  obtain ⟨done, last, rfl⟩ := h.exists_eq_concat
  rw [h.2, Segment.charsOfList_concat] at hc
  rcases List.mem_append.mp hc with hc | hc
  · obtain ⟨s, -, hc⟩ := List.mem_flatMap.mp hc
    rcases List.mem_append.mp hc with hc | hc
    · exact s.mem_clauseChars hc
    · rw [List.mem_singleton.mp hc]
      decide
  · exact last.mem_clauseChars hc

/-- A hyphenated mode is written with characters of clauses only, since a numeral begins with a
digit. -/
theorem Mode.mem_clauseChars {text : String} {m : Mode} (h : Argument.Hyphenated text)
    (hm : parse text = .ok m) : ∀ c ∈ text.toList, c ∈ clauseChars := by
  rcases m with n | clauses
  · obtain ⟨c, rest, htext⟩ := h
    obtain ⟨k, hk, -⟩ := ofChars_eq_absolute_iff.mp hm
    obtain ⟨d, digits, hdigits, hd⟩ := Octal.exists_digit_of_read? hk
    obtain ⟨rfl, -⟩ := List.cons.inj (hdigits.symm.trans htext)
    contradiction
  · obtain ⟨segments, hderived, -⟩ := ofChars_eq_symbolic_iff.mp hm
    exact fun c => hderived.mem_clauseChars

/-! ### Neither a flag nor an operand -/

/-- What begins with a character that begins no long name is the beginning of none. -/
theorem Flag.ofWordStart_cons_eq_nil {c : Char} (h : ofWordStart [c] = []) (start : List Char) :
    ofWordStart (c :: start) = [] := by
  refine List.filter_eq_nil_iff.mpr fun flag hflag hstart => ?_
  refine List.filter_eq_nil_iff.mp h flag hflag (List.isPrefixOf_iff_prefix.mpr ?_)
  exact (List.prefix_append [c] start).trans (List.isPrefixOf_iff_prefix.mp hstart)

/-- A character of clauses is no letter of a flag and begins no long name. -/
theorem ofLetter?_of_mem_clauseChars {c : Char} (h : c ∈ clauseChars) :
    Flag.ofLetter? c = none ∧ Flag.ofWordStart [c] = [] := by
  have hall : clauseChars.all (fun d => Flag.ofLetter? d = none ∧ Flag.ofWordStart [d] = []) := by
    decide
  exact of_decide_eq_true (List.all_eq_true.mp hall c h)

/-- A character of clauses is no digit and no point. -/
theorem isDecimalDigit_of_mem_clauseChars {c : Char} (h : c ∈ clauseChars) :
    Text.isDecimalDigit c = false ∧ c ≠ '.' := by
  have hall : clauseChars.all (fun d => Text.isDecimalDigit d = false ∧ d ≠ '.') := by decide
  exact of_decide_eq_true (List.all_eq_true.mp hall c h)

namespace Argument

variable {edition : Edition}

theorem isUnsignedNumber_cons {c : Char} (h : c ∈ clauseChars) (rest : List Char) :
    isUnsignedNumber (c :: rest) = false := by
  obtain ⟨hdigit, hpoint⟩ := isDecimalDigit_of_mem_clauseChars h
  rw [isUnsignedNumber, List.dropWhile_cons_of_neg (by simp [hdigit])]
  split
  · contradiction
  · next heq => exact absurd (List.cons.inj heq).1 hpoint
  · rfl

section Characters

variable {text : String} (hchars : ∀ c ∈ text.toList, c ∈ clauseChars) {c : Char}
  {rest : List Char} (htext : text.toList = '-' :: c :: rest)
include hchars htext

/-- Written with characters of clauses, what names no flag is an unknown option. -/
theorem ofUnnamed_of_mem_clauseChars : ofUnnamed text = .unknown text := by
  have hspace : text.toList.contains ' ' = false := by
    rw [List.contains_eq_mem, decide_eq_false_iff_not]
    exact fun h => absurd (hchars _ h) (by decide)
  have hfeed : (c :: rest).getLast? ≠ some '\n' := by
    intro h
    have hmem : '\n' ∈ text.toList := by
      rw [htext]
      exact List.mem_cons_of_mem _ (List.mem_of_getLast? h)
    exact absurd (hchars _ hmem) (by decide)
  have hc : c ∈ clauseChars := hchars c (by simp [htext])
  have hnumber : isNumberBehindHyphen (text.toList.drop 1) = false := by
    rw [htext]
    show isNumberBehindHyphen (c :: rest) = false
    rw [isNumberBehindHyphen, if_neg hfeed, isUnsignedNumber_cons hc]
  rw [ofUnnamed, hnumber, hspace]
  rfl

/-- Written with characters of clauses, what is hyphenated is the end of the options, or ambiguous,
or an unknown option. -/
theorem ofText_of_mem_clauseChars (hterm : text ≠ terminatorText) (hclear : ¬ Ambiguous text) :
    ofText edition text = .ok (.unknown text) := by
  have hunnamed := ofUnnamed_of_mem_clauseChars hchars htext
  rw [ofText]
  split
  · next name hname =>
    rcases name with _ | ⟨d, value⟩
    · exact absurd (String.toList_inj.mp hname) hterm
    · have hd : d ≠ '=' := by
        rintro rfl
        exact hclear ⟨value, hname⟩
      have hstart := (ofLetter?_of_mem_clauseChars (hchars d (by simp [hname]))).2
      rw [ofLong, List.takeWhile_cons_of_pos (by simpa using hd),
        Flag.ofWordStart_cons_eq_nil hstart, hunnamed]
  · next d more hd hmore =>
    rw [(ofLetter?_of_mem_clauseChars (hchars d (by simp [hmore]))).1, hunnamed]
  · next hlong hshort =>
    by_cases hc : c = '-'
    · exact absurd (hc ▸ htext) (hlong rest)
    · exact absurd htext (hshort c rest)

end Characters

/-- **What a hyphenated mode is taken for**, other than the end of the options: it is ambiguous, or
an unknown option. -/
theorem ofText_of_hyphenated {text : String} (h : Hyphenated text)
    (hm : ∃ m, Mode.parse text = .ok m) (hterm : text ≠ terminatorText) :
    ofText edition text = .error (.ambiguous text Flag.all) ∨
      ofText edition text = .ok (.unknown text) := by
  obtain ⟨m, hm⟩ := hm
  by_cases hambiguous : Ambiguous text
  · exact .inl ((ofText_eq_error_iff hterm).mpr ⟨hambiguous, rfl⟩)
  · obtain ⟨c, rest, htext⟩ := h
    have hchars := Mode.mem_clauseChars ⟨c, rest, htext⟩ hm
    exact .inr (ofText_of_mem_clauseChars hchars htext hterm hambiguous)

/-- Modes settle nothing, however they are taken. -/
theorem verdict?_of_ofText {text : String} {a : Argument} (hm : ∃ m, Mode.parse text = .ok m)
    (hterm : text ≠ terminatorText) (h : ofText edition text = .ok a) : a.verdict? = none := by
  by_cases hhyphen : Hyphenated text
  · rcases ofText_of_hyphenated hhyphen hm hterm with h' | h'
    · rw [h] at h'
      contradiction
    · rw [h] at h'
      cases h'
      rfl
  · rw [ofText_of_not_hyphenated hhyphen] at h
    cases h
    rfl

/-- Among arguments that are all modes none settles the matter. -/
theorem verdict?_of_ofTexts {texts : List String} {arguments : List Argument}
    (hmodes : ∀ text ∈ texts, ∃ m, Mode.parse text = .ok m)
    (h : ofTexts edition texts = .ok arguments) : ∀ a ∈ arguments, a.verdict? = none := by
  induction texts generalizing arguments with
  | nil =>
    cases h
    exact List.forall_mem_nil _
  | cons text rest ih =>
    obtain ⟨hm, hrest⟩ := List.forall_mem_cons.mp hmodes
    by_cases hterm : text = terminatorText
    · rw [ofTexts, if_pos hterm] at h
      cases h
      exact List.forall_mem_cons.mpr ⟨rfl, fun _ => verdict?_of_mem_operands⟩
    · obtain ⟨first, others, hfirst, hothers, rfl⟩ := exists_of_ofTexts_cons hterm h
      exact List.forall_mem_cons.mpr ⟨verdict?_of_ofText hm hterm hfirst, ih hrest hothers⟩

/-- An unknown option is left over, wherever it stands. -/
theorem mem_extras_of_unknown {arguments : List Argument} {text : String}
    (h : .unknown text ∈ arguments) : text ∈ extras arguments := by
  have hsplit : arguments =
      beforeRun arguments ++ ((fromRun arguments).takeWhile staysInRun ++ behindRun arguments) := by
    rw [behindRun, List.takeWhile_append_dropWhile]
    exact List.takeWhile_append_dropWhile.symm
  rw [hsplit, List.mem_append, List.mem_append] at h
  rw [extras, List.mem_append]
  rcases h with h | h | h
  · exact .inl (List.mem_filterMap.mpr ⟨_, h, rfl⟩)
  · exact absurd (List.mem_takeWhile_imp h) Bool.false_ne_true
  · exact .inr (List.mem_filterMap.mpr ⟨_, h, rfl⟩)

end Argument

namespace Request

variable {edition : Edition}

/-- Where nothing settles the matter, an unknown option is a mistake. -/
theorem exists_error_of_unknown {args : List String} {arguments : List Argument} {text : String}
    (harguments : Argument.ofTexts edition args = .ok arguments)
    (hopen : ∀ a ∈ arguments, a.verdict? = none) (h : .unknown text ∈ arguments) :
    ∃ reason, ofArguments edition args = .error reason := by
  have hextras : Argument.extras arguments ≠ [] :=
    List.ne_nil_of_mem (Argument.mem_extras_of_unknown h)
  rw [ofArguments_of_verdict?_eq_none harguments hopen, if_pos hextras]
  split
  · exact ⟨_, rfl⟩
  · exact ⟨_, rfl⟩

section Modes

variable {before after : List String} (hbefore : ∀ text ∈ before, ¬ Argument.Hyphenated text)
include hbefore

/-- The end of the options between operands is left out. -/
theorem ofArguments_terminator_between (hne : before ++ after ≠ []) :
    ofArguments edition (before ++ Argument.terminatorText :: after) =
      .ok (.check false (before ++ after)) := by
  have hafter : Argument.ofTexts edition (Argument.terminatorText :: after) =
      .ok (.terminator :: after.map .operand) := if_pos rfl
  have harguments : Argument.ofTexts edition (before ++ Argument.terminatorText :: after) =
      .ok (before.map .operand ++ .terminator :: after.map .operand) := by
    rw [Argument.ofTexts_operands_append hbefore, hafter]
    rfl
  calc
    ofArguments edition (before ++ Argument.terminatorText :: after)
    _ = ({} : Gathering).gather (before.map .operand ++ .terminator :: after.map .operand) :=
      ofArguments_of_ofTexts harguments
    _ = ({ modes := before } : Gathering).gather (.terminator :: after.map .operand) :=
      Gathering.gather_operands rfl before _
    _ = ({ modes := before } : Gathering).gather (after.map .operand ++ []) := by
      rw [List.append_nil]
      rfl
    _ = ({ modes := before ++ after } : Gathering).request := Gathering.gather_operands rfl after []
    _ = .ok (.check false (before ++ after)) := by
      rw [Gathering.request, if_neg hne]
      rfl

/-- A hyphenated mode that does not end the options is a mistake, behind operands and in front of
any modes. -/
theorem exists_error_of_hyphenated {text : String} (h : Argument.Hyphenated text)
    (hterm : text ≠ Argument.terminatorText)
    (hmodes : ∀ other ∈ before ++ text :: after, ∃ m, Mode.parse other = .ok m) :
    ∃ reason, ofArguments edition (before ++ text :: after) = .error reason := by
  rcases harguments : Argument.ofTexts edition (before ++ text :: after) with reason | arguments
  · rw [ofArguments, harguments]
    exact ⟨reason, rfl⟩
  · refine exists_error_of_unknown harguments (Argument.verdict?_of_ofTexts hmodes harguments)
      (?_ : .unknown text ∈ arguments)
    have hm := hmodes text (by simp)
    rw [Argument.ofTexts_operands_append hbefore] at harguments
    rcases hbehind : Argument.ofTexts edition (text :: after) with reason | behind
    · rw [hbehind] at harguments
      contradiction
    obtain ⟨a, others, ha, -, rfl⟩ := Argument.exists_of_ofTexts_cons hterm hbehind
    rw [hbehind] at harguments
    cases harguments
    rcases Argument.ofText_of_hyphenated h hm hterm with htext | htext
    · rw [htext] at ha
      contradiction
    · rw [htext] at ha
      cases ha
      exact List.mem_append_right _ List.mem_cons_self

end Modes

/-- **Modes among which one is hyphenated** are a mistake, or the first that is hyphenated ends the
options and only the others are checked. -/
theorem ofArguments_of_hyphenated (edition : Edition) {texts : List String}
    (hmodes : ∀ text ∈ texts, ∃ m, Mode.parse text = .ok m)
    (h : ∃ text ∈ texts, Argument.Hyphenated text) :
    (∃ reason, ofArguments edition texts = .error reason) ∨
      ∃ before after, texts = before ++ Argument.terminatorText :: after ∧ before ++ after ≠ [] ∧
        ofArguments edition texts = .ok (.check false (before ++ after)) := by
  obtain ⟨other, hmem, hother⟩ := h
  obtain ⟨text, before, after, hbefore, htext, rfl, -⟩ :=
    List.exists_of_eraseP (p := fun text => decide (Argument.Hyphenated text)) hmem
      (decide_eq_true hother)
  have hoperands : ∀ text ∈ before, ¬ Argument.Hyphenated text :=
    fun text hmem hhyphen => hbefore text hmem (decide_eq_true hhyphen)
  by_cases hterm : text = Argument.terminatorText
  · subst hterm
    by_cases hne : before ++ after = []
    · -- the end of the options alone leaves nothing to check
      obtain ⟨rfl, rfl⟩ := List.append_eq_nil_iff.mp hne
      exact .inl ⟨.missingModes, rfl⟩
    · exact .inr ⟨before, after, rfl, hne, ofArguments_terminator_between hoperands hne⟩
  · exact .inl (exists_error_of_hyphenated hoperands (of_decide_eq_true htext) hterm hmodes)

end Request

/-! ### Runs -/

namespace Outcome

/-- A mode more among those that are checked is a line more on the output. -/
theorem output_ofModes_insert (command : String) {text : String} {m : Mode}
    (h : Mode.parse text = .ok m) (before after : List String) :
    (ofModes command false (before ++ after)).output ≠
      (ofModes command false (before ++ text :: after)).output := by
  have htext : (ofMode command false text).output = text ++ ": " ++ m.describe ++ "\n" := by
    rw [ofMode, h]
    rfl
  rw [ofModes_append, ofModes_append, ofModes, output_append, output_append, output_append, htext]
  intro heq
  have hlength := congrArg String.length (String.append_right_inj _ |>.mp heq)
  simp only [String.length_append] at hlength
  have hcolon : ": ".length = 2 := rfl
  omega

/-- Modes are reported on one by one, and nothing is wrong with them. -/
theorem exists_lines (command : String) {texts : List String}
    (hmodes : ∀ text ∈ texts, ∃ m, Mode.parse text = .ok m) :
    ∃ lines, List.Forall₂ (fun text line => report? text = some line) texts lines ∧
      ofModes command false texts = ofOutput (String.join lines) := by
  induction texts with
  | nil => exact ⟨[], .nil, rfl⟩
  | cons text rest ih =>
    obtain ⟨⟨m, hm⟩, hrest⟩ := List.forall_mem_cons.mp hmodes
    obtain ⟨lines, hlines, houtcome⟩ := ih hrest
    refine ⟨(text ++ ": " ++ m.describe ++ "\n") :: lines, .cons (by rw [report?, hm]) hlines, ?_⟩
    rw [ofModes, houtcome, ofMode, hm, String.join_cons]
    rfl

/-- With a hyphenated mode in it, a run on modes is not the run on operands. -/
theorem ofCall_ne_ofOperands (edition : Edition) (path : String) {texts : List String}
    (hmodes : ∀ text ∈ texts, ∃ m, Mode.parse text = .ok m)
    (h : ∃ text ∈ texts, Argument.Hyphenated text) :
    ofCall path texts edition ≠ ofOperands path texts edition := by
  have hne : texts ≠ [] := by
    obtain ⟨text, htext, -⟩ := h
    exact List.ne_nil_of_mem htext
  rcases Request.ofArguments_of_hyphenated edition hmodes h with
    ⟨reason, hreason⟩ | ⟨before, after, rfl, -, hcheck⟩
  · -- a mistake has another status
    obtain ⟨lines, -, hlines⟩ := exists_lines (Notice.commandName path) hmodes
    rw [ofOperands_eq edition path hne, hlines, ofCall, hreason]
    exact fun heq => absurd (congrArg status heq) (by decide : 2 ≠ 0)
  · -- the line on the end of the options is missing
    obtain ⟨m, hm⟩ := hmodes Argument.terminatorText (by simp)
    rw [ofOperands_eq edition path hne, ofCall, hcheck]
    exact fun heq => output_ofModes_insert _ hm before after (congrArg output heq)

/-- A hyphenated mode by itself is a mistake. -/
theorem ofCall_singleton_of_hyphenated (edition : Edition) (path : String) {text : String}
    {m : Mode} (h : Argument.Hyphenated text) (hm : Mode.parse text = .ok m) :
    (ofCall path [text] edition).status = 2 ∧ (ofCall path [text] edition).output = "" := by
  have hmodes : ∀ other ∈ [text], ∃ m, Mode.parse other = .ok m :=
    List.forall_mem_singleton.mpr ⟨m, hm⟩
  rcases Request.ofArguments_of_hyphenated edition hmodes
      ⟨text, List.mem_singleton_self text, h⟩ with
    ⟨reason, hreason⟩ | ⟨before, after, heq, hne, -⟩
  · rw [ofCall, hreason]
    exact ⟨rfl, rfl⟩
  · rcases List.append_eq_singleton_iff.mp heq.symm with ⟨rfl, hcons⟩ | ⟨-, hcons⟩
    · cases hcons
      exact absurd rfl hne
    · contradiction

/-- **Which modes can be given without the end of the options in front of them.** A run on modes
leaves behind what it does with them as operands, a report on every one and no failure, exactly if
none of them is hyphenated. In particular a hyphenated mode by itself is a mistake, though as an
operand it is reported on. -/
theorem ofCall_eq_ofOperands_iff (edition : Edition) (path : String) {texts : List String}
    (hne : texts ≠ []) (hmodes : ∀ text ∈ texts, ∃ m, Mode.parse text = .ok m) :
    (ofCall path texts edition = ofOperands path texts edition ↔
      ∀ text ∈ texts, ¬ Argument.Hyphenated text) ∧
    (∃ lines, List.Forall₂ (fun text line => report? text = some line) texts lines ∧
      ofOperands path texts edition = ⟨0, String.join lines, ""⟩) ∧
    ∀ text m, Argument.Hyphenated text → Mode.parse text = .ok m →
      (ofCall path [text] edition).status = 2 ∧ (ofCall path [text] edition).output = "" ∧
      ofOperands path [text] edition = ⟨0, text ++ ": " ++ m.describe ++ "\n", ""⟩ := by
  refine ⟨⟨fun heq text htext hhyphen => ?_, fun h => ?_⟩, ?_, fun text m hhyphen hm => ?_⟩
  · exact ofCall_ne_ofOperands edition path hmodes ⟨text, htext, hhyphen⟩ heq
  · rw [ofOperands_eq edition path hne, ofCall, Request.ofArguments_operands edition hne h,
      ofRequest]
  · rw [ofOperands_eq edition path hne]
    exact exists_lines _ hmodes
  · obtain ⟨hstatus, houtput⟩ := ofCall_singleton_of_hyphenated edition path hhyphen hm
    refine ⟨hstatus, houtput, ?_⟩
    rw [ofOperands_eq edition path (List.cons_ne_nil _ _), ofModes, ofModes, append_empty, ofMode,
      hm]
    rfl

/-- A lone hyphen, the end of the options behind a mode, and a mode that is ambiguous. -/
theorem ofCall_eq_ofOperands_iff_lone :
    ["u+x", "-"] ≠ [] ∧ (∀ text ∈ ["u+x", "-"], ∃ m, Mode.parse text = .ok m) ∧
    ofCall "filemode" ["u+x", "-"] .first = ofOperands "filemode" ["u+x", "-"] .first ∧
    ofCall "filemode" ["u+x", "--"] .first ≠ ofOperands "filemode" ["u+x", "--"] .first ∧
    (ofCall "filemode" ["--=r"] .first).status = 2 ∧
    (ofOperands "filemode" ["--=r"] .first).output = "--=r: symbolic --=r\n" := by
  have hx : Mode.parse "u+x" = .ok (.symbolic
      [⟨.ofList [.user], [⟨.add, ∅, .ofList [.execute], true⟩], true⟩]) := by cbv
  have hlone : Mode.parse "-" = .ok (.symbolic [⟨∅, [⟨.remove, ∅, ∅, true⟩], true⟩]) := by cbv
  have hend : Mode.parse "--" =
      .ok (.symbolic [⟨∅, [⟨.remove, ∅, ∅, true⟩, ⟨.remove, ∅, ∅, true⟩], true⟩]) := by cbv
  have hset : Mode.parse "--=r" = .ok (.symbolic [⟨∅, [⟨.remove, ∅, ∅, true⟩,
      ⟨.remove, ∅, ∅, true⟩, ⟨.set, ∅, .ofList [.read], true⟩], true⟩]) := by cbv
  have hne (second : String) : ["u+x", second] ≠ [] := List.cons_ne_nil _ _
  have hmodes : ∀ text ∈ ["u+x", "-"], ∃ m, Mode.parse text = .ok m :=
    List.forall_mem_cons.mpr ⟨⟨_, hx⟩, List.forall_mem_singleton.mpr ⟨_, hlone⟩⟩
  have hmodes' : ∀ text ∈ ["u+x", "--"], ∃ m, Mode.parse text = .ok m :=
    List.forall_mem_cons.mpr ⟨⟨_, hx⟩, List.forall_mem_singleton.mpr ⟨_, hend⟩⟩
  obtain ⟨hsame, -, hsingle⟩ := ofCall_eq_ofOperands_iff .first "filemode" (hne "-") hmodes
  obtain ⟨hother, -, -⟩ := ofCall_eq_ofOperands_iff .first "filemode" (hne "--") hmodes'
  obtain ⟨hstatus, -, hreport⟩ := hsingle "--=r" _ ⟨'-', ['=', 'r'], rfl⟩ hset
  refine ⟨hne "-", hmodes, hsame.mpr ?_, fun heq => ?_, hstatus, (congrArg output hreport).trans ?_⟩
  · simp [Argument.Hyphenated]
  · exact hother.mp heq "--" (by simp) Argument.hyphenated_terminatorText
  · decide +kernel

end Outcome

end FileMode
