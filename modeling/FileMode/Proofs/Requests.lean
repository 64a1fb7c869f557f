import FileMode.Proofs.Gathering

/-!
# What arguments ask for

How the arguments of a command come to a request, or to a mistake, told by where they stand and
not by acting upon them (`Request.Arises`). There are three phases. First, every argument in front
of the end of the options is classified; **the only ambiguous ones are two hyphens with an equals
sign right behind them**, since no two long names begin alike (`Argument.ofText_eq_error_iff`).
Next, the first argument that settles the matter does so, be it a mistake or a request for help. If
there is none, the first unbroken run of operands are the modes and what stands elsewhere is left
over; only now can modes be missing or arguments be too many.

That the three phases are all there is to it is `Request.ofArguments_eq_iff`. Asking for quiet in
front of everything else has no part in any of them (`Request.ofArguments_quietText`).

The editions ask for the same unless a letter of a flag stands in front of something that is none
(`Request.ofArguments_eq_of_spelledOut`).
-/

namespace FileMode

/-! ### Classifying -/

namespace Flag

/-- No two long names begin alike. -/
theorem eq_of_head?_word {flag other : Flag}
    (h : flag.word.toList.head? = other.word.toList.head?) : flag = other := by
  revert h
  cases flag <;> cases other <;> decide

/-- What begins with a character begins the long name of one option at most. -/
theorem exists_ofWordStart_cons (c : Char) (start : List Char) :
    ∃ flag? : Option Flag, ofWordStart (c :: start) = flag?.toList := by
  have hhead {flag : Flag} (h : flag ∈ ofWordStart (c :: start)) :
      flag.word.toList.head? = some c := by
    obtain ⟨rest, hrest⟩ := List.isPrefixOf_iff_prefix.mp (List.mem_filter.mp h).2
    rw [← hrest]
    rfl
  have hnodup : (ofWordStart (c :: start)).Nodup := by
    have hall : all.Nodup := by decide
    exact hall.filter _
  rcases hflags : ofWordStart (c :: start) with _ | ⟨flag, _ | ⟨other, rest⟩⟩
  · exact ⟨none, rfl⟩
  · exact ⟨some flag, rfl⟩
  · rw [hflags] at hhead hnodup
    have hsame : flag = other := eq_of_head?_word
      ((hhead List.mem_cons_self).trans (hhead (List.mem_cons_of_mem _ List.mem_cons_self)).symm)
    exact absurd hsame (List.ne_of_not_mem_cons (List.nodup_cons.mp hnodup).1)

end Flag

namespace Argument

variable {edition : Edition}

/-- An argument **is ambiguous** when it gives a value to a long name of which nothing is left. -/
def Ambiguous (text : String) : Prop := ∃ value, text.toList = '-' :: '-' :: '=' :: value

theorem not_ambiguous_terminatorText : ¬ Ambiguous terminatorText := by
  rintro ⟨value, h⟩
  have hlength := congrArg List.length h
  simp [terminatorText] at hlength

/-- A long name is ambiguous exactly if nothing is left of it. -/
theorem ofLong_eq_error_iff {text : String} {name : List Char} {reason : UsageError} :
    ofLong text name = .error reason ↔
      name.takeWhile (· ≠ '=') = [] ∧ reason = .ambiguous text Flag.all := by
  rw [ofLong]
  rcases htake : name.takeWhile (· ≠ '=') with _ | ⟨c, start⟩
  · show Except.error (UsageError.ambiguous text Flag.all) = _ ↔ _
    simp [eq_comm]
  · obtain ⟨flag?, hflag⟩ := Flag.exists_ofWordStart_cons c start
    rw [hflag]
    cases flag? <;> simp

/-- **Which arguments are refused at once**: only the ambiguous ones, with all options. -/
theorem ofText_eq_error_iff {text : String} (h : text ≠ terminatorText) {reason : UsageError} :
    ofText edition text = .error reason ↔
      Ambiguous text ∧ reason = .ambiguous text Flag.all := by
  rw [ofText]
  split
  · next name htext =>
    rw [ofLong_eq_error_iff]
    refine and_congr_left fun _ => ?_
    rcases name with _ | ⟨c, value⟩
    · exact absurd (String.toList_inj.mp htext) h
    · by_cases hc : c = '=' <;> simp [Ambiguous, htext, hc]
  · next c rest hc htext =>
    have hnot : ¬ Ambiguous text := by
      rintro ⟨value, hvalue⟩
      rw [htext] at hvalue
      cases hvalue
      exact hc rfl
    split <;> simp [hnot]
  · next hlong hshort =>
    have hnot : ¬ Ambiguous text := fun ⟨value, hvalue⟩ => hlong _ hvalue
    simp [hnot]

/-- Arguments are refused at once if the first one is ambiguous, or else if the others are. -/
theorem ofTexts_cons_eq_error_iff {first : String} {rest : List String} {reason : UsageError}
    (hterm : first ≠ terminatorText) :
    ofTexts edition (first :: rest) = .error reason ↔
      (Ambiguous first ∧ reason = .ambiguous first Flag.all) ∨
        (¬ Ambiguous first ∧ ofTexts edition rest = .error reason) := by
  have hfirst_iff (e : UsageError) : ofText edition first = .error e ↔
      Ambiguous first ∧ e = .ambiguous first Flag.all := ofText_eq_error_iff hterm
  rw [ofTexts, if_neg hterm]
  rcases hfirst : ofText edition first with e | a
  · obtain ⟨hambiguous, rfl⟩ := (hfirst_iff e).mp hfirst
    show Except.error (UsageError.ambiguous first Flag.all) = _ ↔ _
    simp [hambiguous, eq_comm]
  · have hclear : ¬ Ambiguous first := fun hambiguous => by
      rw [(hfirst_iff _).mpr ⟨hambiguous, rfl⟩] at hfirst
      contradiction
    rw [or_iff_right fun h => hclear h.1, and_iff_right hclear]
    rcases ofTexts edition rest with e | others
    · exact Iff.rfl
    · exact iff_of_false nofun nofun

/-- Arguments that are not refused are each what they are. -/
theorem exists_of_ofTexts_cons {first : String} {rest : List String} {arguments : List Argument}
    (hterm : first ≠ terminatorText) (h : ofTexts edition (first :: rest) = .ok arguments) :
    ∃ a others, ofText edition first = .ok a ∧ ofTexts edition rest = .ok others ∧
      arguments = a :: others := by
  rw [ofTexts, if_neg hterm] at h
  rcases hfirst : ofText edition first with reason | a
  · rw [hfirst] at h
    contradiction
  rcases hothers : ofTexts edition rest with reason | others
  · rw [hfirst, hothers] at h
    contradiction
  · rw [hfirst, hothers] at h
    cases h
    exact ⟨a, others, rfl, rfl, rfl⟩

/-- **Arguments are refused at once** exactly if one of them is ambiguous, and it is the first such
one that counts; behind the end of the options none is. -/
theorem ofTexts_eq_error_iff {args : List String} {reason : UsageError} :
    ofTexts edition args = .error reason ↔
      ∃ before text after, args = before ++ text :: after ∧
        (∀ other ∈ before, other ≠ terminatorText ∧ ¬ Ambiguous other) ∧
        Ambiguous text ∧ reason = .ambiguous text Flag.all := by
  constructor
  · intro h
    induction args with
    | nil => contradiction
    | cons first rest ih =>
      by_cases hterm : first = terminatorText
      · rw [ofTexts, if_pos hterm] at h
        contradiction
      rcases (ofTexts_cons_eq_error_iff hterm).mp h with ⟨hambiguous, hreason⟩ | ⟨hclear, hrest⟩
      · exact ⟨[], first, rest, rfl, nofun, hambiguous, hreason⟩
      · obtain ⟨before, text, after, rfl, hbefore, htext⟩ := ih hrest
        exact ⟨first :: before, text, after, rfl,
          List.forall_mem_cons.mpr ⟨⟨hterm, hclear⟩, hbefore⟩, htext⟩
  · rintro ⟨before, text, after, rfl, hbefore, hambiguous, rfl⟩
    induction before with
    | nil =>
      have hterm : text ≠ terminatorText := by
        rintro rfl
        exact not_ambiguous_terminatorText hambiguous
      exact (ofTexts_cons_eq_error_iff hterm).mpr (.inl ⟨hambiguous, rfl⟩)
    | cons first rest ih =>
      obtain ⟨⟨hterm, hclear⟩, hrest⟩ := List.forall_mem_cons.mp hbefore
      exact (ofTexts_cons_eq_error_iff hterm).mpr (.inr ⟨hclear, ih hrest⟩)

/-! ### Editions -/

/-- A text **is spelled out** when behind a letter of a flag stand letters of flags only. -/
def SpelledOut (text : String) : Prop :=
  ∀ c rest, text.toList = '-' :: c :: rest → Flag.ofLetter? c ≠ none →
    ∀ d ∈ rest, Flag.ofLetter? d ≠ none

theorem cluster_eq_of_letters (flag : Flag) {rest : List Char}
    (h : ∀ d ∈ rest, Flag.ofLetter? d ≠ none) :
    cluster .first flag rest = cluster .second flag rest := by
  induction rest generalizing flag with
  | nil => rfl
  | cons d rest ih =>
    obtain ⟨hd, hrest⟩ := List.forall_mem_cons.mp h
    obtain ⟨next, hnext⟩ := Option.ne_none_iff_exists'.mp hd
    rw [cluster, cluster, hnext]
    exact congrArg (Except.map (NamedFlags.cons flag)) (ih next hrest)

/-- An equals sign is no letter of a flag, so it is not skipped where there are letters only. -/
theorem shortFlags_eq_of_letters (flag : Flag) {rest : List Char}
    (h : ∀ d ∈ rest, Flag.ofLetter? d ≠ none) :
    shortFlags .first flag rest = shortFlags .second flag rest := by
  have hequals : '=' ∉ rest := fun hmem => h '=' hmem rfl
  have hfirst : shortFlags .first flag rest = cluster .first flag rest := by
    rw [shortFlags]
    · rintro - rfl
      exact hequals List.mem_cons_self
    · rintro value - rfl
      exact hequals List.mem_cons_self
  rw [hfirst, cluster_eq_of_letters flag h]
  rfl

/-- **What is spelled out is the same argument in both editions.** -/
theorem ofText_eq_of_spelledOut {text : String} (h : SpelledOut text) :
    ofText .first text = ofText .second text := by
  rw [ofText, ofText]
  split
  · rfl
  · next c rest _ htext =>
    rcases hc : Flag.ofLetter? c with _ | flag
    · rfl
    · have hletters := h c rest htext (by rw [hc]; nofun)
      exact congrArg (fun named => Except.ok (flags named)) (shortFlags_eq_of_letters flag hletters)
  · rfl

theorem ofTexts_eq_of_spelledOut {texts : List String} (h : ∀ text ∈ texts, SpelledOut text) :
    ofTexts .first texts = ofTexts .second texts := by
  induction texts with
  | nil => rfl
  | cons text rest ih =>
    obtain ⟨htext, hrest⟩ := List.forall_mem_cons.mp h
    rw [ofTexts, ofTexts, ofText_eq_of_spelledOut htext, ih hrest]

/-- The argument that asks for quiet. -/
def quiet : Argument := flags (.ok { flags := [.quiet] })

end Argument

/-! ### The three phases -/

namespace Request

/-- **What arises from arguments**, phase by phase: a request, or a mistake. -/
inductive Arises (edition : Edition) (args : List String) : Except UsageError Request → Prop where
  /-- An argument in front of the end of the options is ambiguous; the first one counts. -/
  | ambiguous {before after : List String} {text : String} (hargs : args = before ++ text :: after)
      (hbefore : ∀ other ∈ before,
        other ≠ Argument.terminatorText ∧ ¬ Argument.Ambiguous other)
      (htext : Argument.Ambiguous text) :
      Arises edition args (.error (.ambiguous text Flag.all))
  /-- An argument settles the matter, whatever stands behind it; the first one does. -/
  | settled {before after : List Argument} {a : Argument} {verdict : Except UsageError Request}
      (harguments : Argument.ofTexts edition args = .ok (before ++ a :: after))
      (hbefore : ∀ b ∈ before, b.verdict? = none) (ha : a.verdict? = some verdict) :
      Arises edition args verdict
  /-- Nothing settles the matter, and there are no modes. -/
  | missing {arguments : List Argument} (harguments : Argument.ofTexts edition args = .ok arguments)
      (hopen : ∀ a ∈ arguments, a.verdict? = none) (hmodes : Argument.modes arguments = []) :
      Arises edition args (.error .missingModes)
  /-- Nothing settles the matter, and something besides modes is left over. -/
  | leftOver {arguments : List Argument}
      (harguments : Argument.ofTexts edition args = .ok arguments)
      (hopen : ∀ a ∈ arguments, a.verdict? = none) (hmodes : Argument.modes arguments ≠ [])
      (hextras : Argument.extras arguments ≠ []) :
      Arises edition args (.error (.unrecognized (Argument.extras arguments)))
  /-- Nothing settles the matter, and there are modes and nothing else. -/
  | check {arguments : List Argument} (harguments : Argument.ofTexts edition args = .ok arguments)
      (hopen : ∀ a ∈ arguments, a.verdict? = none) (hmodes : Argument.modes arguments ≠ [])
      (hextras : Argument.extras arguments = []) :
      Arises edition args (.ok (.check (arguments.any Argument.isFlags) (Argument.modes arguments)))

variable {edition : Edition} {args : List String} {arguments : List Argument}

/-- Behind the classification, arguments are gathered. -/
theorem ofArguments_of_ofTexts (h : Argument.ofTexts edition args = .ok arguments) :
    ofArguments edition args = ({} : Gathering).gather arguments := by
  rw [ofArguments, h]
  rfl

/-- If no argument settles the matter, the positions do. -/
theorem ofArguments_of_verdict?_eq_none (h : Argument.ofTexts edition args = .ok arguments)
    (hopen : ∀ a ∈ arguments, a.verdict? = none) :
    ofArguments edition args =
      if Argument.modes arguments = [] then .error .missingModes
      else if Argument.extras arguments ≠ [] then .error (.unrecognized (Argument.extras arguments))
      else .ok (.check (arguments.any Argument.isFlags) (Argument.modes arguments)) := by
  rw [ofArguments_of_ofTexts h, Gathering.gather_eq, List.findSome?_eq_none_iff.mpr hopen,
    Option.getD_none, Gathering.foldl_add]
  rfl

/-- What arises from arguments is what they ask for. -/
theorem Arises.ofArguments_eq {result : Except UsageError Request}
    (h : Arises edition args result) : ofArguments edition args = result := by
  cases h with
  | ambiguous hargs hbefore htext =>
    have herror : Argument.ofTexts edition args = .error _ :=
      Argument.ofTexts_eq_error_iff.mpr ⟨_, _, _, hargs, hbefore, htext, rfl⟩
    rw [ofArguments, herror]
    rfl
  | settled harguments hbefore ha =>
    rw [ofArguments_of_ofTexts harguments, Gathering.gather_eq,
      List.findSome?_eq_some_iff.mpr ⟨_, _, _, rfl, ha, hbefore⟩, Option.getD_some]
  | missing harguments hopen hmodes =>
    rw [ofArguments_of_verdict?_eq_none harguments hopen, if_pos hmodes]
  | leftOver harguments hopen hmodes hextras =>
    rw [ofArguments_of_verdict?_eq_none harguments hopen, if_neg hmodes, if_pos hextras]
  | check harguments hopen hmodes hextras =>
    rw [ofArguments_of_verdict?_eq_none harguments hopen, if_neg hmodes,
      if_neg (not_not_intro hextras)]

/-- Something arises from any arguments, and it is what they ask for. -/
theorem arises_ofArguments (edition : Edition) (args : List String) :
    Arises edition args (ofArguments edition args) := by
  rcases harguments : Argument.ofTexts edition args with reason | arguments
  · obtain ⟨before, text, after, hargs, hbefore, htext, rfl⟩ :=
      Argument.ofTexts_eq_error_iff.mp harguments
    have harises : Arises edition args _ := .ambiguous hargs hbefore htext
    rwa [harises.ofArguments_eq]
  rcases hverdict : arguments.findSome? Argument.verdict? with _ | verdict
  · have hopen := List.findSome?_eq_none_iff.mp hverdict
    rw [ofArguments_of_verdict?_eq_none harguments hopen]
    split
    · next hmodes => exact .missing harguments hopen hmodes
    · next hmodes =>
      split
      · next hextras => exact .leftOver harguments hopen hmodes hextras
      · next hextras => exact .check harguments hopen hmodes (Decidable.not_not.mp hextras)
  · obtain ⟨before, a, after, rfl, ha, hbefore⟩ := List.findSome?_eq_some_iff.mp hverdict
    have harises := Arises.settled harguments hbefore ha
    rwa [harises.ofArguments_eq]

/-- **Arguments ask for what arises from them**, phase by phase, and for nothing else. -/
theorem ofArguments_eq_iff {result : Except UsageError Request} :
    ofArguments edition args = result ↔ Arises edition args result :=
  ⟨fun h => h ▸ arises_ofArguments edition args, Arises.ofArguments_eq⟩

/-- **The editions ask for the same** where all letters of flags are spelled out. -/
theorem ofArguments_eq_of_spelledOut (h : ∀ text ∈ args, Argument.SpelledOut text) :
    ofArguments .first args = ofArguments .second args := by
  rw [ofArguments, ofArguments, Argument.ofTexts_eq_of_spelledOut h]

/-! ### Asking for quiet -/

/-- The request to report only what is wrong; help and version are what they are. -/
def silenced : Request → Request
  | check _ modes => check true modes
  | other => other

/-- What settles the matter is not a request to check anything. -/
theorem map_silenced_of_verdict? {a : Argument} {verdict : Except UsageError Request}
    (h : a.verdict? = some verdict) : verdict.map silenced = verdict := by
  cases a with
  | operand text => contradiction
  | terminator => contradiction
  | unknown text => contradiction
  | flags named =>
    rcases named with mistake | named
    · cases h
      rfl
    · obtain ⟨request, hrequest, rfl⟩ := Option.map_eq_some_iff.mp h
      obtain ⟨flag, -, hflag⟩ := List.exists_of_findSome?_eq_some hrequest
      cases flag <;> cases hflag <;> rfl

/-- The text that asks for quiet. -/
def quietText : String := "-q"

theorem ofTexts_quietText (h : Argument.ofTexts edition args = .ok arguments) :
    Argument.ofTexts edition (quietText :: args) = .ok (.quiet :: arguments) := by
  have hterm : quietText ≠ Argument.terminatorText := by decide
  have hquiet : Argument.ofText edition quietText = .ok .quiet := by cases edition <;> rfl
  rw [Argument.ofTexts, if_neg hterm, hquiet, h]
  rfl

/-- With quiet asked for in front, what arises is the same, but silenced: **quiet takes no part in
any of the phases**. -/
theorem Arises.cons_quietText {result : Except UsageError Request}
    (h : Arises edition args result) :
    Arises edition (quietText :: args) (result.map silenced) := by
  have hquiet : Argument.quiet.verdict? = none := rfl
  cases h with
  | ambiguous hargs hbefore htext =>
    have hclear : quietText ≠ Argument.terminatorText ∧
        ¬ Argument.Ambiguous quietText := by
      refine ⟨by decide, fun ⟨value, hvalue⟩ => ?_⟩
      have htext : quietText.toList = ['-', 'q'] := by decide
      simp [htext] at hvalue
    exact .ambiguous (congrArg (quietText :: ·) hargs)
      (List.forall_mem_cons.mpr ⟨hclear, hbefore⟩) htext
  | settled harguments hbefore ha =>
    rw [map_silenced_of_verdict? ha]
    exact .settled (ofTexts_quietText harguments) (List.forall_mem_cons.mpr ⟨hquiet, hbefore⟩) ha
  | missing harguments hopen hmodes =>
    exact .missing (ofTexts_quietText harguments) (List.forall_mem_cons.mpr ⟨hquiet, hopen⟩) hmodes
  | @leftOver arguments harguments hopen hmodes hextras =>
    -- Quiet is no mode and leaves nothing over, so both are what they were.
    show Arises edition (quietText :: args)
      (.error (.unrecognized (Argument.extras (.quiet :: arguments))))
    exact .leftOver (ofTexts_quietText harguments) (List.forall_mem_cons.mpr ⟨hquiet, hopen⟩)
      hmodes hextras
  | check harguments hopen hmodes hextras =>
    exact .check (ofTexts_quietText harguments) (List.forall_mem_cons.mpr ⟨hquiet, hopen⟩)
      hmodes hextras

/-- **Asking for quiet in front of everything else** silences the request, and leaves a mistake as
it is. -/
theorem ofArguments_quietText (edition : Edition) (args : List String) :
    ofArguments edition (quietText :: args) = (ofArguments edition args).map silenced :=
  (arises_ofArguments edition args).cons_quietText.ofArguments_eq

end Request

end FileMode
