import FileMode.Proofs.CanonicalSegment
import FileMode.Proofs.Failure

/-!
# Reading what was rendered

Every mode has a text, and here is what comes of reading that text, for each mode whatsoever
(`Mode.parse_render_outcome`). There are three things that can be lost on the way, and nothing else
is: a number out of range, a clause that says nothing, and the mark of reading, which reading puts
back. **A mixed action makes the text unreadable** at the first permission behind the first such
action.

None of the three is found in a mode that comes of reading (`Mode.readable_of_parse`), so there the
canonical text is as good as the mode: it reads as that mode, marks included
(`Mode.parse_render_of_parse`). And a mode in which none of the three is found comes of reading, of
its canonical text if of no other (`Mode.exists_parse_eq_ok_iff`).
-/

namespace FileMode

/-! ### Numbers -/

namespace Octal

/-- As clauses, the numeral of a number that is not negative fails at its first character. -/
theorem feedAll_render_of_nonneg (width : Nat) {n : Int} (h : 0 ≤ n) :
    ∃ d rest, render width n = d :: rest ∧
      ({} : Scan).feedAll 0 (render width n) = .error ⟨d, 0⟩ := by
  obtain ⟨d, rest, hbody, hd⟩ := exists_body_eq_cons width n
  rw [← render_of_nonneg width h] at hbody
  refine ⟨d, rest, hbody, ?_⟩
  rw [hbody, Scan.feedAll_digit hd]

/-- As clauses, the numeral of a negative number fails behind its minus, which begins an action. -/
theorem feedAll_render_of_neg (width : Nat) {n : Int} (h : n < 0) :
    ∃ d rest, render width n = '-' :: d :: rest ∧
      ({} : Scan).feedAll 0 (render width n) = .error ⟨d, 1⟩ := by
  obtain ⟨d, rest, hbody, hd⟩ := exists_body_eq_cons width n
  have hminus : (Scan.behind [] Segment.empty).feed? '-' =
      some (Scan.behind [] ⟨[], [⟨.remove, .spelled []⟩]⟩) :=
    Scan.feed?_behind_symbol [] Segment.empty .remove
  refine ⟨d, rest, by rw [render_of_neg width h, hbody], ?_⟩
  rw [render_of_neg width h, hbody, Scan.feedAll, ← Scan.behind_empty, hminus]
  show Scan.feedAll _ _ _ = _
  rw [Scan.feedAll, Scan.feed?_behind_digit hd]

end Octal

namespace Mode

theorem parse_render_eq (m : Mode) : parse m.render = ofChars m.chars := by
  rw [parse, render, String.toList_ofList]

/-- A number in range reads back. -/
theorem parse_render_absolute {n : Int} (h : 0 ≤ n) (hle : n ≤ Octal.largest) :
    parse (absolute n).render = .ok (absolute n) := by
  rw [parse_render_eq]
  refine ofChars_eq_absolute_iff.mpr ⟨n.natAbs, ?_, by omega⟩
  rw [chars, Octal.read?_render width h, if_pos hle]

/-- A number that is too large fails at its first digit. -/
theorem parse_render_absolute_of_gt {n : Int} (h : n > Octal.largest) :
    ∃ d, (absolute n).render.toList[0]? = some d ∧ parse (absolute n).render = .error ⟨d, 0⟩ := by
  have hnonneg : 0 ≤ n := by omega
  obtain ⟨d, rest, hrender, hfeed⟩ := Octal.feedAll_render_of_nonneg width hnonneg
  refine ⟨d, ?_, ?_⟩
  · rw [render, String.toList_ofList, chars, hrender]
    rfl
  · rw [parse_render_eq]
    refine ofChars_eq_error_iff.mpr ⟨?_, hfeed⟩
    rw [chars, Octal.read?_render width hnonneg, if_neg (by omega)]

/-- A negative number fails behind its sign. -/
theorem parse_render_absolute_of_neg {n : Int} (h : n < 0) :
    ∃ d, (absolute n).render.toList[1]? = some d ∧ parse (absolute n).render = .error ⟨d, 1⟩ := by
  obtain ⟨d, rest, hrender, hfeed⟩ := Octal.feedAll_render_of_neg width h
  refine ⟨d, ?_, ?_⟩
  · rw [render, String.toList_ofList, chars, hrender]
    rfl
  · rw [parse_render_eq]
    exact ofChars_eq_error_of_ne_zero hfeed Nat.one_ne_zero

/-! ### Clauses -/

/-- Clauses without mixed actions read back, with their marks, and less those that say nothing. -/
theorem parse_render_symbolic {clauses : List Clause}
    (h : ∀ c ∈ clauses, ∀ a ∈ c.actions, ¬ a.Mixed) :
    parse (symbolic clauses).render =
      .ok (symbolic ((clauses.filter fun c => c.SaysSomething).map Clause.marked)) := by
  rw [parse_render_eq]
  -- no clauses have the text of the one empty segment
  rcases clauses with _ | ⟨c, rest⟩
  · exact ofChars_eq_symbolic_iff.mpr ⟨_, derived_nil, rfl⟩
  · have hderived : Derived (symbolic (c :: rest)).chars ((c :: rest).map Clause.segment) :=
      ⟨List.cons_ne_nil _ _, chars_symbolic h⟩
    exact ofChars_eq_symbolic_iff.mpr ⟨_, hderived, (Clause.filterMap_segment h).symm⟩

/-- Marks do not count in what a mode says. -/
theorem marked_equiv (clauses : List Clause) :
    symbolic (clauses.map Clause.marked) ≈ symbolic clauses := by
  rw [equiv_iff, plain, plain, List.map_map]
  exact congrArg symbolic (List.map_congr_left fun c _ => c.plain_marked)

/-- Without the clauses that say nothing a mode says the same only if there are none of them. -/
theorem marked_filter_equiv_iff (clauses : List Clause) :
    symbolic ((clauses.filter fun c => c.SaysSomething).map Clause.marked) ≈ symbolic clauses ↔
      ∀ c ∈ clauses, c.SaysSomething := by
  constructor
  · intro h
    -- the list is as long as before only if nothing was left out of it
    have hlength := length_eq_of_equiv ((marked_equiv _).symm.trans h)
    rw [List.length_filter_eq_length_iff] at hlength
    exact fun c hc => of_decide_eq_true (hlength c hc)
  · intro h
    rw [List.filter_eq_self.mpr fun c hc => decide_eq_true (h c hc)]
    exact marked_equiv clauses

/-- **The first mixed action** of clauses, with the text in front of its permissions: no action of
the clauses before, and none of the earlier actions of its own clause, is mixed. -/
def FirstMixed (clauses : List Clause) (front : List Char) (a : Action) : Prop :=
  ∃ before c after earlier later,
    clauses = before ++ c :: after ∧ c.actions = earlier ++ a :: later ∧
      (∀ b ∈ before, ∀ x ∈ b.actions, ¬ x.Mixed) ∧ (∀ x ∈ earlier, ¬ x.Mixed) ∧ a.Mixed ∧
      front = (before.flatMap fun b => b.chars ++ [',']) ++
        (c.subjects.letters ++ earlier.flatMap Action.chars ++
          a.operator.symbol :: a.copies.letters)

/-- If some action is mixed, one is the first. -/
theorem exists_firstMixed {clauses : List Clause} (h : ∃ c ∈ clauses, ∃ a ∈ c.actions, a.Mixed) :
    ∃ front a, FirstMixed clauses front a := by
  let mixed : Action → Bool := fun a => decide a.Mixed
  let someMixed : Clause → Bool := fun c => decide (∃ a ∈ c.actions, a.Mixed)
  obtain ⟨c₀, hc₀, hsome₀⟩ := h
  -- the first clause with a mixed action, and then the first mixed action of that clause
  have hdecide₀ : someMixed c₀ = true := decide_eq_true hsome₀
  obtain ⟨c, before, after, hbefore, hc, hclauses, -⟩ := List.exists_of_eraseP hc₀ hdecide₀
  obtain ⟨a₀, ha₀, hmixed₀⟩ := of_decide_eq_true hc
  have hdecide : mixed a₀ = true := decide_eq_true hmixed₀
  obtain ⟨a, earlier, later, hearlier, ha, hactions, -⟩ := List.exists_of_eraseP ha₀ hdecide
  refine ⟨_, a, before, c, after, earlier, later, hclauses, hactions, ?_, ?_,
    of_decide_eq_true ha, rfl⟩
  · exact fun b hb x hx hmixed => hbefore b hb (decide_eq_true ⟨x, hx, hmixed⟩)
  · exact fun x hx hmixed => hearlier x hx (decide_eq_true hmixed)

/-- The text of a clause stands behind those of the clauses before it, each with its comma. -/
theorem exists_chars_symbolic_eq (before : List Clause) (c : Clause) (after : List Clause) :
    ∃ back, (symbolic (before ++ c :: after)).chars =
      (before.flatMap fun b => b.chars ++ [',']) ++ (c.chars ++ back) := by
  induction before with
  | nil =>
    rcases after with _ | ⟨d, rest⟩
    · exact ⟨[], by simp [chars]⟩
    · exact ⟨',' :: (symbolic (d :: rest)).chars, chars_symbolic_cons c (List.cons_ne_nil d rest)⟩
  | cons b rest ih =>
    obtain ⟨back, hback⟩ := ih
    refine ⟨back, ?_⟩
    rw [List.cons_append, chars_symbolic_cons b (by simp), hback, List.flatMap_cons]
    simp only [List.append_assoc, List.cons_append, List.nil_append]

namespace FirstMixed

variable {clauses : List Clause} {front : List Char} {a : Action}

/-- Behind the text in front of the first mixed action's permissions stands the first of them. -/
theorem exists_chars_eq (h : FirstMixed clauses front a) :
    ∃ p rest back, a.permissions.toList = p :: rest ∧
      (symbolic clauses).chars = front ++ p.letter :: back := by
  obtain ⟨before, c, after, earlier, later, rfl, hactions, -, -, hmixed, rfl⟩ := h
  obtain ⟨p, rest, hpermissions⟩ :=
    List.exists_cons_of_ne_nil (PermissionSet.toList_ne_nil_iff.mpr hmixed.2)
  obtain ⟨back, hback⟩ := exists_chars_symbolic_eq before c after
  have hletters : a.permissions.letters = p.letter :: rest.map Permission.letter := by
    rw [PermissionSet.letters, hpermissions, List.map_cons]
  refine ⟨p, rest, rest.map Permission.letter ++ later.flatMap Action.chars ++ back,
    hpermissions, ?_⟩
  rw [hback, Clause.chars, hactions, List.flatMap_append, List.flatMap_cons, Action.chars, hletters]
  simp only [List.append_assoc, List.cons_append]

/-- The text in front of the first mixed action's permissions is that of segments, and ends with the
letters that the action copies from. -/
theorem exists_segments (h : FirstMixed clauses front a) :
    ∃ done who phrases first more,
      front =
        Segment.charsOfList (done ++ [⟨who, phrases ++ [⟨a.operator, .copied first more⟩]⟩]) := by
  obtain ⟨before, c, after, earlier, later, -, -, hbefore, hearlier, hmixed, rfl⟩ := h
  obtain ⟨first, more, hcopies⟩ :=
    List.exists_cons_of_ne_nil (SubjectSet.toList_ne_nil_iff.mpr hmixed.1)
  refine ⟨before.map Clause.segment, c.subjects.toList.map Who.one, earlier.map Action.phrase,
    first, more, ?_⟩
  rw [Segment.charsOfList_concat, Clause.flatMap_chars_segment hbefore, Segment.chars,
    List.flatMap_append, Action.flatMap_chars_phrase hearlier, SubjectSet.letters,
    SubjectSet.letters, hcopies]
  simp [Phrase.chars, Operand.chars, Who.letter]

/-- A scan takes the text in front of the first mixed action's permissions and refuses the first of
them. -/
theorem feedAll_chars (h : FirstMixed clauses front a) {p : Permission} {back : List Char}
    (htext : (symbolic clauses).chars = front ++ p.letter :: back) :
    ({} : Scan).feedAll 0 (symbolic clauses).chars = .error ⟨p.letter, front.length⟩ := by
  obtain ⟨done, who, phrases, first, more, hfront⟩ := h.exists_segments
  have htaken := Scan.feedAll_charsOfList [] done
    ⟨who, phrases ++ [⟨a.operator, .copied first more⟩]⟩ 0
  rw [Scan.behind_empty, ← hfront] at htaken
  have hcomma : p.letter ≠ ',' := by
    cases p <;> decide
  -- behind letters to copy from no permission can stand
  have hrefused := Segment.extend?_permissionLetter who phrases a.operator first more p
  exact Scan.feedAll_eq_error_iff.mpr ⟨front, back, _, htext, (Nat.zero_add _).symm, htaken,
    Scan.feed?_behind_eq_none_iff.mpr ⟨hcomma, hrefused⟩⟩

theorem front_ne_nil (h : FirstMixed clauses front a) : front ≠ [] := by
  obtain ⟨before, c, after, earlier, later, -, -, -, -, -, rfl⟩ := h
  simp

/-- **A mixed action cannot be read**: reading fails at the first permission of the first one. -/
theorem parse_eq_error (h : FirstMixed clauses front a) :
    ∃ letter back, a.permissions.letters.head? = some letter ∧
      (symbolic clauses).render.toList = front ++ letter :: back ∧
      parse (symbolic clauses).render = .error ⟨letter, front.length⟩ := by
  obtain ⟨p, rest, back, hpermissions, htext⟩ := h.exists_chars_eq
  have hfeed := h.feedAll_chars htext
  refine ⟨p.letter, back, ?_, ?_, ?_⟩
  · rw [PermissionSet.letters, hpermissions]
    rfl
  · rw [render, String.toList_ofList]
    exact htext
  · rw [parse_render_eq]
    exact ofChars_eq_error_of_ne_zero hfeed (mt List.eq_nil_of_length_eq_zero h.front_ne_nil)

end FirstMixed

/-! ### Any mode -/

/-- **What comes of reading the text of a mode.** A number reads back if it is in range, and fails
at its first digit otherwise. Clauses without mixed actions read back but for those that say
nothing. Any other clauses fail at the first permission of the first mixed action. -/
theorem parse_render_outcome :
    (∀ n : Int,
      (0 ≤ n → n ≤ Octal.largest → parse (absolute n).render = .ok (absolute n)) ∧
      (n > Octal.largest → ∃ d, (absolute n).render.toList[0]? = some d ∧
        parse (absolute n).render = .error ⟨d, 0⟩) ∧
      (n < 0 → ∃ d, (absolute n).render.toList[1]? = some d ∧
        parse (absolute n).render = .error ⟨d, 1⟩)) ∧
    (∀ clauses : List Clause, (∀ c ∈ clauses, ∀ a ∈ c.actions, ¬ a.Mixed) →
      ∃ m, parse (symbolic clauses).render = .ok m ∧
        m ≈ symbolic (clauses.filter fun c => c.SaysSomething) ∧
        (m ≈ symbolic clauses ↔ ∀ c ∈ clauses, c.SaysSomething)) ∧
    ∀ clauses : List Clause, (∃ c ∈ clauses, ∃ a ∈ c.actions, a.Mixed) →
      ∃ front a letter back, FirstMixed clauses front a ∧
        a.permissions.letters.head? = some letter ∧
        (symbolic clauses).render.toList = front ++ letter :: back ∧
        parse (symbolic clauses).render = .error ⟨letter, front.length⟩ := by
  refine ⟨fun n => ⟨parse_render_absolute, parse_render_absolute_of_gt,
    parse_render_absolute_of_neg⟩, fun clauses h => ?_, fun clauses h => ?_⟩
  · exact ⟨_, parse_render_symbolic h, marked_equiv _, marked_filter_equiv_iff clauses⟩
  · obtain ⟨front, a, hfirst⟩ := exists_firstMixed h
    obtain ⟨letter, back, hletter, htext, hparse⟩ := hfirst.parse_eq_error
    exact ⟨front, a, letter, back, hfirst, hletter, htext, hparse⟩

/-- A negative number, a clause that says nothing, and a mixed action behind one that is not. -/
theorem parse_render_outcome_lost :
    ((absolute (-1)).render.toList[1]? = some '0' ∧
      parse (absolute (-1)).render = .error ⟨'0', 1⟩) ∧
    (∃ m, parse (symbolic [{}, { subjects := .everyone }]).render = .ok m ∧
      m ≈ symbolic [{ subjects := .everyone }] ∧
      ¬ m ≈ symbolic [{}, { subjects := .everyone }]) ∧
    ∃ a, FirstMixed [⟨∅, [{}, ⟨.add, .everyone, .ofList [.sticky], false⟩], false⟩]
        ['=', '+', 'u', 'g', 'o'] a ∧
      a.permissions.letters.head? = some 't' ∧
      (symbolic [⟨∅, [{}, ⟨.add, .everyone, .ofList [.sticky], false⟩], false⟩]).render =
        "=+ugot" ∧
      parse (symbolic [⟨∅, [{}, ⟨.add, .everyone, .ofList [.sticky], false⟩], false⟩]).render =
        .error ⟨'t', 5⟩ := by
  obtain ⟨hnumbers, hreadable, hmixed⟩ := parse_render_outcome
  obtain ⟨d, hd, hnegative⟩ := (hnumbers (-1)).2.2 (by decide)
  have hdigit : (absolute (-1)).render.toList[1]? = some '0' := by decide +kernel
  obtain rfl : d = '0' := Option.some.inj (hd.symm.trans hdigit)
  obtain ⟨m, hm, hfilter, hiff⟩ := hreadable [{}, { subjects := .everyone }] (by decide)
  have hempty : ¬ ∀ c ∈ [({} : Clause), { subjects := .everyone }], c.SaysSomething := by decide
  refine ⟨⟨hdigit, hnegative⟩, ⟨m, hm, hfilter, mt hiff.mp hempty⟩, ?_⟩
  obtain ⟨front, a, letter, back, hfirst, hletter, htext, hparse⟩ :=
    hmixed [⟨∅, [{}, ⟨.add, .everyone, .ofList [.sticky], false⟩], false⟩] (by decide)
  have hrender : (symbolic [⟨∅, [{}, ⟨.add, .everyone, .ofList [.sticky], false⟩], false⟩]).render =
      "=+ugot" := by decide +kernel
  have hfails : parse "=+ugot" = .error ⟨'t', 5⟩ := by cbv
  -- where reading fails tells how much of the text is in front
  rw [hrender] at htext hparse
  obtain ⟨rfl, hlength⟩ := Unexpected.mk.inj (Except.error.inj (hparse.symm.trans hfails))
  obtain rfl : front = ['=', '+', 'u', 'g', 'o'] := (List.append_inj htext.symm hlength).1
  exact ⟨a, hfirst, hletter, hrender, hrender ▸ hfails⟩

/-! ### Modes that were read -/

/-- What reading leaves of a mode: a number in range, or clauses that are all readable. -/
def Readable : Mode → Prop
  | absolute n => 0 ≤ n ∧ n ≤ Octal.largest
  | symbolic clauses => ∀ c ∈ clauses, c.Readable

/-- Reading gives readable modes only. -/
theorem readable_of_parse {text : String} {m : Mode} (h : parse text = .ok m) : m.Readable := by
  rcases m with value | clauses
  · obtain ⟨n, hn, rfl⟩ := ofChars_eq_absolute_iff.mp h
    obtain ⟨-, -, -, hle⟩ := Octal.read?_eq_some_iff.mp hn
    exact ⟨by omega, by omega⟩
  · obtain ⟨segments, -, rfl⟩ := ofChars_eq_symbolic_iff.mp h
    intro c hc
    obtain ⟨s, -, hs⟩ := List.mem_filterMap.mp hc
    exact Segment.readable_of_clause? hs

/-- **A readable mode reads back as it is**: it has nothing that rendering would lose. -/
theorem parse_render_of_readable {m : Mode} (h : m.Readable) : parse m.render = .ok m := by
  rcases m with n | clauses
  · exact parse_render_absolute h.1 h.2
  · have hall : ∀ c ∈ clauses, c.Readable := h
    rw [parse_render_symbolic fun c hc a ha => ((hall c hc).actions a ha).2,
      List.filter_eq_self.mpr fun c hc => decide_eq_true (hall c hc).saysSomething,
      List.map_congr_left fun c hc => (hall c hc).marked_eq, List.map_id']

/-- What was read reads back as it is. -/
theorem parse_render_of_ok {text : String} {m : Mode} (h : parse text = .ok m) :
    parse m.render = .ok m :=
  parse_render_of_readable (readable_of_parse h)

/-- **The text of a mode that was read is as good as the mode.** It reads as the mode, marks
included, so rendering again changes nothing; and two modes that were read are equal exactly if
they say the same, and exactly if they have the same text. -/
theorem parse_render_of_parse {text : String} {m : Mode} (h : parse text = .ok m) :
    parse m.render = .ok m ∧ (parse m.render).map render = .ok m.render ∧
      ∀ (other : String) (m' : Mode), parse other = .ok m' →
        (m = m' ↔ m.render = m'.render) ∧ (m ≈ m' ↔ m.render = m'.render) := by
  have hback := parse_render_of_ok h
  refine ⟨hback, by rw [hback]; rfl, fun other m' h' => ?_⟩
  have heq : m.render = m'.render → m = m' := by
    intro hrender
    have hback' := parse_render_of_ok h'
    rw [← hrender, hback] at hback'
    exact Except.ok.inj hback'
  refine ⟨⟨fun hm => hm ▸ rfl, heq⟩, fun hequiv => ?_, fun hrender => heq hrender ▸ rfl⟩
  rw [render, render, ← chars_plain m, ← chars_plain m', equiv_iff.mp hequiv]

/-- Letters out of order and an empty segment, which the canonical text does not keep. -/
theorem parse_render_of_parse_unordered :
    parse "gu=wr,,a-" = .ok (symbolic
      [⟨.ofList [.user, .group], [⟨.set, ∅, .ofList [.read, .write], true⟩], true⟩,
        ⟨.everyone, [⟨.remove, ∅, ∅, true⟩], true⟩]) ∧
    parse (symbolic
      [⟨.ofList [.user, .group], [⟨.set, ∅, .ofList [.read, .write], true⟩], true⟩,
        ⟨.everyone, [⟨.remove, ∅, ∅, true⟩], true⟩]).render = .ok (symbolic
      [⟨.ofList [.user, .group], [⟨.set, ∅, .ofList [.read, .write], true⟩], true⟩,
        ⟨.everyone, [⟨.remove, ∅, ∅, true⟩], true⟩]) := by
  have h : parse "gu=wr,,a-" = .ok (symbolic
      [⟨.ofList [.user, .group], [⟨.set, ∅, .ofList [.read, .write], true⟩], true⟩,
        ⟨.everyone, [⟨.remove, ∅, ∅, true⟩], true⟩]) := by cbv
  exact ⟨h, (parse_render_of_parse h).1⟩

/-- **Which modes come of reading.** A mode is what some text reads as, marks included, exactly if
its number is in range, or else its clauses and actions bear their marks, every clause says
something, and no action is mixed. -/
theorem exists_parse_eq_ok_iff (m : Mode) : (∃ text, parse text = .ok m) ↔ m.Readable :=
  ⟨fun ⟨_, h⟩ => readable_of_parse h, fun h => ⟨m.render, parse_render_of_readable h⟩⟩

end Mode

end FileMode
