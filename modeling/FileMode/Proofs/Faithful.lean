import FileMode.Proofs.CanonicalSegment
import FileMode.Proofs.Meaning

/-!
# Modes with the same text

The text of a mode has no brackets and no lengths in it, and the letters `u`, `g` and `o` stand both
for subjects addressed and for subjects copied from. All the same **it tells what the mode says**,
also for modes that no text reads as: the runs of a text can be told apart by the kinds of their
characters, since each run is followed by a character of another kind (`append_inj_of_run`).

There is one exception. No clauses at all have the same text as one clause that says nothing, which
is no characters (`Mode.chars_eq_nil_iff`). Two such clauses have a comma between them.

Nothing is claimed about marks, which do not show in a text.
-/

namespace FileMode

/-! ### Runs -/

section Runs

variable {p : Char → Bool} {first first' second second' : List Char}

/-- A run of characters of a kind ends where a character of another kind follows, or none. -/
theorem takeWhile_append_of_run (hfirst : ∀ c ∈ first, p c = true)
    (hsecond : ∀ c ∈ second.head?, p c = false) : (first ++ second).takeWhile p = first := by
  have hstop : second.takeWhile p = [] := by
    rcases second with _ | ⟨c, rest⟩
    · rfl
    · exact List.takeWhile_cons_of_neg (by simp [hsecond c rfl])
  rw [List.takeWhile_append_of_pos hfirst, hstop, List.append_nil]

/-- **A run can be told from what follows it.** -/
theorem append_inj_of_run (h : first ++ second = first' ++ second')
    (hfirst : ∀ c ∈ first, p c = true) (hfirst' : ∀ c ∈ first', p c = true)
    (hsecond : ∀ c ∈ second.head?, p c = false) (hsecond' : ∀ c ∈ second'.head?, p c = false) :
    first = first' ∧ second = second' := by
  have hrun : first = first' := by
    rw [← takeWhile_append_of_run hfirst hsecond, h, takeWhile_append_of_run hfirst' hsecond']
  subst hrun
  exact ⟨rfl, List.append_cancel_left h⟩

end Runs

/-! ### Letters -/

theorem Operator.symbol_injective : Function.Injective symbol :=
  Function.IsPartialInv.injective fun _ _ => ofSymbol?_eq_some_iff.trans eq_comm

/-- No letter of a subject is a symbol. -/
theorem SubjectSet.isNone_ofSymbol?_of_mem (set : SubjectSet) :
    ∀ c ∈ set.letters, (Operator.ofSymbol? c).isNone = true := by
  intro c hc
  obtain ⟨s, -, rfl⟩ := List.mem_map.mp hc
  simp

/-- The letters of a set tell its members. -/
theorem SubjectSet.letters_injective : Function.Injective letters := by
  intro set other h
  rw [← ofList_toList set, List.map_injective_iff.mpr Subject.letter_injective h, ofList_toList]

/-- The letters of a set tell its members. -/
theorem PermissionSet.letters_injective : Function.Injective letters := by
  intro set other h
  rw [← ofList_toList set, List.map_injective_iff.mpr Permission.letter_injective h, ofList_toList]

/-! ### Actions -/

namespace Action

/-- Behind its symbol an action has letters only. -/
theorem isNone_ofSymbol?_of_mem (a : Action) :
    ∀ c ∈ a.copies.letters ++ a.permissions.letters, (Operator.ofSymbol? c).isNone = true := by
  intro c hc
  rcases List.mem_append.mp hc with hc | hc
  · exact a.copies.isNone_ofSymbol?_of_mem c hc
  · obtain ⟨q, -, rfl⟩ := List.mem_map.mp hc
    simp

/-- The text of actions begins with a symbol, unless it is empty. -/
theorem isNone_ofSymbol?_of_mem_head? (actions : List Action) :
    ∀ c ∈ (actions.flatMap chars).head?, (Operator.ofSymbol? c).isNone = false := by
  intro c hc
  rcases actions with _ | ⟨a, rest⟩
  · contradiction
  · obtain rfl : a.operator.symbol = c := Option.some.inj hc
    simp

/-- The letters behind a symbol tell the two sets of an action, mixed or not: no letter is both that
of a subject and that of a permission. -/
theorem sets_eq_of_letters {a b : Action}
    (h : a.copies.letters ++ a.permissions.letters = b.copies.letters ++ b.permissions.letters) :
    a.copies = b.copies ∧ a.permissions = b.permissions := by
  have hcopies (set : SubjectSet) : ∀ c ∈ set.letters, (Subject.ofLetter? c).isSome = true := by
    intro c hc
    obtain ⟨s, -, rfl⟩ := List.mem_map.mp hc
    simp
  have hpermissions (set : PermissionSet) :
      ∀ c ∈ set.letters.head?, (Subject.ofLetter? c).isSome = false := by
    intro c hc
    obtain ⟨q, -, rfl⟩ := List.mem_map.mp (List.mem_of_mem_head? hc)
    simp
  obtain ⟨hc, hp⟩ := append_inj_of_run h (hcopies _) (hcopies _) (hpermissions _) (hpermissions _)
  exact ⟨SubjectSet.letters_injective hc, PermissionSet.letters_injective hp⟩

/-- **The text of actions tells what the actions say**, one by one. -/
theorem map_plain_eq_of_flatMap_chars {actions others : List Action}
    (h : actions.flatMap chars = others.flatMap chars) : actions.map plain = others.map plain := by
  induction actions generalizing others with
  | nil =>
    rcases others with _ | ⟨b, rest⟩
    · rfl
    · simp [chars] at h
  | cons a rest ih =>
    rcases others with _ | ⟨b, rest'⟩
    · simp [chars] at h
    · -- behind the symbol stand the letters of the first action, then a symbol or nothing
      obtain ⟨hsymbol, htail⟩ := List.cons.inj h
      obtain ⟨hletters, hrest⟩ := append_inj_of_run htail a.isNone_ofSymbol?_of_mem
        b.isNone_ofSymbol?_of_mem (isNone_ofSymbol?_of_mem_head? rest)
        (isNone_ofSymbol?_of_mem_head? rest')
      obtain ⟨hcopies, hpermissions⟩ := sets_eq_of_letters hletters
      have hplain : a.plain = b.plain := by
        rw [plain, plain, Operator.symbol_injective hsymbol, hcopies, hpermissions]
      rw [List.map_cons, List.map_cons, hplain, ih hrest]

end Action

/-! ### Clauses -/

namespace Clause

/-- **The text of a clause tells what the clause says.** The letters in front of the first symbol
are those of the subjects, although subjects are copied from by the same letters. -/
theorem plain_eq_of_chars {c d : Clause} (h : c.chars = d.chars) : c.plain = d.plain := by
  obtain ⟨hletters, hactions⟩ := append_inj_of_run h c.subjects.isNone_ofSymbol?_of_mem
    d.subjects.isNone_ofSymbol?_of_mem (Action.isNone_ofSymbol?_of_mem_head? c.actions)
    (Action.isNone_ofSymbol?_of_mem_head? d.actions)
  rw [plain, plain, SubjectSet.letters_injective hletters,
    Action.map_plain_eq_of_flatMap_chars hactions]

/-- Clauses have the same text exactly if they say the same. -/
theorem chars_eq_iff (c d : Clause) : c.chars = d.chars ↔ c.plain = d.plain := by
  refine ⟨plain_eq_of_chars, fun h => ?_⟩
  rw [← c.chars_plain, h, d.chars_plain]

/-- In the text of a clause stand symbols and letters only. -/
theorem kinds_of_mem_chars {c : Clause} {x : Char} (h : x ∈ c.chars) :
    Operator.ofSymbol? x ≠ none ∨ Subject.ofLetter? x ≠ none ∨ Permission.ofLetter? x ≠ none := by
  rcases List.mem_append.mp h with h | h
  · obtain ⟨s, -, rfl⟩ := List.mem_map.mp h
    simp
  · obtain ⟨a, -, h⟩ := List.mem_flatMap.mp h
    rcases List.mem_cons.mp h with rfl | h
    · simp
    · rcases List.mem_append.mp h with h | h
      · obtain ⟨s, -, rfl⟩ := List.mem_map.mp h
        simp
      · obtain ⟨q, -, rfl⟩ := List.mem_map.mp h
        simp

theorem comma_not_mem_chars (c : Clause) : ',' ∉ c.chars := by
  intro h
  rcases kinds_of_mem_chars h with h | h | h <;> exact h rfl

theorem not_mem_chars_of_isDigit {d : Char} (hd : Octal.isDigit d = true) (c : Clause) :
    d ∉ c.chars := by
  intro h
  obtain ⟨ho, -, hs, hp, -⟩ := Octal.kinds_of_isDigit hd
  rcases kinds_of_mem_chars h with h | h | h <;> contradiction

end Clause

/-! ### Modes -/

namespace Mode

/-- No digit stands in the text of a symbolic mode. -/
theorem not_mem_chars_symbolic_of_isDigit {d : Char} (hd : Octal.isDigit d = true)
    (clauses : List Clause) : d ∉ (symbolic clauses).chars := by
  induction clauses with
  | nil => exact List.not_mem_nil
  | cons c rest ih =>
    obtain ⟨-, -, -, -, hcomma⟩ := Octal.kinds_of_isDigit hd
    rcases eq_or_ne rest [] with rfl | hrest
    · simpa [chars] using c.not_mem_chars_of_isDigit hd
    · rw [chars_symbolic_cons c hrest]
      simp [c.not_mem_chars_of_isDigit hd, hcomma, ih]

/-- **No absolute mode has the text of a symbolic one.** -/
theorem chars_absolute_ne_chars_symbolic (n : Int) (clauses : List Clause) :
    (absolute n).chars ≠ (symbolic clauses).chars := by
  intro h
  obtain ⟨d, rest, hbody, hd⟩ := Octal.exists_body_eq_cons width n
  have hmem : d ∈ (absolute n).chars := by
    have hbody' : d ∈ Octal.body width n := by simp [hbody]
    rw [chars, Octal.render, List.append_assoc]
    exact List.mem_append_right _ hbody'
  rw [h] at hmem
  exact not_mem_chars_symbolic_of_isDigit hd clauses hmem

/-- Lists of clauses with the same text say the same, if there are clauses in both. -/
theorem plain_eq_of_chars_symbolic {clauses others : List Clause} (hne : clauses ≠ [])
    (hne' : others ≠ []) (h : (symbolic clauses).chars = (symbolic others).chars) :
    clauses.map Clause.plain = others.map Clause.plain := by
  have hcomma (list : List Clause) : ∀ text ∈ list.map Clause.chars, ',' ∉ text := by
    intro text htext
    obtain ⟨c, -, rfl⟩ := List.mem_map.mp htext
    exact c.comma_not_mem_chars
  have hsplit (list : List Clause) (hlist : list ≠ []) :
      (symbolic list).chars.splitOn ',' = list.map Clause.chars :=
    List.splitOn_intercalate ',' (hcomma list) (mt List.map_eq_nil_iff.mp hlist)
  -- the texts agree one by one, and each tells what its clause says
  have htexts : List.Forall₂ (· = ·) (clauses.map Clause.chars) (others.map Clause.chars) := by
    rw [List.forall₂_eq_eq_eq, ← hsplit clauses hne, h, hsplit others hne']
  rw [List.forall₂_map_left_iff, List.forall₂_map_right_iff] at htexts
  rw [← List.forall₂_eq_eq_eq, List.forall₂_map_left_iff, List.forall₂_map_right_iff]
  exact htexts.imp fun _ _ => Clause.plain_eq_of_chars

/-- **The modes without any text**: no clauses at all, or one that says nothing. -/
theorem chars_eq_nil_iff (m : Mode) : m.chars = [] ↔ m ≈ symbolic [] ∨ m ≈ symbolic [{}] := by
  rcases m with n | _ | ⟨c, _ | ⟨d, rest⟩⟩
  · refine iff_of_false (chars_absolute_ne_chars_symbolic n []) ?_
    rintro (h | h) <;> cases equiv_iff.mp h
  · exact iff_of_true rfl (.inl (Setoid.refl _))
  · have hsays : c.chars = [] ↔ c.plain = ({} : Clause).plain := c.chars_eq_iff {}
    simpa [chars, equiv_iff, plain] using hsays
  · -- between two clauses there is a comma
    have hne : (symbolic (c :: d :: rest)).chars ≠ [] := by
      rw [chars_symbolic_cons c (List.cons_ne_nil d rest)]
      exact List.append_ne_nil_of_right_ne_nil _ (List.cons_ne_nil _ _)
    refine iff_of_false hne ?_
    rintro (h | h) <;> simpa using length_eq_of_equiv h

/-- Modes with the same text say the same, if the text is not empty. -/
theorem plain_eq_of_chars {a b : Mode} (hne : a.chars ≠ []) (h : a.chars = b.chars) :
    a.plain = b.plain := by
  have hlist (clauses : List Clause) (hchars : (symbolic clauses).chars ≠ []) : clauses ≠ [] := by
    rintro rfl
    exact hchars rfl
  rcases a with n | clauses <;> rcases b with m | others
  · rw [Octal.render_injective width h]
  · exact absurd h (chars_absolute_ne_chars_symbolic n others)
  · exact absurd h.symm (chars_absolute_ne_chars_symbolic m clauses)
  · rw [plain, plain, plain_eq_of_chars_symbolic (hlist clauses hne) (hlist others (h ▸ hne)) h]

/-- Modes have the same text exactly if they say the same or have no text at all. -/
theorem chars_eq_iff (a b : Mode) :
    a.chars = b.chars ↔ a ≈ b ∨ (a.chars = [] ∧ b.chars = []) := by
  constructor
  · intro h
    rcases eq_or_ne a.chars [] with hnil | hne
    · exact .inr ⟨hnil, h ▸ hnil⟩
    · exact .inl (plain_eq_of_chars hne h)
  · rintro (h | ⟨ha, hb⟩)
    · rw [← a.chars_plain, equiv_iff.mp h, b.chars_plain]
    · rw [ha, hb]

/-! ### Renderings and descriptions -/

theorem render_inj {a b : Mode} : a.render = b.render ↔ a.chars = b.chars := String.ofList_inj

theorem render_absolute_ne (n : Int) (clauses : List Clause) :
    (absolute n).render ≠ (symbolic clauses).render :=
  mt render_inj.mp (chars_absolute_ne_chars_symbolic n clauses)

theorem describe_absolute_ne (n : Int) (clauses : List Clause) :
    (absolute n).describe ≠ (symbolic clauses).describe := by
  intro h
  have hhead := congrArg (fun text => text.toList.head?) h
  simp [describe] at hhead

/-- The word for the kind of a mode tells no more than its text. -/
theorem describe_inj {a b : Mode} : a.describe = b.describe ↔ a.render = b.render := by
  rcases a with n | clauses <;> rcases b with m | others
  · exact String.append_right_inj _
  · exact iff_of_false (describe_absolute_ne n others) (render_absolute_ne n others)
  · exact iff_of_false (describe_absolute_ne m clauses).symm (render_absolute_ne m clauses).symm
  · exact String.append_right_inj _

/-- **The rendering is faithful.** Any two modes have the same rendering exactly if they say the
same, except that no clauses at all are rendered like one clause that says nothing; and so it is
with descriptions. In particular no absolute mode is rendered like a symbolic one. -/
theorem render_eq_iff (a b : Mode) :
    (a.render = b.render ↔
      a ≈ b ∨ (a ≈ symbolic [] ∨ a ≈ symbolic [{}]) ∧ (b ≈ symbolic [] ∨ b ≈ symbolic [{}])) ∧
    (a.describe = b.describe ↔
      a ≈ b ∨ (a ≈ symbolic [] ∨ a ≈ symbolic [{}]) ∧ (b ≈ symbolic [] ∨ b ≈ symbolic [{}])) ∧
    ∀ n clauses, (absolute n).render ≠ (symbolic clauses).render := by
  have hrender := render_inj.trans (chars_eq_iff a b)
  rw [chars_eq_nil_iff, chars_eq_nil_iff] at hrender
  exact ⟨hrender, describe_inj.trans hrender, render_absolute_ne⟩

/-- The exception. -/
example : (symbolic []).render = (symbolic [{}]).render ∧ ¬ symbolic [] ≈ symbolic [{}] :=
  ⟨rfl, by decide⟩

end Mode

end FileMode
