import FileMode.Clause.Grammar

/-!
# Growing segments

How a segment is written one character after another. `Segment.extend?` is the segment with one more
character at its end, or nothing where the grammar lets no such character stand; it knows nothing of
phases and of clauses, only of what the grammar says may follow what.

**A segment grows into its own text and into nothing else**: growing adds the character that was
given (`Segment.chars_of_extend?`), and every segment comes of the empty one by growing along its
own text (`Segment.extendAll?_chars`). Commas are no part of this, since they stand between segments
(`Segment.extend?_comma`).
-/

namespace FileMode

/-! ### Kinds of characters

A character is the symbol of an operator, the letter of a permission, a letter in front of a clause,
or none of these, but never two of them. The letters to copy from are letters in front of a clause.
-/

namespace Operator

@[simp] theorem ofSymbol?_subjectLetter (s : Subject) : ofSymbol? s.letter = none := by
  cases s <;> rfl

@[simp] theorem ofSymbol?_permissionLetter (p : Permission) : ofSymbol? p.letter = none := by
  cases p <;> rfl

end Operator

namespace Subject

@[simp] theorem ofLetter?_permissionLetter (p : Permission) : ofLetter? p.letter = none := by
  cases p <;> rfl

end Subject

namespace Who

/-- The letter in front of a clause that a character is. -/
def ofLetter? (c : Char) : Option Who :=
  if c = 'a' then some everyone else (Subject.ofLetter? c).map one

@[simp] theorem ofLetter?_letter (w : Who) : ofLetter? w.letter = some w := by
  rcases w with s | _
  · cases s <;> rfl
  · rfl

/-- Only the character itself is a letter in front of a clause. -/
theorem ofLetter?_eq_some_iff {c : Char} {w : Who} : ofLetter? c = some w ↔ c = w.letter := by
  refine ⟨fun h => ?_, fun h => h ▸ ofLetter?_letter w⟩
  unfold ofLetter? at h
  split at h
  · next hc =>
    cases h
    exact hc
  · obtain ⟨s, hs, rfl⟩ := Option.map_eq_some_iff.mp h
    exact Subject.ofLetter?_eq_some_iff.mp hs

@[simp] theorem ofSymbol?_letter (w : Who) : Operator.ofSymbol? w.letter = none := by
  rcases w with s | _
  · exact Operator.ofSymbol?_subjectLetter s
  · rfl

end Who

/-- A letter in front of a clause names the set of the subjects that it stands for. -/
theorem SubjectSet.named?_eq (c : Char) :
    named? c = (Who.ofLetter? c).map fun w => ofList w.subjects := by
  unfold named? Who.ofLetter?
  split
  · rfl
  · cases Subject.ofLetter? c <;> rfl

/-! ### One more character -/

/-- The operand with one more letter at its end. Behind no letter at all it is still open whether
the operand copies or spells out. -/
def Operand.extend? : Operand → Char → Option Operand
  | copied first more, c => (Subject.ofLetter? c).map fun s => copied first (more ++ [s])
  | spelled [], c =>
    match Subject.ofLetter? c with
    | some s => some (copied s [])
    | none => (Permission.ofLetter? c).map fun p => spelled [p]
  | spelled (p :: rest), c => (Permission.ofLetter? c).map fun q => spelled (p :: rest ++ [q])

/-- Growing an operand adds the character that is given. -/
theorem Operand.chars_of_extend? {o o' : Operand} {c : Char} (h : o.extend? c = some o') :
    o'.chars = o.chars ++ [c] := by
  rcases o with ⟨first, more⟩ | ⟨_ | ⟨p, rest⟩⟩
  · obtain ⟨s, hs, rfl⟩ := Option.map_eq_some_iff.mp h
    simp [chars, Subject.ofLetter?_eq_some_iff.mp hs]
  · rw [extend?] at h
    split at h
    · next s hs =>
      cases h
      simp [chars, Subject.ofLetter?_eq_some_iff.mp hs]
    · obtain ⟨p, hp, rfl⟩ := Option.map_eq_some_iff.mp h
      simp [chars, Permission.ofLetter?_eq_some_iff.mp hp]
  · obtain ⟨q, hq, rfl⟩ := Option.map_eq_some_iff.mp h
    simp [chars, Permission.ofLetter?_eq_some_iff.mp hq]

/-- What is neither a subject to copy from nor a permission ends the operand. -/
theorem Operand.extend?_eq_none {c : Char} (hs : Subject.ofLetter? c = none)
    (hp : Permission.ofLetter? c = none) (o : Operand) : o.extend? c = none := by
  rcases o with ⟨first, more⟩ | ⟨_ | ⟨p, rest⟩⟩ <;> simp [extend?, hs, hp]

namespace Segment

/-- The segment of no characters. -/
def empty : Segment := ⟨[], []⟩

/-- The segment with one more letter at its end: the letter belongs to the last phrase, or to the
front of the clause if there is none. -/
def extendLetter? (s : Segment) (c : Char) : Option Segment :=
  match s.phrases.getLast? with
  | none => (Who.ofLetter? c).map fun w => ⟨s.who ++ [w], []⟩
  | some p =>
    (p.operand.extend? c).map fun operand => ⟨s.who, s.phrases.dropLast ++ [⟨p.operator, operand⟩]⟩

/-- The segment with one more character at its end, which is a letter or begins a phrase. -/
def extend? (s : Segment) (c : Char) : Option Segment :=
  match Operator.ofSymbol? c with
  | some o => some ⟨s.who, s.phrases ++ [⟨o, .spelled []⟩]⟩
  | none => s.extendLetter? c

/-- In front of all phrases a letter is one in front of the clause. -/
theorem extendLetter?_nil (who : List Who) (c : Char) :
    extendLetter? ⟨who, []⟩ c = (Who.ofLetter? c).map fun w => ⟨who ++ [w], []⟩ := rfl

/-- Behind a phrase a letter belongs to its operand. -/
theorem extendLetter?_concat (who : List Who) (phrases : List Phrase) (o : Operator)
    (operand : Operand) (c : Char) :
    extendLetter? ⟨who, phrases ++ [⟨o, operand⟩]⟩ c =
      (operand.extend? c).map fun operand => ⟨who, phrases ++ [⟨o, operand⟩]⟩ := by
  simp [extendLetter?]

/-- A symbol begins a phrase, wherever it stands. -/
theorem extend?_symbol (s : Segment) (o : Operator) :
    s.extend? o.symbol = some ⟨s.who, s.phrases ++ [⟨o, .spelled []⟩]⟩ := by
  rw [extend?, Operator.ofSymbol?_symbol]

/-- What is not a symbol can only be a letter. -/
theorem extend?_of_ofSymbol?_eq_none {c : Char} (hc : Operator.ofSymbol? c = none) (s : Segment) :
    s.extend? c = s.extendLetter? c := by
  rw [extend?, hc]

/-- A segment has no phrases, or it has a last one. -/
theorem eq_nil_or_concat (s : Segment) :
    s = ⟨s.who, []⟩ ∨ ∃ phrases o operand, s = ⟨s.who, phrases ++ [⟨o, operand⟩]⟩ := by
  obtain ⟨who, phrases⟩ := s
  rcases List.eq_nil_or_concat phrases with rfl | ⟨front, p, rfl⟩
  · exact .inl rfl
  · exact .inr ⟨front, p.operator, p.operand, by simp⟩

/-- Growing by a letter adds the letter. -/
theorem chars_of_extendLetter? {s s' : Segment} {c : Char} (h : s.extendLetter? c = some s') :
    s'.chars = s.chars ++ [c] := by
  rcases s.eq_nil_or_concat with hs | ⟨phrases, o, operand, hs⟩
  · rw [hs, extendLetter?_nil] at h
    obtain ⟨w, hw, rfl⟩ := Option.map_eq_some_iff.mp h
    rw [hs, Who.ofLetter?_eq_some_iff.mp hw]
    simp [chars]
  · rw [hs, extendLetter?_concat] at h
    obtain ⟨operand', ho, rfl⟩ := Option.map_eq_some_iff.mp h
    rw [hs]
    simp [chars, Phrase.chars, Operand.chars_of_extend? ho]

/-- **Growing adds the character that is given.** -/
theorem chars_of_extend? {s s' : Segment} {c : Char} (h : s.extend? c = some s') :
    s'.chars = s.chars ++ [c] := by
  rcases hc : Operator.ofSymbol? c with _ | o
  · rw [extend?_of_ofSymbol?_eq_none hc] at h
    exact chars_of_extendLetter? h
  · obtain rfl := Operator.ofSymbol?_eq_some_iff.mp hc
    obtain rfl := Option.some.inj ((extend?_symbol s o).symm.trans h)
    simp [chars, Phrase.chars, Operand.chars]

/-- What is a letter of no kind belongs to no phrase and to no front of a clause. -/
theorem extendLetter?_eq_none {c : Char} (hw : Who.ofLetter? c = none)
    (hs : Subject.ofLetter? c = none) (hp : Permission.ofLetter? c = none) (s : Segment) :
    s.extendLetter? c = none := by
  rcases s.eq_nil_or_concat with h | ⟨phrases, o, operand, h⟩
  · rw [h, extendLetter?_nil, hw, Option.map_none]
  · rw [h, extendLetter?_concat, Operand.extend?_eq_none hs hp, Option.map_none]

theorem extendLetter?_symbol (s : Segment) (o : Operator) : s.extendLetter? o.symbol = none := by
  cases o <;> exact extendLetter?_eq_none rfl rfl rfl s

theorem extendLetter?_comma (s : Segment) : s.extendLetter? ',' = none :=
  extendLetter?_eq_none rfl rfl rfl s

/-- A comma stands in no segment. -/
theorem extend?_comma (s : Segment) : s.extend? ',' = none := s.extendLetter?_comma

/-- Copying from subjects leaves no room for permissions. -/
theorem extend?_permissionLetter (who : List Who) (phrases : List Phrase) (o : Operator)
    (first : Subject) (more : List Subject) (p : Permission) :
    extend? ⟨who, phrases ++ [⟨o, .copied first more⟩]⟩ p.letter = none := by
  rw [extend?_of_ofSymbol?_eq_none (Operator.ofSymbol?_permissionLetter p), extendLetter?_concat,
    Operand.extend?, Subject.ofLetter?_permissionLetter]
  rfl

/-! ### A whole text -/

/-- The segment with more characters at its end. -/
def extendAll? (s : Segment) (text : List Char) : Option Segment := text.foldlM extend? s

@[simp] theorem extendAll?_nil (s : Segment) : s.extendAll? [] = some s := rfl

@[simp] theorem extendAll?_cons (s : Segment) (c : Char) (text : List Char) :
    s.extendAll? (c :: text) = (s.extend? c).bind fun t => t.extendAll? text := rfl

theorem extendAll?_append (s : Segment) (first second : List Char) :
    s.extendAll? (first ++ second) =
      (s.extendAll? first).bind fun t => t.extendAll? second := by
  simp only [extendAll?, List.foldlM_append]
  rfl

/-- Letters in front of a clause are read one by one. -/
theorem extendAll?_who (who more : List Who) :
    extendAll? ⟨who, []⟩ (more.map Who.letter) = some ⟨who ++ more, []⟩ := by
  induction more generalizing who with
  | nil => simp
  | cons w rest ih =>
    rw [List.map_cons, extendAll?_cons, extend?_of_ofSymbol?_eq_none (Who.ofSymbol?_letter w),
      extendLetter?_nil, Who.ofLetter?_letter, Option.map_some, Option.bind_some, ih,
      List.append_assoc]
    rfl

/-- Subjects to copy from are read one by one. -/
theorem extendAll?_copied (who : List Who) (phrases : List Phrase) (o : Operator) (first : Subject)
    (more rest : List Subject) :
    extendAll? ⟨who, phrases ++ [⟨o, .copied first more⟩]⟩ (rest.map Subject.letter) =
      some ⟨who, phrases ++ [⟨o, .copied first (more ++ rest)⟩]⟩ := by
  induction rest generalizing more with
  | nil => simp
  | cons s rest ih =>
    rw [List.map_cons, extendAll?_cons,
      extend?_of_ofSymbol?_eq_none (Operator.ofSymbol?_subjectLetter s), extendLetter?_concat,
      Operand.extend?, Subject.ofLetter?_letter]
    simp only [Option.map_some, Option.bind_some]
    rw [ih, List.append_assoc]
    rfl

/-- Permissions are read one by one. -/
theorem extendAll?_spelled (who : List Who) (phrases : List Phrase) (o : Operator)
    (permissions rest : List Permission) :
    extendAll? ⟨who, phrases ++ [⟨o, .spelled permissions⟩]⟩ (rest.map Permission.letter) =
      some ⟨who, phrases ++ [⟨o, .spelled (permissions ++ rest)⟩]⟩ := by
  induction rest generalizing permissions with
  | nil => simp
  | cons p rest ih =>
    have hstep : (Operand.spelled permissions).extend? p.letter =
        some (.spelled (permissions ++ [p])) := by
      cases permissions <;> simp [Operand.extend?]
    rw [List.map_cons, extendAll?_cons,
      extend?_of_ofSymbol?_eq_none (Operator.ofSymbol?_permissionLetter p), extendLetter?_concat,
      hstep, Option.map_some, Option.bind_some, ih, List.append_assoc]
    rfl

/-- A phrase is read behind any others. -/
theorem extendAll?_phrase (who : List Who) (phrases : List Phrase) (p : Phrase) :
    extendAll? ⟨who, phrases⟩ p.chars = some ⟨who, phrases ++ [p]⟩ := by
  obtain ⟨o, ⟨first, more⟩ | permissions⟩ := p
  · rw [Phrase.chars, extendAll?_cons, extend?_symbol, Option.bind_some]
    simp only [Operand.chars, List.map_cons]
    -- the first subject makes a copying operand of the open one
    rw [extendAll?_cons, extend?_of_ofSymbol?_eq_none (Operator.ofSymbol?_subjectLetter first),
      extendLetter?_concat, Operand.extend?, Subject.ofLetter?_letter]
    exact extendAll?_copied who phrases o first [] more
  · rw [Phrase.chars, extendAll?_cons, extend?_symbol, Option.bind_some]
    exact extendAll?_spelled who phrases o [] permissions

/-- Phrases are read one behind the other. -/
theorem extendAll?_phrases (who : List Who) (phrases more : List Phrase) :
    extendAll? ⟨who, phrases⟩ (more.flatMap Phrase.chars) = some ⟨who, phrases ++ more⟩ := by
  induction more generalizing phrases with
  | nil => simp
  | cons p rest ih =>
    rw [List.flatMap_cons, extendAll?_append, extendAll?_phrase, Option.bind_some, ih,
      List.append_assoc]
    rfl

/-- **Every segment comes of the empty one**, by growing along its own text. -/
theorem extendAll?_chars (s : Segment) : empty.extendAll? s.chars = some s := by
  rw [chars, extendAll?_append, empty, extendAll?_who, Option.bind_some, extendAll?_phrases]
  rfl

end Segment

end FileMode
