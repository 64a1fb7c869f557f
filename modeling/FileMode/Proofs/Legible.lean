import FileMode.Value.Inspection
import Mathlib.Algebra.Group.Int.Defs
import Mathlib.Algebra.Group.Nat.Defs
import Mathlib.Data.List.Forall2

/-!
# Values told by their inspection

An inspection shows everything about a value but its marks, so values that say the same are shown
alike, if they are shown at all: a number of too many digits is not (`Value.inspect?_eq_none_iff`).
Conversely **what is shown tells what the value says** (`Value.plain_eq_of_inspectChars?`), although
brackets are nested and commas stand both between the fields of a record and between the items of a
list: no inspection of an action or of a clause is a proper beginning of another one, so where one
of them ends can be told from the text alone (`ToldApart`).

Numerals are no such texts, as one can begin another. The only one shown is that of an absolute
mode, and behind it there is nothing but the last bracket. Plain data are left out: a truth value
says the same as a number and is shown in another way.
-/

namespace FileMode

/-! ### Equality up to marks -/

/-- Images are equal exactly if the items at each place have equal images. -/
theorem map_eq_map_iff_forall₂ {α β : Type} {f : α → β} {items others : List α} :
    items.map f = others.map f ↔ List.Forall₂ (fun a b => f a = f b) items others := by
  rw [← List.forall₂_eq_eq_eq, List.forall₂_map_left_iff, List.forall₂_map_right_iff]

/-- What one image of an item tells about another holds of lists of items too. -/
theorem map_eq_map_of_imp {α β γ : Type} {f : α → β} {g : α → γ} {items others : List α}
    (himp : ∀ a b, f a = f b → g a = g b) (h : items.map f = others.map f) :
    items.map g = others.map g :=
  map_eq_map_iff_forall₂.mpr ((map_eq_map_iff_forall₂.mp h).imp himp)

/-- Actions are **equal up to their marks** when they agree in the other fields. -/
structure Action.EqUpToMark (a b : Action) : Prop where
  operator : a.operator = b.operator
  copies : a.copies = b.copies
  permissions : a.permissions = b.permissions

theorem Action.plain_eq_iff {a b : Action} : a.plain = b.plain ↔ a.EqUpToMark b := by
  constructor
  · intro h
    exact ⟨(Action.mk.inj h).1, (Action.mk.inj h).2.1, (Action.mk.inj h).2.2.1⟩
  · rintro ⟨ho, hc, hp⟩
    rw [plain, plain, ho, hc, hp]

/-- Clauses are **equal up to marks** when they address the same subjects and their actions are,
one by one. -/
structure Clause.EqUpToMarks (c d : Clause) : Prop where
  subjects : c.subjects = d.subjects
  actions : List.Forall₂ Action.EqUpToMark c.actions d.actions

theorem Clause.plain_eq_iff {c d : Clause} : c.plain = d.plain ↔ c.EqUpToMarks d := by
  have hactions : c.actions.map Action.plain = d.actions.map Action.plain ↔
      List.Forall₂ Action.EqUpToMark c.actions d.actions := by
    simp only [map_eq_map_iff_forall₂, Action.plain_eq_iff]
  constructor
  · intro h
    exact ⟨(Clause.mk.inj h).1, hactions.mp (Clause.mk.inj h).2.1⟩
  · rintro ⟨hs, ha⟩
    rw [plain, plain, hs, hactions.mpr ha]

/-! ### Texts that are told apart -/

/-- Two texts are **told apart**, whatever stands behind them, when neither of them is a proper
beginning of the other. -/
def ToldApart (first second : List Char) : Prop :=
  ∀ u v, first ++ u = second ++ v → first = second

/-- A way of writing is **free of prefixes** when nothing begins like something else written. -/
def PrefixFree {α : Type} (f : α → List Char) : Prop := ∀ a b, f a <+: f b → a = b

section PrefixFree

variable {α : Type} {f : α → List Char}

theorem PrefixFree.injective (h : PrefixFree f) : Function.Injective f :=
  fun a b heq => h a b (heq ▸ List.prefix_rfl)

theorem PrefixFree.toldApart (h : PrefixFree f) (a b : α) : ToldApart (f a) (f b) := by
  intro u v heq
  rcases List.prefix_or_prefix_of_prefix ⟨u, heq⟩ (List.prefix_append (f b) v) with hab | hba
  · rw [h a b hab]
  · rw [h b a hba]

end PrefixFree

/-- The first of joined texts stands in front of the others, with the separator between them. -/
theorem intercalate_cons_append (separator text : List Char) (others : List (List Char))
    (rest : List Char) :
    separator.intercalate (text :: others) ++ rest =
      text ++
        if others = [] then rest else separator ++ (separator.intercalate others ++ rest) := by
  rcases others with _ | ⟨next, more⟩
  · simp
  · simp [List.intercalate_cons_cons]

/-! ### Records -/

/-- Two fields **match** when they have the same name, and values that are told apart. -/
def FieldsMatch (field other : String × List Char) : Prop :=
  field.1 = other.1 ∧ ToldApart field.2 other.2

/-- The text of a field in a record. -/
def fieldText (field : String × List Char) : List Char := field.1.toList ++ '=' :: field.2

/-- The text of a field tells its value, if the name is known. -/
theorem FieldsMatch.eq_of_append {field other : String × List Char} (h : FieldsMatch field other)
    {u v : List Char} (heq : fieldText field ++ u = fieldText other ++ v) : field = other := by
  obtain ⟨name, value⟩ := field
  obtain ⟨name', value'⟩ := other
  obtain ⟨hname, hvalue⟩ := h
  obtain rfl : name = name' := hname
  rw [fieldText, fieldText, List.append_assoc, List.append_assoc] at heq
  exact congrArg (Prod.mk name) (hvalue u v (List.cons.inj (List.append_cancel_left heq)).2)

/-- Joined fields tell each of them. -/
theorem fields_eq_of_intercalate {separator : List Char} {fields others : List (String × List Char)}
    (h : List.Forall₂ FieldsMatch fields others) {u v : List Char}
    (heq : separator.intercalate (fields.map fieldText) ++ u =
      separator.intercalate (others.map fieldText) ++ v) : fields = others := by
  induction h with
  | nil => rfl
  | cons hfirst hrest ih =>
    rw [List.map_cons, List.map_cons, intercalate_cons_append, intercalate_cons_append] at heq
    obtain rfl := hfirst.eq_of_append heq
    have htail := List.append_cancel_left heq
    cases hrest with
    | nil => rfl
    | cons _ _ => rw [ih (List.append_cancel_left htail)]

/-- **A record tells its fields**, whatever stands behind it. -/
theorem fields_eq_of_inspectRecord {kind : String} {fields others : List (String × List Char)}
    (h : List.Forall₂ FieldsMatch fields others) {u v : List Char}
    (heq : inspectRecord kind fields ++ u = inspectRecord kind others ++ v) : fields = others := by
  have htext (list : List (String × List Char)) (rest : List Char) :
      inspectRecord kind list ++ rest =
        (kind.toList ++ ['(']) ++ ([',', ' '].intercalate (list.map fieldText) ++ ')' :: rest) := by
    simp only [inspectRecord, List.append_assoc, List.cons_append, List.nil_append]
    rfl
  rw [htext, htext] at heq
  exact fields_eq_of_intercalate h (List.append_cancel_left heq)

/-- A record of one field tells its value, if nothing stands behind it. -/
theorem inspectRecord_singleton_injective (kind name : String) :
    Function.Injective fun value => inspectRecord kind [(name, value)] := by
  have hrecord (value : List Char) : inspectRecord kind [(name, value)] =
      kind.toList ++ '(' :: (name.toList ++ '=' :: (value ++ [')'])) := by simp [inspectRecord]
  intro first second h
  simp only [hrecord] at h
  have hfield := List.append_cancel_left (List.cons.inj (List.append_cancel_left h)).2
  exact List.append_cancel_right (List.cons.inj hfield).2

/-- A record tells its kind: the name in front of the bracket. -/
theorem takeWhile_inspectRecord {kind : String} (h : '(' ∉ kind.toList)
    (fields : List (String × List Char)) :
    (inspectRecord kind fields).takeWhile (· ≠ '(') = kind.toList := by
  have hname : ∀ c ∈ kind.toList, decide (c ≠ '(') = true := by
    intro c hc
    rw [decide_eq_true_eq]
    rintro rfl
    exact h hc
  rw [inspectRecord, List.takeWhile_append_of_pos hname, List.takeWhile_cons_of_neg (by simp),
    List.append_nil]

/-! ### Lists -/

section Items

-- Items are shown as texts that are told apart and cannot be taken for the bracket behind them.

variable {α : Type} {f : α → List Char} (hapart : ∀ a b, ToldApart (f a) (f b)) {c : Char}
  (hc : c ≠ ']') (hhead : ∀ a, ∃ rest, f a = c :: rest)
include hapart hc hhead

/-- Joined items tell each of them, up to the bracket. -/
theorem map_eq_of_intercalate {items others : List α} {u v : List Char}
    (heq : [',', ' '].intercalate (items.map f) ++ ']' :: u =
      [',', ' '].intercalate (others.map f) ++ ']' :: v) : items.map f = others.map f := by
  -- no item stands where the other list is at its end
  have hend (a : α) (rest u v : List Char) : ']' :: u ≠ f a ++ rest := by
    intro h
    obtain ⟨more, hmore⟩ := hhead a
    rw [hmore] at h
    exact hc (List.cons.inj h).1.symm
  induction items generalizing others with
  | nil =>
    rcases others with _ | ⟨b, more⟩
    · rfl
    · rw [List.map_cons, intercalate_cons_append] at heq
      exact absurd heq (hend b _ u v)
  | cons a rest ih =>
    rcases others with _ | ⟨b, more⟩
    · rw [List.map_cons, intercalate_cons_append] at heq
      exact absurd heq.symm (hend a _ v u)
    · rw [List.map_cons, List.map_cons, intercalate_cons_append, intercalate_cons_append] at heq
      have hfirst := hapart a b _ _ heq
      rw [hfirst] at heq
      have htail := List.append_cancel_left heq
      rcases rest with _ | ⟨a', rest⟩ <;> rcases more with _ | ⟨b', more⟩
      · rw [List.map_cons, List.map_cons, hfirst]
      · exact absurd (List.cons.inj htail).1 (by decide)
      · exact absurd (List.cons.inj htail).1 (by decide)
      · exact congrArg₂ List.cons hfirst (ih (List.append_cancel_left htail))

/-- A list tells its items, whatever stands behind it. -/
theorem map_eq_of_inspectList {items others : List α} {u v : List Char}
    (heq : inspectList (items.map f) ++ u = inspectList (others.map f) ++ v) :
    items.map f = others.map f := by
  rw [inspectList, inspectList, List.cons_append, List.cons_append, List.append_assoc,
    List.append_assoc] at heq
  exact map_eq_of_intercalate hapart hc hhead (List.cons.inj heq).2

end Items

/-! ### Truth values, operators and numbers -/

theorem prefixFree_inspectTruth : PrefixFree inspectTruth := by
  intro a b
  cases a <;> cases b <;> decide

theorem fieldsMatch_truth (name : String) (a b : Bool) :
    FieldsMatch (name, inspectTruth a) (name, inspectTruth b) :=
  ⟨rfl, prefixFree_inspectTruth.toldApart a b⟩

theorem Operator.prefixFree_inspect : PrefixFree inspect := by
  intro o p
  cases o <;> cases p <;> decide

/-- Base ten tells a natural number. -/
theorem toDigits_injective : Function.Injective (Nat.toDigits 10) :=
  Function.LeftInverse.injective (g := fun digits => Nat.ofDigitChars 10 digits 0)
    fun _ => Nat.ofDigitChars_toDigits (by decide) (by decide)

theorem toDigits_ne_cons_minus (n : Nat) (rest : List Char) : Nat.toDigits 10 n ≠ '-' :: rest := by
  intro h
  have hmem : '-' ∈ Nat.toDigits 10 n := by
    rw [h]
    exact List.mem_cons_self
  exact absurd (Nat.isDigit_of_mem_toDigits (by decide) (by decide) hmem) (by decide)

theorem decimal_injective : Function.Injective decimal := by
  intro n m h
  rcases n with n | n <;> rcases m with m | m
  · exact congrArg Int.ofNat (toDigits_injective h)
  · exact absurd h (toDigits_ne_cons_minus n _)
  · exact absurd h.symm (toDigits_ne_cons_minus m _)
  · exact congrArg Int.negSucc (Nat.succ.inj (toDigits_injective (List.cons.inj h).2))

/-- **Which numbers are shown**: those below a power of ten, whatever their sign. -/
theorem inspectNumber?_eq (n : Int) :
    inspectNumber? n = if n.natAbs < 10 ^ maxDigits then some (decimal n) else none := by
  have hpos : 0 < maxDigits := by
    rw [maxDigits]
    decide
  exact if_congr (Nat.length_toDigits_le_iff (by decide) hpos) rfl rfl

/-! ### Actions -/

namespace Action

theorem fields_match (a b : Action) : List.Forall₂ FieldsMatch a.fields b.fields := by
  refine .cons ⟨rfl, Operator.prefixFree_inspect.toldApart _ _⟩ ?_
  -- every other field is a truth value
  repeat refine .cons (fieldsMatch_truth _ _ _) ?_
  exact .nil

/-- Fields tell what the action says. -/
theorem plain_eq_of_fields {a b : Action} (h : a.fields = b.fields) : a.plain = b.plain := by
  obtain ⟨o, ⟨cu, cg, co⟩, ⟨r, w, x, d, s, t⟩, _⟩ := a
  obtain ⟨o', ⟨cu', cg', co'⟩, ⟨r', w', x', d', s', t'⟩, _⟩ := b
  simp only [fields, List.cons.injEq, Prod.mk.injEq, true_and, and_true,
    prefixFree_inspectTruth.injective.eq_iff, Operator.prefixFree_inspect.injective.eq_iff] at h
  obtain ⟨rfl, rfl, rfl, rfl, rfl, rfl, rfl, rfl, rfl, rfl⟩ := h
  rfl

/-- **No inspection of an action is a proper beginning of another.** -/
theorem toldApart_inspect (a b : Action) : ToldApart a.inspect b.inspect :=
  fun _ _ h => congrArg (inspectRecord "Action") (fields_eq_of_inspectRecord (fields_match a b) h)

/-- **The inspection of an action tells what it says.** -/
theorem plain_eq_of_inspect {a b : Action} (h : a.inspect = b.inspect) : a.plain = b.plain :=
  plain_eq_of_fields (fields_eq_of_inspectRecord (fields_match a b) (congrArg (· ++ []) h))

end Action

/-! ### Clauses -/

namespace Clause

/-- Actions are shown as items of a list that can be told apart. -/
theorem map_inspect_eq_of_inspectList {actions others : List Action} {u v : List Char}
    (h : inspectList (actions.map Action.inspect) ++ u =
      inspectList (others.map Action.inspect) ++ v) :
    actions.map Action.inspect = others.map Action.inspect :=
  map_eq_of_inspectList (c := 'A') Action.toldApart_inspect (by decide) (fun _ => ⟨_, rfl⟩) h

theorem fields_match (c d : Clause) : List.Forall₂ FieldsMatch c.fields d.fields := by
  have hactions : ToldApart (inspectList (c.actions.map Action.inspect))
      (inspectList (d.actions.map Action.inspect)) :=
    fun _ _ h => congrArg inspectList (map_inspect_eq_of_inspectList h)
  repeat refine .cons (fieldsMatch_truth _ _ _) ?_
  exact .cons ⟨rfl, hactions⟩ .nil

/-- Fields tell what the clause says. -/
theorem plain_eq_of_fields {c d : Clause} (h : c.fields = d.fields) : c.plain = d.plain := by
  obtain ⟨⟨u, g, o⟩, actions, _⟩ := c
  obtain ⟨⟨u', g', o'⟩, actions', _⟩ := d
  simp only [fields, List.cons.injEq, Prod.mk.injEq, true_and, and_true,
    prefixFree_inspectTruth.injective.eq_iff] at h
  obtain ⟨rfl, rfl, rfl, hactions⟩ := h
  have hshown := map_inspect_eq_of_inspectList (congrArg (· ++ []) hactions)
  have hplain : actions.map Action.plain = actions'.map Action.plain :=
    map_eq_map_of_imp (fun _ _ => Action.plain_eq_of_inspect) hshown
  exact congrArg (Clause.mk ⟨u, g, o⟩ · false) hplain

/-- **No inspection of a clause is a proper beginning of another.** -/
theorem toldApart_inspect (c d : Clause) : ToldApart c.inspect d.inspect :=
  fun _ _ h => congrArg (inspectRecord "Clause") (fields_eq_of_inspectRecord (fields_match c d) h)

/-- **The inspection of a clause tells what it says.** -/
theorem plain_eq_of_inspect {c d : Clause} (h : c.inspect = d.inspect) : c.plain = d.plain :=
  plain_eq_of_fields (fields_eq_of_inspectRecord (fields_match c d) (congrArg (· ++ []) h))

end Clause

/-! ### Modes -/

namespace Mode

/-- An absolute mode is shown if its number has not too many digits. -/
theorem inspect?_absolute_eq_some_iff {n : Int} {text : List Char} :
    (absolute n).inspect? = some text ↔
      n.natAbs < 10 ^ maxDigits ∧ inspectRecord "Absolute" [("value", decimal n)] = text := by
  rw [inspect?, inspectNumber?_eq]
  split <;> simp [*]

theorem absolute_eq_of_inspect? {n m : Int} {text : List Char}
    (hn : (absolute n).inspect? = some text) (hm : (absolute m).inspect? = some text) : n = m := by
  obtain ⟨-, hn⟩ := inspect?_absolute_eq_some_iff.mp hn
  obtain ⟨-, hm⟩ := inspect?_absolute_eq_some_iff.mp hm
  exact decimal_injective (inspectRecord_singleton_injective "Absolute" "value" (hn.trans hm.symm))

/-- The clauses of a symbolic mode are shown as items of a list that can be told apart. -/
theorem map_plain_eq_of_inspect? {clauses others : List Clause}
    (h : (symbolic clauses).inspect? = (symbolic others).inspect?) :
    clauses.map Clause.plain = others.map Clause.plain := by
  have hlist := inspectRecord_singleton_injective "Symbolic" "clauses" (Option.some.inj h)
  have hshown : clauses.map Clause.inspect = others.map Clause.inspect :=
    map_eq_of_inspectList (c := 'C') Clause.toldApart_inspect (by decide) (fun _ => ⟨_, rfl⟩)
      (congrArg (· ++ []) hlist)
  exact map_eq_map_of_imp (fun _ _ => Clause.plain_eq_of_inspect) hshown

end Mode

/-! ### Values -/

namespace Value

/-- The kinds of values that are shown as records. -/
inductive Kind where
  | absolute
  | symbolic
  | clause
  | action
deriving DecidableEq

/-- The name that stands in front of a record. -/
def Kind.name : Kind → String
  | absolute => "Absolute"
  | symbolic => "Symbolic"
  | clause => "Clause"
  | action => "Action"

/-- No two kinds share a name. -/
theorem Kind.name_injective : Function.Injective Kind.name := by
  intro k l
  cases k <;> cases l <;> decide

/-- The kind of a value. Plain data have none. -/
def kind? : Value → Option Kind
  | mode (.absolute _) => some .absolute
  | mode (.symbolic _) => some .symbolic
  | clause _ => some .clause
  | action _ => some .action
  | literal _ => none

/-- Values that are **equal up to marks** are of one kind and agree in every field, those of their
parts included, but for the marks at any depth. -/
inductive EqUpToMarks : Value → Value → Prop
  | absolute (n : Int) : EqUpToMarks (mode (.absolute n)) (mode (.absolute n))
  | symbolic {cs ds : List Clause} (h : List.Forall₂ Clause.EqUpToMarks cs ds) :
      EqUpToMarks (mode (.symbolic cs)) (mode (.symbolic ds))
  | clause {c d : Clause} (h : c.EqUpToMarks d) : EqUpToMarks (clause c) (clause d)
  | action {a b : Action} (h : a.EqUpToMark b) : EqUpToMarks (action a) (action b)

theorem kind?_plain (a : Value) : a.plain.kind? = a.kind? := by
  rcases a with (_ | _) | _ | _ | _ <;> rfl

/-- Two values of one kind. -/
inductive SameKind : Value → Value → Prop
  | absolute (n m : Int) : SameKind (mode (.absolute n)) (mode (.absolute m))
  | symbolic (cs ds : List Clause) : SameKind (mode (.symbolic cs)) (mode (.symbolic ds))
  | clause (c d : Clause) : SameKind (clause c) (clause d)
  | action (a b : Action) : SameKind (action a) (action b)

theorem sameKind_of_kind?_eq {a b : Value} (ha : a.kind? ≠ none) (h : a.kind? = b.kind?) :
    SameKind a b := by
  rcases a with (n | cs) | c | a | l
  case literal => exact absurd rfl ha
  -- of the values that the second may be, only those of the same kind are left
  all_goals rcases b with (m | ds) | d | b | l <;> first | constructor | cases h

/-- **Field by field, values are compared without their marks.** -/
theorem equiv_iff_eqUpToMarks {a b : Value} (ha : a.kind? ≠ none) : a ≈ b ↔ EqUpToMarks a b := by
  rw [equiv_iff]
  constructor
  · intro h
    have hkind : a.kind? = b.kind? := by rw [← kind?_plain a, ← kind?_plain b, h]
    cases sameKind_of_kind?_eq ha hkind with
    | absolute n m =>
      obtain rfl : n = m := Mode.absolute.inj (mode.inj h)
      exact .absolute n
    | symbolic cs ds =>
      have hclauses := map_eq_map_iff_forall₂.mp (Mode.symbolic.inj (mode.inj h))
      exact .symbolic (hclauses.imp fun _ _ => Clause.plain_eq_iff.mp)
    | clause c d => exact .clause (Clause.plain_eq_iff.mp (clause.inj h))
    | action a b => exact .action (Action.plain_eq_iff.mp (action.inj h))
  · intro h
    cases h with
    | absolute n => rfl
    | symbolic h =>
      have hclauses := h.imp fun _ _ => Clause.plain_eq_iff.mpr
      exact congrArg (fun cs => mode (.symbolic cs)) (map_eq_map_iff_forall₂.mpr hclauses)
    | clause h => exact congrArg clause (Clause.plain_eq_iff.mpr h)
    | action h => exact congrArg action (Action.plain_eq_iff.mpr h)

/-- Marks do not show in a value that is no plain data. -/
theorem inspect?_plain {a : Value} (ha : a.kind? ≠ none) : a.plain.inspect? = a.inspect? := by
  cases a with
  | mode m => exact congrArg (Option.map String.ofList) m.inspect?_plain
  | clause c => exact congrArg (fun text => some (String.ofList text)) c.inspect_plain
  | action a => exact congrArg (fun text => some (String.ofList text)) a.inspect_plain
  | literal l => exact absurd rfl ha

/-- **Which values are not shown**: of those that are no plain data only absolute modes with a
number of too many digits. -/
theorem inspect?_eq_none_iff {a : Value} (ha : a.kind? ≠ none) :
    a.inspect? = none ↔ ∃ n, a = mode (.absolute n) ∧ 10 ^ maxDigits ≤ n.natAbs := by
  rw [inspect?, Option.map_eq_none_iff]
  rcases a with (n | cs) | c | a | l
  · rw [inspectChars?, Mode.inspect?, Option.map_eq_none_iff, inspectNumber?_eq]
    simp
  · exact iff_of_false nofun nofun
  · exact iff_of_false nofun nofun
  · exact iff_of_false nofun nofun
  · exact absurd rfl ha

/-- A value is shown behind the name of its kind. -/
theorem takeWhile_of_inspectChars? {a : Value} {k : Kind} (ha : a.kind? = some k)
    {text : List Char} (h : a.inspectChars? = some text) :
    text.takeWhile (· ≠ '(') = k.name.toList := by
  rcases a with (n | cs) | c | a | l <;> cases ha
  · obtain ⟨-, rfl⟩ := Mode.inspect?_absolute_eq_some_iff.mp h
    exact takeWhile_inspectRecord (by decide) _
  all_goals
    cases h
    exact takeWhile_inspectRecord (by decide) _

/-- Values that are shown alike are of one kind. -/
theorem kind?_eq_of_inspectChars? {a b : Value} (ha : a.kind? ≠ none) (hb : b.kind? ≠ none)
    {text : List Char} (hatext : a.inspectChars? = some text)
    (hbtext : b.inspectChars? = some text) : a.kind? = b.kind? := by
  obtain ⟨k, hk⟩ := Option.ne_none_iff_exists'.mp ha
  obtain ⟨l, hl⟩ := Option.ne_none_iff_exists'.mp hb
  have hname : k.name.toList = l.name.toList := by
    rw [← takeWhile_of_inspectChars? hk hatext, ← takeWhile_of_inspectChars? hl hbtext]
  rw [hk, hl, Kind.name_injective (String.toList_inj.mp hname)]

/-- **What is shown of a value tells what the value says.** -/
theorem plain_eq_of_inspectChars? {a b : Value} (ha : a.kind? ≠ none) (hb : b.kind? ≠ none)
    {text : List Char} (hatext : a.inspectChars? = some text)
    (hbtext : b.inspectChars? = some text) : a.plain = b.plain := by
  cases sameKind_of_kind?_eq ha (kind?_eq_of_inspectChars? ha hb hatext hbtext) with
  | absolute n m =>
    exact congrArg (fun n => mode (.absolute n)) (Mode.absolute_eq_of_inspect? hatext hbtext)
  | symbolic cs ds =>
    have hclauses := Mode.map_plain_eq_of_inspect? (hatext.trans hbtext.symm)
    exact congrArg (fun cs => mode (.symbolic cs)) hclauses
  | clause c d =>
    exact congrArg clause (Clause.plain_eq_of_inspect (Option.some.inj (hatext.trans hbtext.symm)))
  | action a b =>
    exact congrArg action (Action.plain_eq_of_inspect (Option.some.inj (hatext.trans hbtext.symm)))

theorem plain_eq_of_inspect? {a b : Value} (ha : a.kind? ≠ none) (hb : b.kind? ≠ none)
    {text : String} (hatext : a.inspect? = some text) (hbtext : b.inspect? = some text) :
    a.plain = b.plain := by
  obtain ⟨first, hfirst, rfl⟩ := Option.map_eq_some_iff.mp hatext
  obtain ⟨second, hsecond, hsame⟩ := Option.map_eq_some_iff.mp hbtext
  obtain rfl := String.ofList_injective hsame
  exact plain_eq_of_inspectChars? ha hb hfirst hsecond

/-- **A value is shown in a text of its own, and so are all that say the same, and no others.** Let
two values be modes, clauses or actions, with any marks. The first is shown unless it is a number of
too many digits; then it is shown in no text at all. Marks, at whatever depth, decide neither
whether values say the same nor how they are shown, and values of different kinds neither say the
same nor are shown alike. -/
theorem equiv_iff_inspect?_eq {a b : Value} (ha : a.kind? ≠ none) (hb : b.kind? ≠ none) :
    ((∀ n, a = mode (.absolute n) → n.natAbs < 10 ^ maxDigits) →
      ∃ text, a.inspect? = some text ∧ (a ≈ b ↔ b.inspect? = some text)) ∧
    (∀ n, a = mode (.absolute n) → 10 ^ maxDigits ≤ n.natAbs → a.inspect? = none) ∧
    (∀ other, EqUpToMarks other a → (other ≈ b ↔ a ≈ b) ∧ other.inspect? = a.inspect?) ∧
    (a.kind? ≠ b.kind? →
      ¬ a ≈ b ∧ ∀ text, a.inspect? = some text → b.inspect? ≠ some text) := by
  have hshown {c d : Value} (hc : c.kind? ≠ none) (hd : d.kind? ≠ none) (h : c ≈ d) :
      c.inspect? = d.inspect? := by
    rw [← inspect?_plain hc, ← inspect?_plain hd, equiv_iff.mp h]
  refine ⟨fun hdigits => ?_, fun n hn hlong => ?_, fun other hother => ?_, fun hkind => ?_⟩
  · have hsome : a.inspect? ≠ none := by
      rw [ne_eq, inspect?_eq_none_iff ha]
      rintro ⟨n, hn, hlong⟩
      exact Nat.not_lt.mpr hlong (hdigits n hn)
    obtain ⟨text, htext⟩ := Option.ne_none_iff_exists'.mp hsome
    exact ⟨text, htext, fun h => (hshown ha hb h).symm.trans htext,
      fun h => plain_eq_of_inspect? ha hb htext h⟩
  · exact (inspect?_eq_none_iff ha).mpr ⟨n, hn, hlong⟩
  · have hc : other.kind? ≠ none := by cases hother <;> nofun
    have hequiv : other ≈ a := (equiv_iff_eqUpToMarks hc).mpr hother
    exact ⟨⟨fun h => (Setoid.symm hequiv).trans h, fun h => hequiv.trans h⟩, hshown hc ha hequiv⟩
  · have hne : ¬ a ≈ b := fun h => hkind (by rw [← kind?_plain a, ← kind?_plain b, equiv_iff.mp h])
    exact ⟨hne, fun text htext h => hne (plain_eq_of_inspect? ha hb htext h)⟩

/-- A number that is shown, and one that is not; a mode of one clause is shown as it would be with
marks on the clause and on its action, and it is not the clause. -/
theorem equiv_iff_inspect?_eq_single :
    ((493 : Int).natAbs < 10 ^ maxDigits ∧
      ∃ text, (mode (.absolute 493)).inspect? = some text ∧
        (mode (.absolute 493) ≈ mode (.absolute (-493)) ↔
          (mode (.absolute (-493))).inspect? = some text)) ∧
    (10 ^ maxDigits ≤ (10 ^ maxDigits : Int).natAbs ∧
      (mode (.absolute (10 ^ maxDigits))).inspect? = none) ∧
    (mode (.symbolic [⟨∅, [⟨.add, ∅, ∅, true⟩], true⟩])).inspect? =
      (mode (.symbolic [⟨∅, [⟨.add, ∅, ∅, false⟩], false⟩])).inspect? ∧
    ¬ mode (.symbolic [⟨∅, [⟨.add, ∅, ∅, false⟩], false⟩]) ≈
      clause ⟨∅, [⟨.add, ∅, ∅, false⟩], false⟩ := by
  have hlong : 10 ^ maxDigits ≤ (10 ^ maxDigits : Int).natAbs := by
    rw [Int.natAbs_pow]
    exact Nat.le_refl _
  have hshort : (493 : Int).natAbs < 10 ^ maxDigits :=
    Nat.lt_of_lt_of_le (by decide : 493 < 10 ^ 3)
      (Nat.pow_le_pow_right (by decide) (by rw [maxDigits]; decide))
  have hmarks : EqUpToMarks (mode (.symbolic [⟨∅, [⟨.add, ∅, ∅, true⟩], true⟩]))
      (mode (.symbolic [⟨∅, [⟨.add, ∅, ∅, false⟩], false⟩])) :=
    .symbolic (.cons ⟨rfl, .cons ⟨rfl, rfl, rfl⟩ .nil⟩ .nil)
  obtain ⟨htext, -, -, -⟩ := equiv_iff_inspect?_eq (a := mode (.absolute 493))
    (b := mode (.absolute (-493))) nofun nofun
  obtain ⟨-, hnone, -, -⟩ := equiv_iff_inspect?_eq (a := mode (.absolute (10 ^ maxDigits)))
    (b := mode (.absolute 0)) nofun nofun
  obtain ⟨-, -, hsame, hkind⟩ := equiv_iff_inspect?_eq
    (a := mode (.symbolic [⟨∅, [⟨.add, ∅, ∅, false⟩], false⟩]))
    (b := clause ⟨∅, [⟨.add, ∅, ∅, false⟩], false⟩) nofun nofun
  refine ⟨⟨hshort, htext ?_⟩, ⟨hlong, hnone _ rfl hlong⟩, (hsame _ hmarks).2, (hkind nofun).1⟩
  rintro n heq
  cases heq
  exact hshort

/-- **The bound on digits cannot be left out.** The least number of too many digits says the same as
itself, and no text shows it; and it is shown no other than the number behind it, with which it does
not say the same. -/
theorem exists_equiv_inspect?_eq_none :
    mode (.absolute (10 ^ maxDigits)) ≈ mode (.absolute (10 ^ maxDigits)) ∧
    (¬ ∃ text, (mode (.absolute (10 ^ maxDigits))).inspect? = some text) ∧
    ¬ mode (.absolute (10 ^ maxDigits)) ≈ mode (.absolute (10 ^ maxDigits + 1)) ∧
    (mode (.absolute (10 ^ maxDigits))).inspect? =
      (mode (.absolute (10 ^ maxDigits + 1))).inspect? := by
  have hnone (k : Nat) : (mode (.absolute (10 ^ maxDigits + k))).inspect? = none := by
    refine (inspect?_eq_none_iff (a := mode (.absolute (10 ^ maxDigits + k))) nofun).mpr
      ⟨_, rfl, ?_⟩
    rw [show (10 : Int) ^ maxDigits = ((10 ^ maxDigits : Nat) : Int) from
      (Int.natCast_pow 10 maxDigits).symm, ← Int.natCast_add, Int.natAbs_natCast]
    exact Nat.le_add_right _ k
  have hfirst : (mode (.absolute (10 ^ maxDigits))).inspect? = none := by
    have hzero := hnone 0
    rwa [Int.natCast_zero, Int.add_zero] at hzero
  refine ⟨Setoid.refl _, fun ⟨text, htext⟩ => ?_, fun heq => ?_, hfirst.trans (hnone 1).symm⟩
  · rw [hfirst] at htext
    contradiction
  · exact Int.ne_of_lt (Int.lt_succ _) (Mode.absolute.inj (mode.inj heq))

end Value

end FileMode
