import FileMode.Proofs.Kinds
import Mathlib.Data.List.Forall2

/-!
# The meaning of clauses, letter by letter

`Segment.clause?` computes the clause that a segment means. Here the same is said without computing
anything: which letters of the text stand behind each subject, operator and permission of the
clause. The main statement is **exactness** (`Mode.parse_iff_derived`): a text that is no numeral is
a mode exactly if the grammar derives it, and then every segment that is not empty has its one
clause, in order, with what its letters say and with nothing else.

No claim is made about numerals, which are modes whatever the grammar says.
-/

namespace FileMode

/-- An action **means what a phrase writes** when the operator is that of the phrase, and a subject
is copied from, or a permission spelled out, exactly if its letter stands in the operand. -/
structure Phrase.Means (p : Phrase) (a : Action) : Prop where
  operator : a.operator = p.operator
  copies : ∀ s, s ∈ a.copies ↔ s.letter ∈ p.operand.chars
  permissions : ∀ q, q ∈ a.permissions ↔ q.letter ∈ p.operand.chars
  touched : a.touched = true

/-- A clause **means what a segment writes** when a subject is addressed exactly if its letter or
the letter `a` stands in front, and the actions mean what the phrases write, one by one; their
operators are then the symbols of the segment. -/
structure Segment.Means (s : Segment) (c : Clause) : Prop where
  subjects : ∀ x : Subject,
    x ∈ c.subjects ↔ x.letter ∈ s.who.map Who.letter ∨ 'a' ∈ s.who.map Who.letter
  actions : List.Forall₂ Phrase.Means s.phrases c.actions
  symbols : c.actions.map (fun a => a.operator.symbol) =
    s.chars.filter fun d => (Operator.ofSymbol? d).isSome
  touched : c.touched = true

/-! ### Letters of operands -/

theorem Subject.letter_injective : Function.Injective letter :=
  Function.IsPartialInv.injective fun _ _ => ofLetter?_eq_some_iff.trans eq_comm

theorem Permission.letter_injective : Function.Injective letter :=
  Function.IsPartialInv.injective fun _ _ => ofLetter?_eq_some_iff.trans eq_comm

theorem Who.letter_injective : Function.Injective letter :=
  Function.IsPartialInv.injective fun _ _ => ofLetter?_eq_some_iff.trans eq_comm

/-- No letter is both that of a subject and that of a permission. -/
theorem Subject.letter_ne_permissionLetter (s : Subject) (p : Permission) :
    s.letter ≠ p.letter := by
  intro h
  have hs := ofLetter?_letter s
  rw [h, ofLetter?_permissionLetter] at hs
  contradiction

namespace Operand

/-- An operand copies from the subjects whose letters it has. -/
theorem mem_copies_iff {o : Operand} {s : Subject} : s ∈ o.copies ↔ s.letter ∈ o.chars := by
  rcases o with ⟨first, more⟩ | permissions
  · rw [copies, chars, List.mem_map_of_injective Subject.letter_injective]
  · refine iff_of_false List.not_mem_nil fun hs => ?_
    obtain ⟨p, -, hp⟩ := List.mem_map.mp hs
    exact s.letter_ne_permissionLetter p hp.symm

/-- An operand spells out the permissions whose letters it has. -/
theorem mem_permissions_iff {o : Operand} {p : Permission} :
    p ∈ o.permissions ↔ p.letter ∈ o.chars := by
  rcases o with ⟨first, more⟩ | permissions
  · refine iff_of_false List.not_mem_nil fun hp => ?_
    obtain ⟨s, -, hs⟩ := List.mem_map.mp hp
    exact s.letter_ne_permissionLetter p hs
  · rw [Operand.permissions, chars, List.mem_map_of_injective Permission.letter_injective]

/-- An operand has no symbols. -/
theorem ofSymbol?_of_mem_chars {o : Operand} {c : Char} (h : c ∈ o.chars) :
    Operator.ofSymbol? c = none := by
  rcases o with ⟨first, more⟩ | permissions
  · obtain ⟨s, -, rfl⟩ := List.mem_map.mp h
    exact Operator.ofSymbol?_subjectLetter s
  · obtain ⟨p, -, rfl⟩ := List.mem_map.mp h
    exact Operator.ofSymbol?_permissionLetter p

end Operand

/-- The action of a phrase means what the phrase writes. -/
theorem Phrase.means_action (p : Phrase) : p.Means p.action where
  operator := rfl
  copies _ := SubjectSet.mem_ofList.trans Operand.mem_copies_iff
  permissions _ := PermissionSet.mem_ofList.trans Operand.mem_permissions_iff
  touched := rfl

/-- The one symbol of a phrase is that of its operator. -/
theorem Phrase.filter_chars (p : Phrase) :
    p.chars.filter (fun d => (Operator.ofSymbol? d).isSome) = [p.operator.symbol] := by
  rw [chars, List.filter_cons_of_pos (by simp), List.filter_eq_nil_iff.mpr fun d hd => ?_]
  rw [Operand.ofSymbol?_of_mem_chars hd]
  decide

namespace Segment

/-- The symbols of a segment are those of its phrases. -/
theorem filter_chars (s : Segment) :
    s.chars.filter (fun d => (Operator.ofSymbol? d).isSome) =
      s.phrases.map fun p => p.operator.symbol := by
  have hwho : (s.who.map Who.letter).filter (fun d => (Operator.ofSymbol? d).isSome) = [] := by
    refine List.filter_eq_nil_iff.mpr fun d hd => ?_
    obtain ⟨w, -, rfl⟩ := List.mem_map.mp hd
    simp
  rw [chars, List.filter_append, hwho, List.filter_flatMap]
  simp only [Phrase.filter_chars, List.nil_append]
  exact List.flatMap_pure_eq_map _ _

/-- Letters in front of a clause name the subjects that have their letter among them, or all if the
letter `a` is. -/
theorem mem_flatMap_subjects_iff {who : List Who} {x : Subject} :
    x ∈ who.flatMap Who.subjects ↔
      x.letter ∈ who.map Who.letter ∨ 'a' ∈ who.map Who.letter := by
  rw [List.mem_flatMap]
  constructor
  · rintro ⟨s | _, hw, hx⟩
    · obtain rfl := List.mem_singleton.mp hx
      exact .inl (List.mem_map.mpr ⟨.one x, hw, rfl⟩)
    · exact .inr (List.mem_map.mpr ⟨.everyone, hw, rfl⟩)
  · rintro (h | h)
    · obtain ⟨w, hw, hletter⟩ := List.mem_map.mp h
      obtain rfl : w = .one x := Who.letter_injective hletter
      exact ⟨.one x, hw, List.mem_singleton_self x⟩
    · obtain ⟨w, hw, hletter⟩ := List.mem_map.mp h
      obtain rfl : w = .everyone := Who.letter_injective hletter
      exact ⟨.everyone, hw, x.mem_all⟩

/-- The clause that a segment means, if it is not empty, means what the segment writes. -/
theorem means_of_clause? {s : Segment} {c : Clause} (h : s.clause? = some c) : s.Means c := by
  rw [clause?] at h
  split at h
  · contradiction
  · cases h
    refine ⟨fun x => SubjectSet.mem_ofList.trans mem_flatMap_subjects_iff, ?_, ?_, rfl⟩
    · exact List.forall₂_map_right_iff.mpr (List.forall₂_same.mpr fun p _ => p.means_action)
    · rw [filter_chars, List.map_map]
      rfl

/-- A segment means no clause exactly if it is empty. -/
theorem clause?_eq_none_iff {s : Segment} : s.clause? = none ↔ s.chars = [] := by
  have hphrases : s.phrases.flatMap Phrase.chars = [] ↔ s.phrases = [] := by
    rcases s.phrases with _ | ⟨p, rest⟩ <;> simp [Phrase.chars]
  rw [clause?, chars, List.append_eq_nil_iff, List.map_eq_nil_iff, hphrases]
  split <;> simp [*]

/-- The segments that are not empty mean one clause each, in order. -/
theorem forall₂_means (segments : List Segment) :
    List.Forall₂ Means (segments.filter fun s => s.chars ≠ []) (segments.filterMap clause?) := by
  induction segments with
  | nil => exact .nil
  | cons s rest ih =>
    by_cases hs : s.chars = []
    · rw [List.filter_cons_of_neg (by simpa using hs),
        List.filterMap_cons_none (clause?_eq_none_iff.mpr hs)]
      exact ih
    · obtain ⟨c, hc⟩ := Option.ne_none_iff_exists'.mp (mt clause?_eq_none_iff.mp hs)
      rw [List.filter_cons_of_pos (by simpa using hs), List.filterMap_cons_some hc]
      exact .cons (means_of_clause? hc) ih

end Segment

/-- **Exactness.** A text that is no numeral is a mode exactly if the grammar derives it. It is then
symbolic, and the segments that are not empty mean its clauses, one by one and in order. -/
theorem Mode.parse_iff_derived {text : String} (h : Octal.read? text.toList = none) :
    ((∃ m, parse text = .ok m) ↔ ∃ segments, Derived text.toList segments) ∧
      ∀ segments, Derived text.toList segments →
        ∃ clauses, parse text = .ok (.symbolic clauses) ∧
          List.Forall₂ Segment.Means (segments.filter fun s => s.chars ≠ []) clauses := by
  have hread : ∀ segments, Derived text.toList segments →
      parse text = .ok (.symbolic (segments.filterMap Segment.clause?)) :=
    fun segments hs => ofChars_eq_symbolic_iff.mpr ⟨segments, hs, rfl⟩
  refine ⟨⟨?_, fun ⟨segments, hs⟩ => ⟨_, hread segments hs⟩⟩,
    fun segments hs => ⟨_, hread segments hs, Segment.forall₂_means segments⟩⟩
  rintro ⟨value | clauses, hm⟩
  · obtain ⟨n, hn, -⟩ := ofChars_eq_absolute_iff.mp hm
    rw [h] at hn
    contradiction
  · obtain ⟨segments, hs, -⟩ := ofChars_eq_symbolic_iff.mp hm
    exact ⟨segments, hs⟩

/-- Letters out of order, an empty segment, and copying in front of a second action. -/
theorem Mode.parse_iff_derived_chained :
    Octal.read? "gu=wr,,a+ug-x".toList = none ∧
      ∃ clauses, parse "gu=wr,,a+ug-x" = .ok (.symbolic clauses) ∧
        List.Forall₂ Segment.Means
          [⟨[.one .group, .one .user], [⟨.set, .spelled [.write, .read]⟩]⟩,
            ⟨[.everyone], [⟨.add, .copied .user [.group]⟩, ⟨.remove, .spelled [.execute]⟩]⟩]
          clauses := by
  have hnone : Octal.read? "gu=wr,,a+ug-x".toList = none := by decide
  exact ⟨hnone, (parse_iff_derived hnone).2
    [⟨[.one .group, .one .user], [⟨.set, .spelled [.write, .read]⟩]⟩, ⟨[], []⟩,
      ⟨[.everyone], [⟨.add, .copied .user [.group]⟩, ⟨.remove, .spelled [.execute]⟩]⟩]
    ⟨by simp, by decide⟩⟩

end FileMode
