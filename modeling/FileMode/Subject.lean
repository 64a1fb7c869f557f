/-!
# Subjects

The three parties whose access to a file is kept apart, each named by one letter, and the sets of
them. A set is written as its letters in the order `u`, `g`, `o`, each at most once, so **a set has
exactly one written form** whatever the order in which it was put together.

In front of a clause a fourth letter, `a`, stands for all three parties at once; it names a set of
subjects and is never the name of a subject, which is why it cannot be copied from.
-/

namespace FileMode

/-- A party whose access to a file is kept apart from that of the others. -/
inductive Subject where
  | user
  | group
  | others
deriving DecidableEq, Inhabited

namespace Subject

/-- The subjects in the order in which they are written. -/
def all : List Subject := [user, group, others]

/-- The letter that names a subject. -/
def letter : Subject → Char
  | user => 'u'
  | group => 'g'
  | others => 'o'

/-- The subject that a letter names. -/
def ofLetter? : Char → Option Subject
  | 'u' => some user
  | 'g' => some group
  | 'o' => some others
  | _ => none

@[simp] theorem ofLetter?_letter (s : Subject) : ofLetter? s.letter = some s := by
  cases s <;> rfl

/-- Only its own letter names a subject. -/
theorem ofLetter?_eq_some_iff {c : Char} {s : Subject} : ofLetter? c = some s ↔ c = s.letter := by
  refine ⟨fun h => ?_, fun h => h ▸ ofLetter?_letter s⟩
  unfold ofLetter? at h
  split at h <;> cases h <;> rfl

theorem mem_all (s : Subject) : s ∈ all := by
  cases s <;> decide

end Subject

/-- A set of subjects. -/
structure SubjectSet where
  user : Bool := false
  group : Bool := false
  others : Bool := false
deriving DecidableEq, Inhabited

namespace SubjectSet

/-- Whether a subject belongs to the set. -/
def contains (set : SubjectSet) : Subject → Bool
  | .user => set.user
  | .group => set.group
  | .others => set.others

instance : EmptyCollection SubjectSet := ⟨⟨false, false, false⟩⟩

instance : Membership Subject SubjectSet := ⟨fun set s => set.contains s = true⟩

/-- The set of all three subjects. -/
def everyone : SubjectSet := ⟨true, true, true⟩

/-- The set with one more subject in it. -/
def insert (set : SubjectSet) : Subject → SubjectSet
  | .user => { set with user := true }
  | .group => { set with group := true }
  | .others => { set with others := true }

/-- The set of the subjects in either set. -/
def union (set more : SubjectSet) : SubjectSet :=
  ⟨set.user || more.user, set.group || more.group, set.others || more.others⟩

instance : Union SubjectSet := ⟨union⟩

/-- The set of the subjects in a list. -/
def ofList (subjects : List Subject) : SubjectSet := subjects.foldl insert ∅

/-- The members in the order in which they are written. -/
def toList (set : SubjectSet) : List Subject := Subject.all.filter set.contains

/-- The letters of the members in written order. -/
def letters (set : SubjectSet) : List Char := set.toList.map Subject.letter

/-- The set that a letter in front of a clause names: `a` names all three subjects, the letter of a
subject that subject alone. -/
def named? (c : Char) : Option SubjectSet :=
  if c = 'a' then some everyone else (Subject.ofLetter? c).map (insert ∅)

theorem mem_iff {set : SubjectSet} {s : Subject} : s ∈ set ↔ set.contains s = true := Iff.rfl

instance (set : SubjectSet) (s : Subject) : Decidable (s ∈ set) :=
  decidable_of_iff (set.contains s = true) mem_iff

/-- A set is determined by its members. -/
theorem ext_mem {set other : SubjectSet} (h : ∀ s, s ∈ set ↔ s ∈ other) : set = other := by
  obtain ⟨u, g, o⟩ := set
  obtain ⟨u', g', o'⟩ := other
  have hu : u = true ↔ u' = true := h .user
  have hg : g = true ↔ g' = true := h .group
  have ho : o = true ↔ o' = true := h .others
  simp only [mk.injEq]
  exact ⟨Bool.eq_iff_iff.mpr hu, Bool.eq_iff_iff.mpr hg, Bool.eq_iff_iff.mpr ho⟩

@[simp] theorem not_mem_empty (s : Subject) : s ∉ (∅ : SubjectSet) := by
  cases s <;> decide

@[simp] theorem mem_everyone (s : Subject) : s ∈ everyone := by
  cases s <;> decide

@[simp] theorem mem_insert {set : SubjectSet} {s t : Subject} :
    s ∈ set.insert t ↔ s = t ∨ s ∈ set := by
  cases s <;> cases t <;> simp [mem_iff, contains, insert]

@[simp] theorem mem_union {set more : SubjectSet} {s : Subject} :
    s ∈ set ∪ more ↔ s ∈ set ∨ s ∈ more := by
  cases s <;> simp [mem_iff, contains, Union.union, union]

@[simp] theorem mem_toList {set : SubjectSet} {s : Subject} : s ∈ set.toList ↔ s ∈ set := by
  simp [toList, Subject.mem_all, mem_iff]

@[simp] theorem mem_ofList {subjects : List Subject} {s : Subject} :
    s ∈ ofList subjects ↔ s ∈ subjects := by
  suffices h : ∀ (l : List Subject) (set : SubjectSet),
      s ∈ l.foldl insert set ↔ s ∈ l ∨ s ∈ set by
    simpa [ofList] using h subjects ∅
  intro l
  induction l with
  | nil => simp
  | cons t rest ih =>
    intro set
    rw [List.foldl_cons, ih, mem_insert, List.mem_cons, or_assoc, or_left_comm]

end SubjectSet

end FileMode
