/-!
# Permissions

The six kinds of access that an action can spell out, each named by one letter, and the sets of
them. As with subjects, a set is written as its letters in one fixed order, `r`, `w`, `x`, `X`, `s`,
`t`, so **a set has exactly one written form**.

What a permission does to a file is no concern of this library: `x` and `X` differ here by their
letter and by nothing else.
-/

namespace FileMode

/-- A kind of access that an action can spell out. -/
inductive Permission where
  | read
  | write
  | execute
  /-- Execution, for directories and for what someone may execute already. -/
  | executeDir
  /-- Running with the identity of the owner or of the group. -/
  | setId
  | sticky
deriving DecidableEq, Inhabited

namespace Permission

/-- The permissions in the order in which they are written. -/
def all : List Permission := [read, write, execute, executeDir, setId, sticky]

/-- The letter that names a permission. -/
def letter : Permission → Char
  | read => 'r'
  | write => 'w'
  | execute => 'x'
  | executeDir => 'X'
  | setId => 's'
  | sticky => 't'

/-- The permission that a letter names. -/
def ofLetter? : Char → Option Permission
  | 'r' => some read
  | 'w' => some write
  | 'x' => some execute
  | 'X' => some executeDir
  | 's' => some setId
  | 't' => some sticky
  | _ => none

@[simp] theorem ofLetter?_letter (p : Permission) : ofLetter? p.letter = some p := by
  cases p <;> rfl

/-- Only its own letter names a permission. -/
theorem ofLetter?_eq_some_iff {c : Char} {p : Permission} :
    ofLetter? c = some p ↔ c = p.letter := by
  refine ⟨fun h => ?_, fun h => h ▸ ofLetter?_letter p⟩
  unfold ofLetter? at h
  split at h <;> cases h <;> rfl

theorem mem_all (p : Permission) : p ∈ all := by
  cases p <;> decide

end Permission

/-- A set of permissions. -/
structure PermissionSet where
  read : Bool := false
  write : Bool := false
  execute : Bool := false
  executeDir : Bool := false
  setId : Bool := false
  sticky : Bool := false
deriving DecidableEq, Inhabited

namespace PermissionSet

/-- Whether a permission belongs to the set. -/
def contains (set : PermissionSet) : Permission → Bool
  | .read => set.read
  | .write => set.write
  | .execute => set.execute
  | .executeDir => set.executeDir
  | .setId => set.setId
  | .sticky => set.sticky

instance : EmptyCollection PermissionSet := ⟨⟨false, false, false, false, false, false⟩⟩

instance : Membership Permission PermissionSet := ⟨fun set p => set.contains p = true⟩

/-- The set with one more permission in it. -/
def insert (set : PermissionSet) : Permission → PermissionSet
  | .read => { set with read := true }
  | .write => { set with write := true }
  | .execute => { set with execute := true }
  | .executeDir => { set with executeDir := true }
  | .setId => { set with setId := true }
  | .sticky => { set with sticky := true }

/-- The set of the permissions in a list. -/
def ofList (permissions : List Permission) : PermissionSet := permissions.foldl insert ∅

/-- The members in the order in which they are written. -/
def toList (set : PermissionSet) : List Permission := Permission.all.filter set.contains

/-- The letters of the members in written order. -/
def letters (set : PermissionSet) : List Char := set.toList.map Permission.letter

theorem mem_iff {set : PermissionSet} {p : Permission} :
    p ∈ set ↔ set.contains p = true := Iff.rfl

instance (set : PermissionSet) (p : Permission) : Decidable (p ∈ set) :=
  decidable_of_iff (set.contains p = true) mem_iff

/-- A set is determined by its members. -/
theorem ext_mem {set other : PermissionSet} (h : ∀ p, p ∈ set ↔ p ∈ other) : set = other := by
  obtain ⟨r, w, x, d, s, t⟩ := set
  obtain ⟨r', w', x', d', s', t'⟩ := other
  have hr : r = true ↔ r' = true := h .read
  have hw : w = true ↔ w' = true := h .write
  have hx : x = true ↔ x' = true := h .execute
  have hd : d = true ↔ d' = true := h .executeDir
  have hs : s = true ↔ s' = true := h .setId
  have ht : t = true ↔ t' = true := h .sticky
  simp only [mk.injEq]
  exact ⟨Bool.eq_iff_iff.mpr hr, Bool.eq_iff_iff.mpr hw, Bool.eq_iff_iff.mpr hx,
    Bool.eq_iff_iff.mpr hd, Bool.eq_iff_iff.mpr hs, Bool.eq_iff_iff.mpr ht⟩

@[simp] theorem not_mem_empty (p : Permission) : p ∉ (∅ : PermissionSet) := by
  cases p <;> decide

@[simp] theorem mem_insert {set : PermissionSet} {p q : Permission} :
    p ∈ set.insert q ↔ p = q ∨ p ∈ set := by
  cases p <;> cases q <;> simp [mem_iff, contains, insert]

@[simp] theorem mem_toList {set : PermissionSet} {p : Permission} :
    p ∈ set.toList ↔ p ∈ set := by
  simp [toList, Permission.mem_all, mem_iff]

@[simp] theorem mem_ofList {permissions : List Permission} {p : Permission} :
    p ∈ ofList permissions ↔ p ∈ permissions := by
  suffices h : ∀ (l : List Permission) (set : PermissionSet),
      p ∈ l.foldl insert set ↔ p ∈ l ∨ p ∈ set by
    simpa [ofList] using h permissions ∅
  intro l
  induction l with
  | nil => simp
  | cons q rest ih =>
    intro set
    rw [List.foldl_cons, ih, mem_insert, List.mem_cons, or_assoc, or_left_comm]

end PermissionSet

end FileMode
