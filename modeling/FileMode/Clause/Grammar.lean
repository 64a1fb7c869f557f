import FileMode.Clause

/-!
# The grammar of clauses

The written form of clauses as a grammar, independent of how they are scanned. A text is a list of
**segments** with a comma between them; a segment is letters for subjects followed by **phrases**,
each a symbol with an operand that either copies from at least one subject or spells out any number
of permissions:

    segment  ::=  who* phrase*
    who      ::=  u | g | o | a
    phrase   ::=  operator (subject+ | permission*)

A segment keeps letters as they stand, in their order and with their repetitions; `Segment.clause?`
says what it means, where order and repetition are lost. An empty segment means nothing.
-/

namespace FileMode

/-- A letter in front of a clause: one subject, or all of them. -/
inductive Who where
  | one (subject : Subject)
  | everyone
deriving DecidableEq

namespace Who

/-- The letter itself. -/
def letter : Who → Char
  | one s => s.letter
  | everyone => 'a'

/-- The subjects that the letter names. -/
def subjects : Who → List Subject
  | one s => [s]
  | everyone => Subject.all

end Who

/-- What stands behind a symbol: subjects to copy from, at least one, or permissions. -/
inductive Operand where
  | copied (first : Subject) (more : List Subject)
  | spelled (permissions : List Permission)
deriving DecidableEq

namespace Operand

/-- The text of an operand. -/
def chars : Operand → List Char
  | copied first more => (first :: more).map Subject.letter
  | spelled permissions => permissions.map Permission.letter

/-- The subjects that an operand copies from. -/
def copies : Operand → List Subject
  | copied first more => first :: more
  | spelled _ => []

/-- The permissions that an operand spells out. -/
def permissions : Operand → List Permission
  | copied _ _ => []
  | spelled permissions => permissions

end Operand

/-- A symbol and its operand. -/
structure Phrase where
  operator : Operator
  operand : Operand
deriving DecidableEq

namespace Phrase

/-- The text of a phrase. -/
def chars (p : Phrase) : List Char := p.operator.symbol :: p.operand.chars

/-- The action that a phrase means. -/
def action (p : Phrase) : Action :=
  ⟨p.operator, SubjectSet.ofList p.operand.copies, PermissionSet.ofList p.operand.permissions, true⟩

end Phrase

/-- What stands between two commas. -/
structure Segment where
  who : List Who
  phrases : List Phrase
deriving DecidableEq

namespace Segment

/-- The text of a segment. -/
def chars (s : Segment) : List Char := s.who.map Who.letter ++ s.phrases.flatMap Phrase.chars

/-- The clause that a segment means, if it is not empty. -/
def clause? (s : Segment) : Option Clause :=
  if s.who = [] ∧ s.phrases = [] then none
  else some ⟨SubjectSet.ofList (s.who.flatMap Who.subjects), s.phrases.map Phrase.action, true⟩

end Segment

/-- The text of segments: a comma stands between any two. -/
def Segment.charsOfList (segments : List Segment) : List Char :=
  [','].intercalate (segments.map Segment.chars)

/-- A text **is derived** from segments when it is their text; there has to be one at least, and the
empty text is derived from the empty segment. -/
def Derived (text : List Char) (segments : List Segment) : Prop :=
  segments ≠ [] ∧ text = Segment.charsOfList segments

/-- The empty text is derived from one empty segment. -/
theorem derived_nil : Derived [] [⟨[], []⟩] := ⟨by simp, rfl⟩

end FileMode
