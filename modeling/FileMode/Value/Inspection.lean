import FileMode.Value
import FileMode.Text.Quoted

/-!
# Values shown in full

Where a rendering gives a mode's text, an inspection gives its make-up: the name of the kind, and
in brackets every field with its name, whether or not it has its default value. Marks are left out.

Numbers are shown in base ten, and only if they have **no more than a fixed number of digits**
(`maxDigits`); a value that holds a longer one is not shown at all (`Value.inspect?`). The rendering
of a mode, which is in base eight, knows no such bound.
-/

namespace FileMode

/-- A truth value in words. -/
def inspectTruth (b : Bool) : List Char := (if b then "True" else "False").toList

/-- An integer in base ten. -/
def decimal : Int → List Char
  | .ofNat n => Nat.toDigits 10 n
  | .negSucc n => '-' :: Nat.toDigits 10 (n + 1)

/-- The most digits that a number is shown with. -/
@[irreducible] def maxDigits : Nat := 4300

/-- What is said in place of a number that has more. -/
def tooManyDigits : String :=
  "Exceeds the limit (4300 digits) for integer string conversion; " ++
    "use sys.set_int_max_str_digits() to increase the limit"

/-- An integer in base ten, unless it has too many digits; the sign is not counted. -/
def inspectNumber? (n : Int) : Option (List Char) :=
  if (Nat.toDigits 10 n.natAbs).length ≤ maxDigits then some (decimal n) else none

/-- Items in square brackets, with a comma and a space between any two. -/
def inspectList (items : List (List Char)) : List Char :=
  '[' :: ([',', ' '].intercalate items ++ [']'])

/-- The name of a kind, and in brackets the fields with their names, a comma and a space between any
two. -/
def inspectRecord (kind : String) (fields : List (String × List Char)) : List Char :=
  kind.toList ++ '(' ::
    ([',', ' '].intercalate (fields.map fun field => field.1.toList ++ '=' :: field.2) ++ [')'])

/-- The name of an operator. -/
def Operator.name : Operator → String
  | add => "ADD"
  | remove => "REMOVE"
  | set => "SET"

/-- An operator with its name and its symbol. -/
def Operator.inspect (o : Operator) : List Char :=
  "<Op.".toList ++ o.name.toList ++ [':', ' ', '\'', o.symbol, '\'', '>']

/-- The fields of an action. -/
def Action.fields (a : Action) : List (String × List Char) :=
  [("op", a.operator.inspect),
   ("copy_user", inspectTruth a.copies.user),
   ("copy_group", inspectTruth a.copies.group),
   ("copy_others", inspectTruth a.copies.others),
   ("read", inspectTruth a.permissions.read),
   ("write", inspectTruth a.permissions.write),
   ("execute", inspectTruth a.permissions.execute),
   ("execute_dir", inspectTruth a.permissions.executeDir),
   ("setid", inspectTruth a.permissions.setId),
   ("sticky", inspectTruth a.permissions.sticky)]

/-- An action with all its fields. -/
def Action.inspect (a : Action) : List Char := inspectRecord "Action" a.fields

/-- The fields of a clause. -/
def Clause.fields (c : Clause) : List (String × List Char) :=
  [("user", inspectTruth c.subjects.user),
   ("group", inspectTruth c.subjects.group),
   ("others", inspectTruth c.subjects.others),
   ("actions", inspectList (c.actions.map Action.inspect))]

/-- A clause with all its fields. -/
def Clause.inspect (c : Clause) : List Char := inspectRecord "Clause" c.fields

/-- A mode with its kind and what it holds, if that can be shown. -/
def Mode.inspect? : Mode → Option (List Char)
  | absolute n => (inspectNumber? n).map fun digits => inspectRecord "Absolute" [("value", digits)]
  | symbolic cs =>
    some (inspectRecord "Symbolic" [("clauses", inspectList (cs.map Clause.inspect))])

/-- Plain data, if they can be shown. -/
def Literal.inspect? : Literal → Option (List Char)
  | text t => some (Text.quotedChars t.toList)
  | number n => inspectNumber? n
  | truth b => some (inspectTruth b)
  | nothing => some "None".toList
  | emptyList => some (inspectList [])

/-- A value, one character after another, if it can be shown. -/
def Value.inspectChars? : Value → Option (List Char)
  | mode m => m.inspect?
  | clause c => some c.inspect
  | action a => some a.inspect
  | literal l => l.inspect?

/-- **A value shown in full**, if it can be shown. -/
def Value.inspect? (v : Value) : Option String := v.inspectChars?.map String.ofList

/-- A value shown in full, or what is said in place of it. -/
def Value.inspect (v : Value) : String := v.inspect?.getD tooManyDigits

/-- Marks do not show in an action. -/
@[simp] theorem Action.inspect_plain (a : Action) : a.plain.inspect = a.inspect := rfl

/-- Marks do not show in a clause. -/
@[simp] theorem Clause.inspect_plain (c : Clause) : c.plain.inspect = c.inspect := by
  have h : (c.actions.map Action.plain).map Action.inspect = c.actions.map Action.inspect := by
    rw [List.map_map]
    rfl
  unfold Clause.inspect Clause.fields
  rw [show c.plain.actions.map Action.inspect = _ from h]
  rfl

/-- Marks do not show in a mode. -/
@[simp] theorem Mode.inspect?_plain (m : Mode) : m.plain.inspect? = m.inspect? := by
  cases m with
  | absolute n => rfl
  | symbolic cs =>
    have h : (cs.map Clause.plain).map Clause.inspect = cs.map Clause.inspect := by
      rw [List.map_map]
      exact List.map_congr_left fun c _ => c.inspect_plain
    unfold Mode.inspect? Mode.plain
    exact congrArg (fun items => some (inspectRecord "Symbolic" [("clauses", inspectList items)])) h

end FileMode
