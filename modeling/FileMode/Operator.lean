/-!
# Operators

What an action does with the access that it names: grant it, take it away, or grant it and nothing
else. Each operator is written as one symbol, and a text names an operator **only if it is that
symbol and nothing more**: no blank around it and no word for it counts.
-/

namespace FileMode

/-- What an action does with the access that it names. -/
inductive Operator where
  | add
  | remove
  /-- Grant the access that is named and take away all other. -/
  | set
deriving DecidableEq, Inhabited

namespace Operator

/-- The symbol by which an operator is written. -/
def symbol : Operator → Char
  | add => '+'
  | remove => '-'
  | set => '='

/-- The operator that a symbol stands for. -/
def ofSymbol? : Char → Option Operator
  | '+' => some add
  | '-' => some remove
  | '=' => some set
  | _ => none

/-- The operator that a whole text stands for. -/
def ofText? (text : String) : Option Operator :=
  match text.toList with
  | [c] => ofSymbol? c
  | _ => none

@[simp] theorem ofSymbol?_symbol (o : Operator) : ofSymbol? o.symbol = some o := by
  cases o <;> rfl

/-- Only its own symbol stands for an operator. -/
theorem ofSymbol?_eq_some_iff {c : Char} {o : Operator} :
    ofSymbol? c = some o ↔ c = o.symbol := by
  refine ⟨fun h => ?_, fun h => h ▸ ofSymbol?_symbol o⟩
  unfold ofSymbol? at h
  split at h <;> cases h <;> rfl

end Operator

end FileMode
