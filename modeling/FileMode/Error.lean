import FileMode.Mode.Reading
import FileMode.Mode.Rendering
import FileMode.Value.Inspection

/-!
# Failures

Three things can fail: a text need not be a mode, a text need not be an operator, and a value need
not be a mode. Each failure keeps what it was that failed, and puts it into words.
-/

namespace FileMode

/-- Why no mode could be had, or nothing be done with it. -/
inductive Error where
  /-- A character cannot stand where it does. -/
  | unexpected (reason : Unexpected)
  /-- A text is not the symbol of an operator. -/
  | unknownOperator (text : String)
  /-- A value is not a mode. -/
  | notAMode (value : Value)
deriving DecidableEq

/-- The failure in words. Where a value would be named that cannot be shown, only this is said. -/
def Error.message : Error → String
  | unexpected reason => reason.message
  | unknownOperator text => Text.quoted text ++ " is not a valid Op"
  | notAMode value => (if value.inspect?.isSome then "not a mode: " else "") ++ value.inspect

/-- The operator that a text stands for. -/
def Operator.parse (text : String) : Except Error Operator :=
  match ofText? text with
  | some o => .ok o
  | none => .error (.unknownOperator text)

namespace Value

/-- The value of a text that means a mode. -/
def parse (text : String) : Except Error Value :=
  match Mode.parse text with
  | .ok m => .ok (mode m)
  | .error reason => .error (.unexpected reason)

/-- The mode that a value is. -/
def asMode : Value → Except Error Mode
  | mode m => .ok m
  | other => .error (.notAMode other)

/-- The canonical text of a value that is a mode. -/
def render (v : Value) : Except Error String := v.asMode.map Mode.render

/-- The kind and the canonical text of a value that is a mode. -/
def describe (v : Value) : Except Error String := v.asMode.map Mode.describe

end Value

end FileMode
