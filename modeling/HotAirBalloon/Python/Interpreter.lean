import HotAirBalloon.Python.Text
import HotAirBalloon.Python.Value

/-!
# The running interpreter

What the language leaves to the interpreter that runs the program: the Unicode tables, the
order in which a `frozenset` of strings is iterated (it changes with the hash seed of the
process), the shortest text that reads back as a float, and `str()` of values that are not
strings.
-/

namespace HotAirBalloon.Python

structure Interpreter extends UnicodeData where
  /-- The order in which a `frozenset` with these members is iterated. -/
  setOrder : List String → List String
  setOrder_perm : ∀ members, (setOrder members).Perm members
  /-- `float.__repr__` of a finite number. -/
  floatRepr : ℚ → String
  /-- `str(value)`. -/
  str : Value → String
  str_str : ∀ s, str (.str s) = s

/-- An interpreter that knows ASCII, iterates sets in the order of their literals and writes
integers and constants as Python does. -/
def Interpreter.ascii : Interpreter where
  toUnicodeData := .ascii
  setOrder members := members
  setOrder_perm members := List.Perm.refl members
  floatRepr _ := "0.0"
  str
    | .none => "None"
    | .bool b => if b then "True" else "False"
    | .int i => toString i
    | .str s => s
    | _ => "..."
  str_str _ := rfl

end HotAirBalloon.Python
