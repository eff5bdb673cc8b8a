import HotAirBalloon.Python.Interpreter
import HotAirBalloon.Python.Uuid

/-!
# `json.dumps`

The text that `json.dumps(value, separators=(",", ":"), ensure_ascii=True)` writes. An
integer of more than 4300 digits has no decimal text in Python, so writing can raise.
-/

namespace HotAirBalloon.Python.Json

variable (py : Interpreter)

/-- `\uXXXX`. -/
def unicodeEscape (n : Nat) : String := "\\u" ++ String.ofList (Uuid.hexDigits 4 n)

/-- A character of a string, escaped where it is not printable ASCII. -/
def escapeChar (c : Char) : String :=
  match c with
  | '"' => "\\\""
  | '\\' => "\\\\"
  | '\n' => "\\n"
  | '\r' => "\\r"
  | '\t' => "\\t"
  | c =>
    let n := c.toNat
    if n = 8 then "\\b"
    else if n = 12 then "\\f"
    else if 32 ≤ n ∧ n < 127 then c.toString
    else if n < 0x10000 then unicodeEscape n
    else unicodeEscape (0xD800 + (n - 0x10000) / 0x400) ++
      unicodeEscape (0xDC00 + (n - 0x10000) % 0x400)

def quoted (s : String) : String :=
  "\"" ++ s.toList.foldl (fun text c => text ++ escapeChar c) "" ++ "\""

def intText (i : Int) : Except PyError String :=
  if 4300 < (toString i.natAbs).length then
    throw (PyError.valueError ("Exceeds the limit (4300 digits) for integer string conversion; " ++
      "use sys.set_int_max_str_digits() to increase the limit"))
  else return toString i

def floatText : PyFloat → String
  | .finite q => py.floatRepr q
  | .negZero => "-0.0"
  | .inf => "Infinity"
  | .negInf => "-Infinity"
  | .nan => "NaN"

mutual

def dumps : Value → Except PyError String
  | .none => .ok "null"
  | .bool b => .ok (if b then "true" else "false")
  | .int i => intText i
  | .float x => .ok (floatText py x)
  | .str s => .ok (quoted s)
  | .list items => do return "[" ++ ",".intercalate (← dumpsItems items) ++ "]"
  | .dict items => do return "\x7b" ++ ",".intercalate (← dumpsEntries items) ++ "\x7d"

def dumpsItems : List Value → Except PyError (List String)
  | [] => .ok []
  | item :: rest => do return (← dumps item) :: (← dumpsItems rest)

def dumpsEntries : List (String × Value) → Except PyError (List String)
  | [] => .ok []
  | (key, value) :: rest => do
    return (quoted key ++ ":" ++ (← dumps value)) :: (← dumpsEntries rest)

end

end HotAirBalloon.Python.Json
