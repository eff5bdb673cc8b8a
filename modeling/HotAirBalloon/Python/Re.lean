import HotAirBalloon.Library.Regex
import HotAirBalloon.Python.Text

/-!
# Python's `re` on `str`

The building blocks of the patterns of the program, all of them compiled with
`re.IGNORECASE`. Ignoring case, an ASCII letter matches its other case and, of all other
characters, only these: `i` also U+0130 and U+0131, `k` also U+212A, `s` also U+017F.
-/

namespace HotAirBalloon.Python.Re

open Regex Pattern

abbrev TextPattern := Pattern Char

/-- The ASCII letter a character stands for when case is ignored, the character otherwise. -/
def foldCase (c : Char) : Char :=
  match c.toNat with
  | 0x130 | 0x131 => 'i'
  | 0x212A => 'k'
  | 0x17F => 's'
  | _ => asciiLower c

/-- A literal text, ignoring case. -/
def lit (s : String) : TextPattern :=
  seqs (s.toList.map (fun c => sym (fun d => foldCase d == foldCase c)))

/-- `[…]` over listed characters, ignoring case. -/
def oneOf (s : String) : TextPattern :=
  sym (fun d => s.toList.any (fun c => foldCase d == foldCase c))

/-- `[a-z0-9]`, ignoring case. -/
def letterOrDigit : Char → Bool := fun d => (foldCase d).isLower || d.isDigit

def wordChar (u : UnicodeData) (c : Char) : Bool := u.isAlnum c || c == '_'

/-- `\b`. -/
def edge (u : UnicodeData) : TextPattern :=
  look (fun a b => (a.any (wordChar u)) != (b.any (wordChar u)))

/-- `^`. -/
def start : TextPattern := look (fun a _ => a.isNone)

/-- `\s`. -/
def space : TextPattern := sym isSpace

/-- `\d`. -/
def digit (u : UnicodeData) : TextPattern := sym (fun c => (u.decimal c).isSome)

/-- `.{0,n}`. -/
def anyUpTo (n : Nat) : TextPattern := rep 0 (some n) (sym (· != '\n'))

/-- Alternatives of literal texts. -/
def words (ws : List String) : TextPattern := alts (ws.map lit)

/-- `pattern.search(s)`. -/
def find (r : TextPattern) (s : String) : Option (Match Char) := search r s.toList

/-- Whether `pattern.search(s)` finds anything. -/
def found (r : TextPattern) (s : String) : Bool := (find r s).isSome

/-- `match.group(0)`. -/
def text (m : Match Char) : String := String.ofList m.text

/-- `match.group(index)` of a group that every match captures. -/
def group (m : Match Char) (index : Nat) : String := String.ofList ((m.group index).getD [])

example :
    found (seqs [edge .ascii, lit "work", plus space, lit "order", opt (lit "s"), edge .ascii])
    "List WORK  orders." = true := by decide

end HotAirBalloon.Python.Re
