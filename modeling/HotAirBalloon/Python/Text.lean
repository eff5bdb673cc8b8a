import Mathlib.Tactic
import Mathlib.Data.List.DropRight

/-!
# Python text

`str.strip`, `str.isspace` and the case mappings of `str`. White space is a short list of
characters, so it is written out. The other tables of the Unicode character database are
long and change with its version: `UnicodeData` stands for the one of the running
interpreter and says what every version has in common, its values on ASCII text.
-/

namespace HotAirBalloon.Python

/-- `c.isspace()`, which is also what `\s` matches in a `str` pattern. -/
def isSpace (c : Char) : Bool :=
  let n := c.toNat
  (9 ≤ n && n ≤ 13) || (28 ≤ n && n ≤ 32) || n == 0x85 || n == 0xA0 || n == 0x1680 ||
    (0x2000 ≤ n && n ≤ 0x200A) || n == 0x2028 || n == 0x2029 || n == 0x202F || n == 0x205F ||
    n == 0x3000

/-- The Unicode property `White_Space`, by which `str_strip_whitespace` trims. It lacks the
four separators U+001C to U+001F. -/
def isWhiteSpace (c : Char) : Bool := isSpace c && !(28 ≤ c.toNat && c.toNat ≤ 31)

/-- Drops the characters of a class from both ends. -/
def stripList (p : Char → Bool) (cs : List Char) : List Char := (cs.dropWhile p).rdropWhile p

theorem stripList_idem (p : Char → Bool) (cs : List Char) :
    stripList p (stripList p cs) = stripList p cs := by
  have hfront : (stripList p cs).dropWhile p = stripList p cs := by
    rw [List.dropWhile_eq_self_iff]
    intro hlen hp
    have hpre : stripList p cs <+: cs.dropWhile p := List.rdropWhile_prefix p _
    have hlen' : 0 < (cs.dropWhile p).length := hlen.trans_le hpre.length_le
    have hhead : (stripList p cs)[0] = (cs.dropWhile p)[0] := hpre.getElem hlen
    rw [hhead] at hp
    have := List.dropWhile_get_zero_not p cs hlen'
    simp only [List.get_eq_getElem] at this
    exact this hp
  unfold stripList at hfront ⊢
  rw [hfront]
  exact List.rdropWhile_idempotent p _

/-- Trims the characters of a class from both ends of a string. -/
def stripBy (p : Char → Bool) (s : String) : String := String.ofList (stripList p s.toList)

theorem stripBy_idem (p : Char → Bool) (s : String) : stripBy p (stripBy p s) = stripBy p s := by
  unfold stripBy
  rw [String.toList_ofList, stripList_idem]

/-- `s.strip()`. -/
def strip (s : String) : String := stripBy isSpace s

/-- `s.split()`: the maximal runs of characters that are not white space. -/
def splitWords (s : String) : List String :=
  ((s.toList.splitOnP isSpace).filter (fun word => !word.isEmpty)).map String.ofList

/-- Lower case of an ASCII letter; other characters are kept. -/
def asciiLower (c : Char) : Char :=
  if 65 ≤ c.toNat ∧ c.toNat ≤ 90 then Char.ofNat (c.toNat + 32) else c

/-- Upper case of an ASCII letter; other characters are kept. -/
def asciiUpper (c : Char) : Char :=
  if 97 ≤ c.toNat ∧ c.toNat ≤ 122 then Char.ofNat (c.toNat - 32) else c

/-- Whether a string has ASCII characters only. -/
def isAscii (s : String) : Bool := s.toList.all (fun c => c.toNat < 128)

/-- The tables of the interpreter's Unicode character database. -/
structure UnicodeData where
  /-- `c.isalnum()`; with the underscore these are the word characters of `re`. -/
  isAlnum : Char → Bool
  /-- The digit value of a decimal character (general category `Nd`). -/
  decimal : Char → Option Nat
  /-- `s.lower()`. -/
  lower : String → String
  /-- `s.upper()`. -/
  upper : String → String
  /-- `s.casefold()`. -/
  casefold : String → String
  isAlnum_ascii : ∀ c : Char, c.toNat < 128 → isAlnum c = c.isAlphanum
  decimal_ascii : ∀ c : Char, c.toNat < 128 →
    decimal c = if c.isDigit then some (c.toNat - 48) else none
  lower_ascii : ∀ s, isAscii s = true → lower s = String.ofList (s.toList.map asciiLower)
  upper_ascii : ∀ s, isAscii s = true → upper s = String.ofList (s.toList.map asciiUpper)
  casefold_ascii : ∀ s, isAscii s = true → casefold s = String.ofList (s.toList.map asciiLower)

/-- The part of the database every version agrees on: ASCII. -/
def UnicodeData.ascii : UnicodeData where
  isAlnum c := c.isAlphanum
  decimal c := if c.isDigit then some (c.toNat - 48) else none
  lower s := String.ofList (s.toList.map asciiLower)
  upper s := String.ofList (s.toList.map asciiUpper)
  casefold s := String.ofList (s.toList.map asciiLower)
  isAlnum_ascii _ _ := rfl
  decimal_ascii _ _ := rfl
  lower_ascii _ _ := rfl
  upper_ascii _ _ := rfl
  casefold_ascii _ _ := rfl

example : strip " PLANT-HCM\t" = "PLANT-HCM" := by decide

end HotAirBalloon.Python
