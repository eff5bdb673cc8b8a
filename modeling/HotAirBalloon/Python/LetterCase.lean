import Mathlib
import HotAirBalloon.Library.RegexLanguage
import HotAirBalloon.Python.Re
import HotAirBalloon.Python.Interpreter

/-!
# Letters that match ASCII letters

Ignoring case, a pattern of ASCII letters also matches texts with U+0130, U+0131, U+017F and U+212A.
`LetterCase` says what the case mappings make of such texts: of these four only U+212A is in lower
case the ASCII letter that it matches.
-/

namespace HotAirBalloon.Python

/-- The characters besides ASCII that match an ASCII letter when case is ignored. -/
def isCaseLetter (c : Char) : Bool := c.toNat ∈ [0x130, 0x131, 0x17F, 0x212A]

/-- A text of ASCII characters and these letters. -/
def isFoldable (s : String) : Bool := s.toList.all (fun c => c.toNat < 128 || isCaseLetter c)

/-- Lower case of an ASCII character or one of these letters. -/
def lowerLetter (c : Char) : List Char :=
  match c.toNat with
  | 0x130 => ['i', '\u0307']
  | 0x212A => ['k']
  | _ => [asciiLower c]

/-- Upper case of an ASCII character or one of these letters. -/
def upperLetter (c : Char) : Char :=
  match c.toNat with
  | 0x131 => 'I'
  | 0x17F => 'S'
  | _ => asciiUpper c

/-- What the Unicode tables say of these letters and of decimal characters, which have no case. -/
structure UnicodeData.LetterCase (u : UnicodeData) : Prop where
  lower_foldable : ∀ s, isFoldable s = true →
    u.lower s = String.ofList (s.toList.flatMap lowerLetter)
  upper_foldable : ∀ s, isFoldable s = true → u.upper s = String.ofList (s.toList.map upperLetter)
  lower_decimals : ∀ s, (∀ c ∈ s.toList, (u.decimal c).isSome = true) → u.lower s = s
  decimal_caseLetter : ∀ c, isCaseLetter c = true → u.decimal c = none

/-! ## ASCII and these letters -/

theorem isCaseLetter_ascii {c : Char} (h : c.toNat < 128) : isCaseLetter c = false := by
  simp only [isCaseLetter, List.mem_cons, List.not_mem_nil, or_false, decide_eq_false_iff_not]
  omega

theorem lowerLetter_ascii {c : Char} (h : c.toNat < 128) : lowerLetter c = [asciiLower c] := by
  unfold lowerLetter
  split
  · omega
  · omega
  · rfl

theorem upperLetter_ascii {c : Char} (h : c.toNat < 128) : upperLetter c = asciiUpper c := by
  unfold upperLetter
  split
  · omega
  · omega
  · rfl

theorem toNat_of_isAscii {s : String} (h : isAscii s = true) {c : Char} (hc : c ∈ s.toList) :
    c.toNat < 128 := of_decide_eq_true (List.all_eq_true.mp h c hc)

theorem flatMap_lowerLetter {s : String} (h : isAscii s = true) :
    s.toList.flatMap lowerLetter = s.toList.map asciiLower := by
  rw [List.flatMap_congr (fun c hc => lowerLetter_ascii (toNat_of_isAscii h hc)),
    List.map_eq_flatMap]

theorem map_upperLetter {s : String} (h : isAscii s = true) :
    s.toList.map upperLetter = s.toList.map asciiUpper :=
  List.map_congr_left (fun _ hc => upperLetter_ascii (toNat_of_isAscii h hc))

/-- A property of these characters is checked on their numbers. -/
theorem forall_foldable {p : Char → Bool}
    (h : (List.range 128 ++ [0x130, 0x131, 0x17F, 0x212A]).all (fun n => p (Char.ofNat n)) = true)
    {c : Char} (hc : (c.toNat < 128 || isCaseLetter c) = true) : p c = true := by
  have hmem : c.toNat ∈ List.range 128 ++ [0x130, 0x131, 0x17F, 0x212A] := by
    rcases (Bool.or_eq_true _ _).mp hc with hc | hc
    · exact List.mem_append_left _ (List.mem_range.mpr (of_decide_eq_true hc))
    · exact List.mem_append_right _ (of_decide_eq_true hc)
  have hp := List.all_eq_true.mp h c.toNat hmem
  rwa [Char.ofNat_toNat] at hp

/-- The database restricted to ASCII and these letters. -/
def UnicodeData.letters : UnicodeData where
  isAlnum c := c.isAlphanum || isCaseLetter c
  decimal c := if c.isDigit then some (c.toNat - 48) else none
  lower s := String.ofList (s.toList.flatMap lowerLetter)
  upper s := String.ofList (s.toList.map upperLetter)
  casefold s := String.ofList (s.toList.flatMap lowerLetter)
  isAlnum_ascii c hc := by rw [isCaseLetter_ascii hc, Bool.or_false]
  decimal_ascii := UnicodeData.ascii.decimal_ascii
  lower_ascii _ hs := congrArg String.ofList (flatMap_lowerLetter hs)
  upper_ascii _ hs := congrArg String.ofList (map_upperLetter hs)
  casefold_ascii _ hs := congrArg String.ofList (flatMap_lowerLetter hs)

theorem isDigit_toNat {c : Char} (h : c.isDigit = true) : 48 ≤ c.toNat ∧ c.toNat ≤ 57 := by
  simpa [Char.isDigit, UInt32.le_iff_toNat_le] using h

theorem isLower_toNat {c : Char} (h : c.isLower = true) : 97 ≤ c.toNat ∧ c.toNat ≤ 122 := by
  simpa [Char.isLower, UInt32.le_iff_toNat_le] using h

theorem UnicodeData.letters_letterCase : UnicodeData.letters.LetterCase where
  lower_foldable _ _ := rfl
  upper_foldable _ _ := rfl
  lower_decimals s hs := by
    have hdigit : ∀ c ∈ s.toList, lowerLetter c = [c] := by
      intro c hc
      have hsome := hs c hc
      change (if c.isDigit then some (c.toNat - 48) else none).isSome = true at hsome
      have hc : c.isDigit = true := by
        by_contra hnot
        rw [if_neg hnot] at hsome
        cases hsome
      obtain ⟨hlow, hhigh⟩ := isDigit_toNat hc
      rw [lowerLetter_ascii (by omega)]
      unfold asciiLower
      rw [if_neg (by omega)]
    change String.ofList (s.toList.flatMap lowerLetter) = s
    rw [List.flatMap_congr hdigit, List.flatMap_singleton', String.ofList_toList]
  decimal_caseLetter c hc := by
    change (if c.isDigit then some (c.toNat - 48) else none) = none
    apply if_neg
    intro hdigit
    obtain ⟨-, hhigh⟩ := isDigit_toNat hdigit
    rw [isCaseLetter_ascii (by omega)] at hc
    cases hc

/-- The interpreter with these tables. -/
def Interpreter.letters : Interpreter where
  toUnicodeData := .letters
  setOrder := Interpreter.ascii.setOrder
  setOrder_perm := Interpreter.ascii.setOrder_perm
  floatRepr := Interpreter.ascii.floatRepr
  str := Interpreter.ascii.str
  str_str := Interpreter.ascii.str_str

/-! ## What matches when case is ignored -/

namespace Re

open Regex Pattern

theorem foldCase_ascii {c : Char} (h : c.toNat < 128) : foldCase c = asciiLower c := by
  unfold foldCase
  split
  · omega
  · omega
  · omega
  · omega
  · rfl

/-- All other characters stand for themselves. -/
theorem foldCase_other {c : Char} (hc : ¬(c.toNat < 128 || isCaseLetter c) = true) :
    foldCase c = c := by
  rw [Bool.or_eq_true, not_or, decide_eq_true_eq] at hc
  obtain ⟨hascii, hletter⟩ := hc
  have hnot : c.toNat ∉ [0x130, 0x131, 0x17F, 0x212A] := fun hmem => hletter (decide_eq_true hmem)
  simp only [List.mem_cons, List.not_mem_nil, or_false, not_or] at hnot
  unfold foldCase
  split
  · omega
  · omega
  · omega
  · omega
  · exact if_neg (by omega)

/-- Only ASCII characters and the four letters match an ASCII character. -/
theorem foldable_of_foldCase {c : Char} (h : (foldCase c).toNat < 128) :
    (c.toNat < 128 || isCaseLetter c) = true := by
  by_contra hc
  rw [foldCase_other hc] at h
  simp [h] at hc

theorem map_of_mem_language_syms {ws cs : List Char}
    (h : cs ∈ (seqs (ws.map (fun c => sym (fun d => foldCase d == foldCase c)))).language) :
    cs.map foldCase = ws.map foldCase := by
  induction ws generalizing cs with
  | nil =>
    rw [mem_language_seqs_nil.mp h]
  | cons c rest ih =>
    obtain ⟨front, hfront, back, hback, rfl⟩ := mem_language_seqs_cons.mp h
    obtain ⟨d, hd, rfl⟩ := hfront
    rw [List.map_append, ih hback]
    exact congrArg (· :: rest.map foldCase) (beq_iff_eq.mp hd)

/-- What matches a literal folds to the same text. -/
theorem map_of_mem_language_lit {w : String} {cs : List Char} (h : cs ∈ (lit w).language) :
    cs.map foldCase = w.toList.map foldCase := map_of_mem_language_syms h

@[simp] theorem groups_lit (w : String) : (lit w).groups = [] := by
  unfold lit
  rw [groups_seqs, List.flatMap_map]
  exact List.flatMap_eq_nil_iff.mpr (fun _ _ => rfl)

@[simp] theorem groups_words (ws : List String) : (words ws).groups = [] := by
  unfold words
  rw [groups_alts, List.flatMap_map]
  exact List.flatMap_eq_nil_iff.mpr (fun w _ => groups_lit w)

theorem symbols_lit {w : String} {c : Char} :
    (lit w).symbols c ↔ ∃ d ∈ w.toList, foldCase c = foldCase d := by
  unfold lit
  rw [symbols_seqs]
  simp only [List.mem_map, exists_exists_and_eq_and, symbols, beq_iff_eq]

end Re

end HotAirBalloon.Python
