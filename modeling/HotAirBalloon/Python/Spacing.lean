import HotAirBalloon.Library.RegexSpacing
import HotAirBalloon.Python.LetterCase

/-!
# Single-spaced text

`" ".join(s.split())` puts one blank in the place of each run of white space. Literals without
white space, digits and word boundaries do not see the difference, and the lower case of a text is
that of its words.
-/

namespace HotAirBalloon.Python

open Library

/-- `" ".join(s.split())`. -/
def spaced (s : String) : String := " ".intercalate (splitWords s)

/-- What the Unicode tables say of white space: no character of it is alphanumeric or a digit, and
case is mapped word by word. -/
structure UnicodeData.Spacing (u : UnicodeData) : Prop where
  isAlnum_space : ∀ c, isSpace c = true → u.isAlnum c = false
  decimal_space : ∀ c, isSpace c = true → u.decimal c = none
  lower_parts : ActsOnParts isSpace (fun cs => (u.lower (String.ofList cs)).toList)

theorem isSpace_blank : isSpace ' ' = true := by decide

/-! ## The words -/

theorem toList_spaced (s : String) :
    (spaced s).toList = [' '].intercalate (parts isSpace s.toList) := by
  unfold spaced splitWords
  rw [String.toList_intercalate, List.map_map]
  simp [parts, Function.comp_def]

theorem parts_strip (s : String) : parts isSpace (strip s).toList = parts isSpace s.toList := by
  unfold strip stripBy stripList
  rw [String.toList_ofList, parts_rdropWhile, parts_dropWhile]

theorem startsIn_strip (s : String) : startsIn isSpace (strip s).toList = false := by
  unfold strip stripBy
  rw [String.toList_ofList]
  have hprefix : stripList isSpace s.toList <+: s.toList.dropWhile isSpace :=
    List.rdropWhile_prefix isSpace _
  cases hstripped : stripList isSpace s.toList with
  | nil => rfl
  | cons c rest =>
    rw [hstripped] at hprefix
    obtain ⟨back, heq⟩ := hprefix
    have hne : s.toList.dropWhile isSpace ≠ [] := by simp [← heq]
    have hfirst := List.head_dropWhile_not isSpace hne
    simpa [← heq] using hfirst

theorem getLast?_strip (s : String) : ∀ c ∈ (strip s).toList.getLast?, isSpace c = false := by
  unfold strip stripBy stripList
  rw [String.toList_ofList]
  intro c hc
  obtain ⟨hne, rfl⟩ := List.mem_getLast?_eq_getLast hc
  simpa using List.rdropWhile_last_not isSpace _ hne

theorem infix_strip (s : String) : (strip s).toList <:+: s.toList := by
  unfold strip stripBy stripList
  rw [String.toList_ofList]
  exact (List.rdropWhile_prefix isSpace _).isInfix.trans (List.dropWhile_suffix isSpace).isInfix

theorem mem_strip {s : String} {c : Char} (hc : c ∈ s.toList) (hspace : isSpace c = false) :
    c ∈ (strip s).toList := by
  have hdrop {cs : List Char} (h : c ∈ cs) : c ∈ cs.dropWhile isSpace := by
    have hparts : cs.takeWhile isSpace ++ cs.dropWhile isSpace = cs :=
      List.takeWhile_append_dropWhile
    rw [← hparts, List.mem_append] at h
    rcases h with htake | hdrop
    · rw [List.mem_takeWhile_imp htake] at hspace
      cases hspace
    · exact hdrop
  unfold strip stripBy stripList List.rdropWhile
  rw [String.toList_ofList, List.mem_reverse]
  exact hdrop (List.mem_reverse.mpr (hdrop hc))

/-- Text that neither begins nor ends with white space is stripped. -/
theorem strip_eq_self {s : String} (hfirst : startsIn isSpace s.toList = false)
    (hlast : ∀ c ∈ s.toList.getLast?, isSpace c = false) : strip s = s := by
  have hfront : s.toList.dropWhile isSpace = s.toList := by
    cases hs : s.toList with
    | nil => rfl
    | cons c rest =>
      rw [hs] at hfirst
      have hc : isSpace c = false := hfirst
      exact List.dropWhile_cons_of_neg (by simp [hc])
  have hback : s.toList.rdropWhile isSpace = s.toList := by
    rw [List.rdropWhile_eq_self_iff]
    intro hne
    simpa using hlast _ (List.getLast?_eq_some_getLast hne)
  unfold strip stripBy stripList
  rw [hfront, hback, String.ofList_toList]

/-- Single-spaced text is the stripped text, squeezed. -/
theorem spaced_eq_squeeze (s : String) :
    (spaced s).toList = squeeze isSpace ' ' (strip s).toList := by
  rw [toList_spaced, ← parts_strip, intercalate_parts (startsIn_strip s) (getLast?_strip s)]

theorem strip_spaced (s : String) : strip (spaced s) = spaced s := by
  apply strip_eq_self
  · rw [spaced_eq_squeeze, startsIn_squeeze isSpace_blank, startsIn_strip]
  · intro c hc
    rw [spaced_eq_squeeze, getLast?_squeeze] at hc
    obtain ⟨d, hd, rfl⟩ := Option.map_eq_some_iff.mp hc
    have hsymbol := getLast?_strip s d hd
    rw [hsymbol]
    exact hsymbol

theorem length_spaced_le (s : String) : (spaced s).length ≤ (strip s).length := by
  have hle := length_squeeze_le (p := isSpace) (b := ' ') (strip s).toList
  rwa [← spaced_eq_squeeze] at hle

theorem spaced_eq_empty {s : String} : spaced s = "" ↔ strip s = "" := by
  rw [← String.toList_eq_nil_iff, ← String.toList_eq_nil_iff, spaced_eq_squeeze, squeeze_eq_nil]

/-! ## Patterns that do not see the spacing -/

namespace Re

open Regex Pattern

/-- A pattern that reads white space as `\s*` only. -/
abbrev Blind (r : TextPattern) : Prop := SpacingBlind isSpace ' ' r

theorem found_spaced {r : TextPattern} (h : Blind r) {s : String}
    (hfound : found r (spaced s) = true) : found r (strip s) = true := by
  unfold found find at hfound ⊢
  rw [spaced_eq_squeeze] at hfound
  exact search_squeeze isSpace_blank h hfound

theorem isSpace_foldCase (c : Char) : isSpace (foldCase c) = isSpace c := by
  by_cases hc : (c.toNat < 128 || isCaseLetter c) = true
  · exact beq_iff_eq.mp (forall_foldable (p := fun c => isSpace (foldCase c) == isSpace c)
      (by decide) hc)
  · rw [foldCase_other hc]

theorem blind_lit {w : String} (hw : w.toList.all (fun c => !isSpace c) = true) :
    Blind (lit w) := by
  apply SpacingBlind.seqs
  intro r hr
  obtain ⟨c, hc, rfl⟩ := List.mem_map.mp hr
  apply SpacingBlind.sym
  intro d hd
  have hsymbol : isSpace c = false := by simpa using List.all_eq_true.mp hw c hc
  rw [← isSpace_foldCase, beq_iff_eq.mp hd, isSpace_foldCase, hsymbol]

theorem blind_edge {u : UnicodeData} (h : u.Spacing) : Blind (edge u) := by
  have hword : ∀ c, isSpace c = true → wordChar u c = false := by
    intro c hc
    have hunderscore : c ≠ '_' := by
      rintro rfl
      exact absurd hc (by decide)
    simp [wordChar, h.isAlnum_space c hc, hunderscore]
  have hany : ∀ x : Option Char,
      (x.map fun c => if isSpace c then ' ' else c).any (wordChar u) = x.any (wordChar u) := by
    intro x
    cases x with
    | none => rfl
    | some c =>
      cases hc : isSpace c with
      | true => simp [hc, hword c hc, hword ' ' isSpace_blank]
      | false => simp [hc]
  apply SpacingBlind.look
  intro x y
  rw [hany, hany]

theorem blind_digit {u : UnicodeData} (h : u.Spacing) : Blind (digit u) := by
  apply SpacingBlind.sym
  intro c hc
  by_contra hspace
  rw [h.decimal_space c (by simpa using hspace)] at hc
  cases hc

theorem blind_space : Blind (star space) := SpacingBlind.separators

/-- One of some words, each of them alone. -/
theorem found_words {u : UnicodeData} {ws : List String} {s : String} :
    found (seqs [edge u, words ws, edge u]) s = true ↔
      ∃ w ∈ ws, found (seqs [edge u, lit w, edge u]) s = true := by
  unfold found find
  simp only [search_isSome_iff]
  constructor
  · rintro ⟨front, back, htext, t, ht⟩
    obtain ⟨first, hfirst, hrest⟩ := List.mem_flatMap.mp ht
    obtain ⟨second, hsecond, hlast⟩ := List.mem_flatMap.mp hrest
    obtain ⟨r, hr, hword⟩ := mem_ways_alts.mp hsecond
    obtain ⟨w, hw, rfl⟩ := List.mem_map.mp hr
    refine ⟨w, hw, front, back, htext, t, List.mem_flatMap.mpr ⟨first, hfirst, ?_⟩⟩
    exact List.mem_flatMap.mpr ⟨second, hword, hlast⟩
  · rintro ⟨w, hw, front, back, htext, t, ht⟩
    obtain ⟨first, hfirst, hrest⟩ := List.mem_flatMap.mp ht
    obtain ⟨second, hsecond, hlast⟩ := List.mem_flatMap.mp hrest
    refine ⟨front, back, htext, t, List.mem_flatMap.mpr ⟨first, hfirst, ?_⟩⟩
    refine List.mem_flatMap.mpr ⟨second, ?_, hlast⟩
    exact mem_ways_alts.mpr ⟨lit w, List.mem_map_of_mem hw, hsecond⟩

end Re

/-! ## Lower case -/

/-- A text without blanks is in the lower case of a text when it is in that of its single-spaced
form. -/
theorem infix_lower_spaced {u : UnicodeData} (h : u.Spacing) {s : String} {term : List Char}
    (hblank : ' ' ∉ term) (hterm : term <:+: (u.lower (spaced s)).toList) :
    term <:+: (u.lower (strip s)).toList := by
  by_cases hnone : parts isSpace (strip s).toList = []
  · have hspaced : spaced s = strip s := by
      have hnil : (spaced s).toList = [] := by rw [toList_spaced, ← parts_strip, hnone]; rfl
      rw [String.toList_eq_nil_iff] at hnil
      rw [hnil, spaced_eq_empty.mp hnil]
    rwa [hspaced] at hterm
  · have hlower : (u.lower (spaced s)).toList = [' '].intercalate
        ((parts isSpace (strip s).toList).map fun cs => (u.lower (String.ofList cs)).toList) := by
      rw [← h.lower_parts.intercalate isSpace_blank hnone, parts_strip, ← toList_spaced,
        String.ofList_toList]
    rw [hlower] at hterm
    rcases infix_of_infix_intercalate hblank hterm with rfl | ⟨text, htext, hinfix⟩
    · exact List.nil_infix
    · obtain ⟨part, hpart, rfl⟩ := List.mem_map.mp htext
      have hword := h.lower_parts.infix hpart
      rw [String.ofList_toList] at hword
      exact hinfix.trans hword

/-! ## ASCII -/

theorem isAlphanum_space {c : Char} (hc : isSpace c = true) : c.isAlphanum = false := by
  by_contra halnum
  have hascii : c.toNat < 128 := by
    simp only [Char.isAlphanum, Char.isAlpha, Char.isUpper, Bool.not_eq_false, Bool.or_eq_true,
      decide_eq_true_eq, ge_iff_le, UInt32.le_iff_toNat_le] at halnum
    rcases halnum with (⟨-, hupper⟩ | hlower) | hdigit
    · exact hupper.trans_lt (by decide)
    · exact (isLower_toNat hlower).2.trans_lt (by decide)
    · exact (isDigit_toNat hdigit).2.trans_lt (by decide)
  have hletter : (!isSpace c || !c.isAlphanum) = true :=
    forall_foldable (p := fun c => !isSpace c || !c.isAlphanum) (by decide)
      (by rw [decide_eq_true hascii, Bool.true_or])
  rw [hc, Bool.not_true, Bool.false_or, Bool.not_eq_true'] at hletter
  exact halnum hletter

theorem UnicodeData.ascii_spacing : UnicodeData.ascii.Spacing where
  isAlnum_space c hc := isAlphanum_space hc
  decimal_space c hc := by
    apply if_neg
    intro hdigit
    have halnum := isAlphanum_space hc
    rw [Char.isAlphanum, hdigit, Bool.or_true] at halnum
    cases halnum
  lower_parts front c back hc := by
    have hkept : asciiLower c = c := by
      apply if_neg
      simp only [isSpace, Bool.or_eq_true, Bool.and_eq_true, decide_eq_true_eq, beq_iff_eq] at hc
      omega
    simp [UnicodeData.ascii, hkept]

end HotAirBalloon.Python
