import HotAirBalloon.Agent.SemanticValidation
import HotAirBalloon.Python.LetterCase

/-!
# Codes in a query

The site codes and the work order codes that the patterns find consist of letters, digits and
hyphens. Upper case keeps it that way, so no code changes when it is trimmed.
-/

namespace HotAirBalloon.Agent

open Python Python.Re Regex Pattern Gateway

/-- A character of a code. -/
def codeChar (c : Char) : Bool := letterOrDigit c || c == '-'

def isCode (s : String) : Bool := s.toList.all codeChar

/-! ## Texts of such characters -/

theorem foldable_codeChar {c : Char} (h : codeChar c = true) :
    (c.toNat < 128 || isCaseLetter c) = true := by
  rcases (Bool.or_eq_true _ _).mp h with h | h
  · rcases (Bool.or_eq_true _ _).mp h with h | h
    · obtain ⟨-, hhigh⟩ := isLower_toNat h
      exact foldable_of_foldCase (by omega)
    · obtain ⟨-, hhigh⟩ := isDigit_toNat h
      rw [decide_eq_true (by omega : c.toNat < 128), Bool.true_or]
  · rw [beq_iff_eq.mp h]
    rfl

theorem isSpace_codeChar {c : Char} (h : codeChar c = true) : isSpace c = false := by
  have hall := forall_foldable (p := fun c => !codeChar c || !isSpace c) (by decide)
    (foldable_codeChar h)
  simpa [h] using hall

theorem codeChar_upperLetter {c : Char} (h : codeChar c = true) :
    codeChar (upperLetter c) = true := by
  have hall := forall_foldable (p := fun c => !codeChar c || codeChar (upperLetter c))
    (by decide) (foldable_codeChar h)
  simpa [h] using hall

/-- Trimming a larger class gives the same text when no character of it is left. -/
theorem stripList_of_stripList {p q : Char → Bool} (hclass : ∀ c, q c = true → p c = true)
    {cs : List Char} (h : ∀ c ∈ stripList q cs, p c = false) : stripList p cs = stripList q cs := by
  have hfront : cs.takeWhile q ++ cs.dropWhile q = cs := List.takeWhile_append_dropWhile
  have hback : stripList q cs ++ (cs.dropWhile q).rtakeWhile q = cs.dropWhile q :=
    List.rdropWhile_append_rtakeWhile
  have hleft : ∀ c ∈ cs.takeWhile q, p c = true :=
    fun c hc => hclass c (List.mem_takeWhile_imp hc)
  have hright : ∀ c ∈ (cs.dropWhile q).rtakeWhile q, p c = true :=
    fun c hc => hclass c (List.mem_rtakeWhile_imp hc)
  have hdrop : cs.dropWhile p = (stripList q cs ++ (cs.dropWhile q).rtakeWhile q).dropWhile p := by
    rw [hback]
    conv_lhs => rw [← hfront]
    exact List.dropWhile_append_of_pos hleft
  have hend : (stripList q cs ++ (cs.dropWhile q).rtakeWhile q).rdropWhile p = stripList q cs := by
    unfold List.rdropWhile
    rw [List.reverse_append, List.dropWhile_append_of_pos (by simpa using hright)]
    apply List.reverse_eq_iff.mpr
    rw [List.dropWhile_eq_self_iff]
    intro hlength
    rw [h _ (List.mem_reverse.mp (List.getElem_mem hlength))]
    decide
  change (cs.dropWhile p).rdropWhile p = stripList q cs
  rw [hdrop]
  cases hm : stripList q cs with
  | nil =>
    have hnil : ((cs.dropWhile q).rtakeWhile q).dropWhile p = [] :=
      List.dropWhile_eq_nil_iff.mpr hright
    rw [List.nil_append, hnil]
    rfl
  | cons c rest =>
    have hc : p c = false := h c (by rw [hm]; exact List.mem_cons_self)
    rw [List.cons_append, List.dropWhile_cons_of_neg (by simp [hc]), ← List.cons_append, ← hm]
    exact hend

/-- A text that pydantic trims to a code is trimmed to it by `strip` too. -/
theorem strip_of_code {s : String} (h : isCode (stripBy isWhiteSpace s) = true) :
    strip s = stripBy isWhiteSpace s := by
  unfold strip stripBy
  rw [stripList_of_stripList]
  · intro c hc
    exact ((Bool.and_eq_true _ _).mp hc).1
  · unfold isCode stripBy at h
    rw [String.toList_ofList] at h
    intro c hc
    exact isSpace_codeChar (List.all_eq_true.mp h c hc)

section

variable {s : String} (h : isCode s = true)

include h

theorem isFoldable_code : isFoldable s = true := by
  apply List.all_eq_true.mpr
  intro c hc
  exact foldable_codeChar (List.all_eq_true.mp h c hc)

theorem isCode_upper {u : UnicodeData} (hcase : u.LetterCase) : isCode (u.upper s) = true := by
  unfold isCode
  rw [hcase.upper_foldable s (isFoldable_code h), String.toList_ofList, List.all_map]
  apply List.all_eq_true.mpr
  intro c hc
  exact codeChar_upperLetter (List.all_eq_true.mp h c hc)

/-- Trimming white space of any kind leaves a code alone. -/
theorem stripBy_code {p : Char → Bool} (hp : ∀ c, isSpace c = false → p c = false) :
    stripBy p s = s := by
  unfold stripBy
  rw [Uuid.stripList_of_forall_not, String.ofList_toList]
  intro c hc
  exact hp c (isSpace_codeChar (List.all_eq_true.mp h c hc))

theorem strip_code : strip s = s := stripBy_code h (fun _ => id)

theorem stripWhiteSpace_code : stripBy isWhiteSpace s = s := by
  apply stripBy_code h
  intro c hc
  unfold isWhiteSpace
  rw [hc, Bool.false_and]

end

/-! ## What the patterns find -/

variable {py : Interpreter} {query : String}

theorem codeChar_of_symbols {c : Char} (h : letterOrDigit c = true ∨ foldCase c = '-') :
    codeChar c = true := by
  rcases h with h | h
  · exact (Bool.or_eq_true _ _).mpr (.inl h)
  · have hall := forall_foldable (p := fun c => foldCase c != '-' || codeChar c) (by decide)
      (foldable_of_foldCase (by rw [h]; decide))
    simpa [h] using hall

/-- A site code is a code in upper case. -/
theorem extractSiteCode_code {site : String} (h : extractSiteCode py query = some site) :
    ∃ code, isCode code = true ∧ site = py.upper code := by
  obtain ⟨m, hm, hsite⟩ := List.exists_of_findSome?_eq_some h
  dsimp only at hsite
  split at hsite
  · cases hsite
  · cases hsite
    refine ⟨Re.group m 1, ?_, rfl⟩
    obtain ⟨cs, ⟨inner, hinner, hcs⟩, -, hgroup⟩ :=
      (findAll_of hm).group (by rfl : (sitePattern py).captures 1 = true)
    have hgroups : (sitePattern py).groups = [(1, seqs [plus (sym letterOrDigit),
        plus (seqs [lit "-", plus (sym letterOrDigit)])])] := by
      simp [sitePattern, wordEdge, edge, space]
    rw [hgroups, List.mem_singleton] at hinner
    cases hinner
    unfold isCode Re.group
    rw [hgroup, Option.getD_some, String.toList_ofList]
    apply List.all_eq_true.mpr
    intro c hc
    have hsymbols := symbols_of_mem_language _ hcs c hc
    have hdash : foldCase '-' = '-' := by decide
    simp only [symbols_seqs, plus, symbols, symbols_lit, List.mem_cons, List.not_mem_nil, or_false,
      exists_eq_or_imp, exists_eq_left, String.reduceToList, hdash] at hsymbols
    apply codeChar_of_symbols
    rcases hsymbols with hsymbols | hsymbols | hsymbols
    · exact .inl hsymbols
    · exact .inr hsymbols
    · exact .inl hsymbols

/-- The text of a work order code is a code. -/
theorem workOrderCode_code {m : Match Char} (h : m.Of (workOrderCodePattern py) query.toList) :
    isCode (Re.text m) = true := by
  unfold isCode Re.text
  rw [String.toList_ofList]
  apply List.all_eq_true.mpr
  intro c hc
  have hsymbols := symbols_of_mem_language _ h.language c hc
  have hdash : foldCase '-' = '-' := by decide
  have hw : foldCase 'W' = 'w' := by decide
  have ho : foldCase 'O' = 'o' := by decide
  simp only [workOrderCodePattern, wordEdge, edge, symbols_seqs, plus, Pattern.star, symbols,
    symbols_lit, List.mem_cons, List.not_mem_nil, or_false, exists_eq_or_imp, exists_eq_left,
    String.reduceToList, hdash, hw, ho, false_or] at hsymbols
  apply codeChar_of_symbols
  have hletter : ∀ {d : Char}, d.isLower = true → foldCase c = d → letterOrDigit c = true := by
    intro d hd heq
    unfold letterOrDigit
    rw [heq, hd, Bool.true_or]
  rcases hsymbols with (h | h | h) | h | h | h
  · exact .inl (hletter (by decide) h)
  · exact .inl (hletter (by decide) h)
  · exact .inr h
  · exact .inl h
  · exact .inr h
  · exact .inl h

/-! ## UUIDs -/

theorem isHexDigit_of_oneOf {allowed : String} {d : Char}
    (hallowed : allowed.toList.all (fun c => c ∈ "0123456789abcdef".toList) = true)
    (h : allowed.toList.any (fun c => foldCase d == foldCase c) = true) :
    Uuid.isHexDigit d = true := by
  obtain ⟨c, hc, heq⟩ := List.any_eq_true.mp h
  have hmem : c ∈ "0123456789abcdef".toList :=
    of_decide_eq_true (List.all_eq_true.mp hallowed c hc)
  have hany : "0123456789abcdef".toList.any (fun c => foldCase d == foldCase c) = true :=
    List.any_eq_true.mpr ⟨c, hmem, heq⟩
  have hascii : "0123456789abcdef".toList.all (fun c => (foldCase c).toNat < 128) = true := by
    decide
  have hlow : (foldCase d).toNat < 128 := by
    rw [beq_iff_eq.mp heq]
    exact of_decide_eq_true (List.all_eq_true.mp hascii c hmem)
  have hall := forall_foldable
    (p := fun d => !"0123456789abcdef".toList.any (fun c => foldCase d == foldCase c) ||
      Uuid.isHexDigit d) (by decide) (foldable_of_foldCase hlow)
  rw [hany] at hall
  exact hall

/-- A text of hyphens and hexadecimal digits, and how many digits it has. -/
def HexText (n : Nat) (cs : List Char) : Prop :=
  (∀ c ∈ cs, c = '-' ∨ Uuid.isHexDigit c = true) ∧ (cs.filter (· ≠ '-')).length = n

theorem HexText.append {n k : Nat} {cs ds : List Char} (h : HexText n cs) (h' : HexText k ds) :
    HexText (n + k) (cs ++ ds) := by
  refine ⟨?_, ?_⟩
  · intro c hc
    rcases List.mem_append.mp hc with hc | hc
    · exact h.1 c hc
    · exact h'.1 c hc
  · rw [List.filter_append, List.length_append, h.2, h'.2]

theorem hexText_digits {cs : List Char} (h : ∀ c ∈ cs, Uuid.isHexDigit c = true) :
    HexText cs.length cs := by
  refine ⟨fun c hc => .inr (h c hc), ?_⟩
  have hkeep : cs.filter (· ≠ '-') = cs := by
    apply List.filter_eq_self.mpr
    intro c hc
    apply decide_eq_true
    rintro rfl
    exact absurd (h _ hc) (by decide)
  rw [hkeep]

/-- `n` digits. -/
theorem hexText_rep {n : Nat} {cs : List Char}
    (h : cs ∈ (rep n (some n) (oneOf "0123456789abcdef")).language) : HexText n cs := by
  obtain ⟨rfl, hcs⟩ := mem_language_rep_sym h
  exact hexText_digits (fun c hc => isHexDigit_of_oneOf (by decide) (hcs c hc))

theorem hexText_oneOf {allowed : String} {cs : List Char}
    (hallowed : allowed.toList.all (fun c => c ∈ "0123456789abcdef".toList) = true)
    (h : cs ∈ (oneOf allowed).language) : HexText 1 cs := by
  obtain ⟨c, hc, rfl⟩ := h
  have hone : ∀ d ∈ [c], Uuid.isHexDigit d = true := by
    intro d hd
    rw [List.mem_singleton.mp hd]
    exact isHexDigit_of_oneOf hallowed hc
  exact hexText_digits hone

theorem hexText_hyphen {cs : List Char} (h : cs ∈ (lit "-").language) : HexText 0 cs := by
  have hfold := map_of_mem_language_lit h
  obtain ⟨c, rfl⟩ : ∃ c, cs = [c] := by
    apply List.length_eq_one_iff.mp
    simpa using congrArg List.length hfold
  have hdash : foldCase '-' = '-' := by decide
  have hc : foldCase c = '-' := by simpa [hdash] using hfold
  have hall := forall_foldable (p := fun c => foldCase c != '-' || c == '-') (by decide)
    (foldable_of_foldCase (by rw [hc]; decide))
  have hself : c = '-' := by simpa [hc] using hall
  rw [hself]
  refine ⟨?_, rfl⟩
  intro d hd
  exact .inl (List.mem_singleton.mp hd)

theorem hexText_seqs (parts : List (TextPattern × Nat))
    (hparts : ∀ part ∈ parts, ∀ cs ∈ part.1.language, HexText part.2 cs) {cs : List Char}
    (h : cs ∈ (seqs (parts.map (·.1))).language) : HexText (parts.map (·.2)).sum cs := by
  induction parts generalizing cs with
  | nil =>
    rw [mem_language_seqs_nil.mp h]
    exact hexText_digits (fun c hc => absurd hc List.not_mem_nil)
  | cons part rest ih =>
    obtain ⟨front, hfront, back, hback, rfl⟩ := mem_language_seqs_cons.mp h
    have hrest := ih (fun part hpart => hparts part (List.mem_cons_of_mem _ hpart)) hback
    exact (hparts part List.mem_cons_self front hfront).append hrest

theorem hexText_edge (u : UnicodeData) {cs : List Char} (h : cs ∈ (edge u).language) :
    HexText 0 cs := by
  rw [(Language.mem_one cs).mp h]
  exact hexText_digits (fun c hc => absurd hc List.not_mem_nil)

/-- Every text that the pattern finds is read as a UUID. -/
theorem uuid_parses {m : Match Char} (h : m.Of (uuidPattern py) query.toList) (u : UnicodeData) :
    ∃ id, Uuid.parse u (Re.text m) = some id := by
  have hhex : HexText 32 m.text := by
    let hexes := fun n => (rep n (some n) (oneOf "0123456789abcdef"), n)
    apply hexText_seqs [(edge py.toUnicodeData, 0), hexes 8, (lit "-", 0), hexes 4,
      (lit "-", 0), (oneOf "12345", 1), hexes 3, (lit "-", 0), (oneOf "89ab", 1), hexes 3,
      (lit "-", 0), hexes 12, (edge py.toUnicodeData, 0)] ?_ h.language
    intro part hpart cs hcs
    simp only [List.mem_cons, List.not_mem_nil, or_false] at hpart
    rcases hpart with rfl | rfl | rfl | rfl | rfl | rfl | rfl | rfl | rfl | rfl | rfl | rfl | rfl
    · exact hexText_edge _ hcs
    · exact hexText_rep hcs
    · exact hexText_hyphen hcs
    · exact hexText_rep hcs
    · exact hexText_hyphen hcs
    · exact hexText_oneOf (by decide) hcs
    · exact hexText_rep hcs
    · exact hexText_hyphen hcs
    · exact hexText_oneOf (by decide) hcs
    · exact hexText_rep hcs
    · exact hexText_hyphen hcs
    · exact hexText_rep hcs
    · exact hexText_edge _ hcs
  exact Uuid.parse_of_isHexDigit u hhex.1 hhex.2

end HotAirBalloon.Agent
