import HotAirBalloon.Agent.DeterministicIntent
import HotAirBalloon.Python.LetterCase

/-!
# Parsers that raise

`resolve_intent` looks up the number word of a limit and `RegexReferenceQueryParser.parse` an
ordinal, both in lower case and in a table that has an entry for every word of the pattern. The
patterns ignore case, so they also accept words with U+0130, U+0131 or U+017F, which no entry has.
`parsersReturn` says that this is the only way in which a query makes a parser raise.
-/

namespace HotAirBalloon.Agent

open Python Python.Re Regex Pattern Gateway

/-! ## References to earlier results -/

inductive ReferenceOperation where
  | field
  | maximum
  | minimum
  deriving DecidableEq

structure ReferenceRequest where
  fieldName : String
  operation : ReferenceOperation := .field
  ordinal : Option Int := none

/-- The configured patterns. A valid pattern is given by its search, that is by whether it is found
in a query, so it may be of any syntax; `reference_pattern` keeps its default. -/
structure RegexReferenceQueryParser where
  fieldPatterns : List ((String → Bool) × String)
  maximumPatterns : List (String → Bool) := []
  minimumPatterns : List (String → Bool) := []

def ordinalWords : List (String × Int) :=
  [("first", 0), ("second", 1), ("third", 2), ("fourth", 3), ("fifth", 4)]

section

variable (py : Interpreter)

/-- `reference_pattern`. -/
def referencePattern : TextPattern :=
  alts [
    seqs [wordEdge py, words ["above", "previous", "those", "they", "them", "these", "it"],
      wordEdge py],
    seqs [wordEdge py, opt (seqs [lit "the", plus space]),
      words ["first", "second", "third", "fourth", "fifth"], plus space, words ["one", "item"],
      wordEdge py]]

/-- Group 1 is `ordinal`. -/
def ordinalPattern : TextPattern :=
  seqs [wordEdge py, group 1 (words ["first", "second", "third", "fourth", "fifth"]), plus space,
    words ["one", "item"], wordEdge py]

/-- `_extract_ordinal`. -/
def extractOrdinal (query : String) : Except PyError (Option Int) :=
  match find (ordinalPattern py) query with
  | none => .ok none
  | some ordinalMatch =>
    let word := py.lower (Re.group ordinalMatch 1)
    match ordinalWords.lookup word with
    | some ordinal => .ok (some ordinal)
    | none => .error (PyError.keyError word)

namespace RegexReferenceQueryParser

variable (parser : RegexReferenceQueryParser)

/-- The first configured field whose pattern is found. -/
def fieldName (query : String) : Option String :=
  (parser.fieldPatterns.find? (fun configured => configured.1 query)).map (·.2)

/-- `_operation`. -/
def operation (query : String) : ReferenceOperation :=
  if parser.maximumPatterns.any (fun pattern => pattern query) then .maximum
  else if parser.minimumPatterns.any (fun pattern => pattern query) then .minimum
  else .field

def parse (query : String) : Except PyError (Option ReferenceRequest) :=
  if !found (referencePattern py) query then .ok none
  else
    match parser.fieldName query with
    | none => .ok none
    | some fieldName =>
      match extractOrdinal py query with
      | .error e => .error e
      | .ok ordinal => .ok (some ⟨fieldName, parser.operation query, ordinal⟩)

end RegexReferenceQueryParser

/-! ## Queries that the parsers can read -/

/-- A text without U+0130, U+0131 and U+017F. -/
def plainLetters (s : String) : Bool :=
  s.toList.all (fun c => decide (c.toNat ∉ [0x130, 0x131, 0x17F]))

/-- Where `resolve_intent` reads a limit, it is written in plain letters. -/
def PlainLimit (query : String) : Prop :=
  found (noToolPattern py) query = true ∨ found (informationalPattern py) query = true ∨
    ∀ m, find (limitPattern py) query = some m → plainLetters (Re.group m 1) = true

/-- Where the reference parser reads an ordinal, it is written in plain letters. -/
def PlainOrdinal (parser : RegexReferenceQueryParser) (query : String) : Prop :=
  found (referencePattern py) query = false ∨ parser.fieldName query = none ∨
    ∀ m, find (ordinalPattern py) query = some m → plainLetters (Re.group m 1) = true

end

/-! ## Words that a table has -/

/-- A key of the tables: lower case letters other than `k`. -/
def isNumeral (w : String) : Bool :=
  !w.toList.isEmpty && w.toList.all (fun c => c.isLower && c != 'k')

theorem limitWords_numerals : limitWords.all (fun entry => isNumeral entry.1) = true := by
  decide

theorem ordinalWords_numerals : ordinalWords.all (fun entry => isNumeral entry.1) = true := by
  decide

section

variable {w s : String}

theorem isLower_of_isNumeral (hw : isNumeral w = true) {c : Char} (hc : c ∈ w.toList) :
    c.isLower = true ∧ c ≠ 'k' := by
  have hall := List.all_eq_true.mp ((Bool.and_eq_true _ _).mp hw).2 c hc
  simpa using hall

theorem map_foldCase_numeral (hw : isNumeral w = true) : w.toList.map foldCase = w.toList := by
  have hfold : ∀ c ∈ w.toList, foldCase c = c := by
    intro c hc
    obtain ⟨hlow, hhigh⟩ := isLower_toNat (isLower_of_isNumeral hw hc).1
    rw [foldCase_ascii (by omega)]
    unfold asciiLower
    exact if_neg (by omega)
  rw [List.map_congr_left hfold, List.map_id']

variable (hw : isNumeral w = true) (hs : s.toList.map foldCase = w.toList.map foldCase)

include hw hs

/-- A character of a word that matches a key matches a letter of the key. -/
theorem foldCase_numeral {c : Char} (hc : c ∈ s.toList) :
    (foldCase c).isLower = true ∧ foldCase c ≠ 'k' := by
  apply isLower_of_isNumeral hw
  rw [← map_foldCase_numeral hw, ← hs]
  exact List.mem_map_of_mem hc

theorem isFoldable_numeral : isFoldable s = true := by
  apply List.all_eq_true.mpr
  intro c hc
  obtain ⟨-, hhigh⟩ := isLower_toNat (foldCase_numeral hw hs hc).1
  exact foldable_of_foldCase (by omega)

/-- In plain letters the word is in lower case the key. -/
theorem lower_numeral (u : UnicodeData) (hplain : plainLetters s = true) : u.lower s = w := by
  have hascii : ∀ c ∈ s.toList, c.toNat < 128 := by
    intro c hc
    have hnot : c.toNat ∉ [0x130, 0x131, 0x17F] :=
      of_decide_eq_true (List.all_eq_true.mp hplain c hc)
    rcases (Bool.or_eq_true _ _).mp (List.all_eq_true.mp (isFoldable_numeral hw hs) c hc) with h | h
    · exact of_decide_eq_true h
    · have hkelvin : c.toNat = 0x212A := by
        have hmem : c.toNat ∈ [0x130, 0x131, 0x17F, 0x212A] := of_decide_eq_true h
        simp only [List.mem_cons, List.not_mem_nil, or_false] at hmem hnot
        omega
      have hk : foldCase c = 'k' := by
        unfold foldCase
        rw [hkelvin]
        rfl
      exact absurd hk (foldCase_numeral hw hs hc).2
  have hall : isAscii s = true :=
    List.all_eq_true.mpr (fun c hc => decide_eq_true (hascii c hc))
  have hfold : ∀ c ∈ s.toList, asciiLower c = foldCase c :=
    fun c hc => (foldCase_ascii (hascii c hc)).symm
  rw [u.lower_ascii s hall, List.map_congr_left hfold, hs, map_foldCase_numeral hw,
    String.ofList_toList]

end

section

variable {u : UnicodeData} (hcase : u.LetterCase) {w s : String} (hw : isNumeral w = true)
  (hs : s.toList.map foldCase = w.toList.map foldCase)

include hcase hw hs

/-- In other letters the word is in lower case no key. -/
theorem lower_ne_numeral (hplain : plainLetters s = false) {key : String}
    (hkey : isNumeral key = true) : u.lower s ≠ key := by
  obtain ⟨c, hc, hspecial⟩ := List.all_eq_false.mp hplain
  have hmem : c.toNat ∈ [0x130, 0x131, 0x17F] := by
    by_contra hnot
    exact hspecial (decide_eq_true hnot)
  have hlower : ∃ d ∈ lowerLetter c, 128 ≤ d.toNat := by
    simp only [List.mem_cons, List.not_mem_nil, or_false] at hmem
    rcases hmem with hmem | hmem | hmem
    · exact ⟨'\u0307', by simp [lowerLetter, hmem], by decide⟩
    · refine ⟨c, ?_, by omega⟩
      have hkeep : asciiLower c = c := if_neg (by omega)
      simp [lowerLetter, hmem, hkeep]
    · refine ⟨c, ?_, by omega⟩
      have hkeep : asciiLower c = c := if_neg (by omega)
      simp [lowerLetter, hmem, hkeep]
  obtain ⟨d, hd, hlarge⟩ := hlower
  intro heq
  rw [hcase.lower_foldable s (isFoldable_numeral hw hs)] at heq
  have hdkey : d ∈ key.toList := by
    rw [← heq, String.toList_ofList]
    exact List.mem_flatMap.mpr ⟨c, hc, hd⟩
  obtain ⟨-, hhigh⟩ := isLower_toNat (isLower_of_isNumeral hkey hdkey).1
  omega

/-- The word has a character that is no decimal digit in lower case either. -/
theorem exists_not_decimal : ∃ d ∈ (u.lower s).toList, u.decimal d = none := by
  have hletter : ∀ d : Char, d.isLower = true → u.decimal d = none := by
    intro d hd
    obtain ⟨hlow, hhigh⟩ := isLower_toNat hd
    rw [u.decimal_ascii d (by omega)]
    apply if_neg
    intro hdigit
    have := isDigit_toNat hdigit
    omega
  have hnonempty : s.toList ≠ [] := by
    intro hnil
    rw [hnil] at hs
    have hwnil : w.toList = [] := List.map_eq_nil_iff.mp hs.symm
    unfold isNumeral at hw
    rw [hwnil] at hw
    cases hw
  obtain ⟨c, hc⟩ := List.exists_mem_of_ne_nil _ hnonempty
  have hlower := (foldCase_numeral hw hs hc).1
  rw [hcase.lower_foldable s (isFoldable_numeral hw hs), String.toList_ofList]
  have hin : ∀ {d}, d ∈ lowerLetter c → d ∈ s.toList.flatMap lowerLetter :=
    fun hd => List.mem_flatMap.mpr ⟨c, hc, hd⟩
  rcases (Bool.or_eq_true _ _).mp (List.all_eq_true.mp (isFoldable_numeral hw hs) c hc) with h | h
  · have hascii : c.toNat < 128 := of_decide_eq_true h
    rw [foldCase_ascii hascii] at hlower
    refine ⟨asciiLower c, hin ?_, hletter _ hlower⟩
    rw [lowerLetter_ascii hascii]
    exact List.mem_singleton_self _
  · have hmem : c.toNat ∈ [0x130, 0x131, 0x17F, 0x212A] := of_decide_eq_true h
    have hnone := hcase.decimal_caseLetter c h
    simp only [List.mem_cons, List.not_mem_nil, or_false] at hmem
    have hkeep : asciiLower c = c := if_neg (by omega)
    rcases hmem with hmem | hmem | hmem | hmem
    · exact ⟨'i', hin (by simp [lowerLetter, hmem]), hletter 'i' rfl⟩
    · exact ⟨c, hin (by simp [lowerLetter, hmem, hkeep]), hnone⟩
    · exact ⟨c, hin (by simp [lowerLetter, hmem, hkeep]), hnone⟩
    · exact ⟨'k', hin (by simp [lowerLetter, hmem]), hletter 'k' rfl⟩

/-- The table has an entry for the word exactly when it is written in plain letters. -/
theorem lookup_lower_numeral {table : List (String × Int)}
    (htable : table.all (fun entry => isNumeral entry.1) = true) (hmem : w ∈ table.map (·.1)) :
    (table.lookup (u.lower s)).isSome = plainLetters s := by
  cases hplain : plainLetters s with
  | true =>
    rw [lower_numeral hw hs u hplain, List.lookup_isSome_iff]
    obtain ⟨entry, hentry, rfl⟩ := List.mem_map.mp hmem
    exact ⟨entry, hentry, beq_self_eq_true _⟩
  | false =>
    rw [Bool.eq_false_iff]
    intro hsome
    obtain ⟨entry, hentry, heq⟩ := List.lookup_isSome_iff.mp hsome
    exact lower_ne_numeral hcase hw hs hplain (List.all_eq_true.mp htable entry hentry)
      (beq_iff_eq.mp heq)

end

/-! ## Limits and ordinals -/

/-- What follows a computation and never raises can be left out. -/
theorem isOk_bind_of {α β : Type} {x : Except PyError α} {f : α → Except PyError β}
    (h : ∀ a, (f a).isOk = true) : (x >>= f).isOk = x.isOk := by
  cases x with
  | error e => rfl
  | ok a => exact h a

section

variable {py : Interpreter} {query : String} {m : Match Char}

theorem limitPattern_groups : (limitPattern py).groups =
    [(1, alts (plus (digit py.toUnicodeData) :: limitWords.map (fun w => lit w.1)))] := by
  have hwords : (limitWords.map (fun w => lit w.1)).flatMap groups = [] := by
    rw [List.flatMap_map]
    exact List.flatMap_eq_nil_iff.mpr (fun w _ => groups_lit w.1)
  simp [limitPattern, wordEdge, edge, digit, space, hwords]

theorem ordinalPattern_groups : (ordinalPattern py).groups =
    [(1, words ["first", "second", "third", "fourth", "fifth"])] := by
  simp [ordinalPattern, wordEdge, edge, space]

/-- A limit is a decimal number or matches a number word. -/
theorem limit_cases (h : find (limitPattern py) query = some m) :
    ((Re.group m 1).toList ≠ [] ∧ ∀ c ∈ (Re.group m 1).toList, (py.decimal c).isSome = true) ∨
      ∃ w ∈ limitWords.map (·.1),
        (Re.group m 1).toList.map foldCase = w.toList.map foldCase := by
  obtain ⟨cs, ⟨inner, hinner, hcs⟩, -, hgroup⟩ :=
    (search_of h).group (by rfl : (limitPattern py).captures 1 = true)
  rw [limitPattern_groups, List.mem_singleton] at hinner
  cases hinner
  unfold Re.group
  rw [hgroup, Option.getD_some, String.toList_ofList]
  obtain ⟨r, hr, hread⟩ := mem_language_alts.mp hcs
  rcases List.mem_cons.mp hr with rfl | hr
  · left
    obtain ⟨front, ⟨c, -, rfl⟩, back, -, rfl⟩ := mem_language_plus hread
    exact ⟨List.cons_ne_nil _ _, symbols_of_mem_language _ hread⟩
  · right
    obtain ⟨entry, hentry, rfl⟩ := List.mem_map.mp hr
    exact ⟨entry.1, List.mem_map_of_mem hentry, map_of_mem_language_lit hread⟩

theorem ordinal_cases (h : find (ordinalPattern py) query = some m) :
    ∃ w ∈ ordinalWords.map (·.1),
      (Re.group m 1).toList.map foldCase = w.toList.map foldCase := by
  obtain ⟨cs, ⟨inner, hinner, hcs⟩, -, hgroup⟩ :=
    (search_of h).group (by rfl : (ordinalPattern py).captures 1 = true)
  rw [ordinalPattern_groups, List.mem_singleton] at hinner
  cases hinner
  unfold Re.group
  rw [hgroup, Option.getD_some, String.toList_ofList]
  obtain ⟨r, hr, hread⟩ := mem_language_alts.mp hcs
  obtain ⟨w, hw, rfl⟩ := List.mem_map.mp hr
  exact ⟨w, hw, map_of_mem_language_lit hread⟩

/-- A group is no longer than the query. -/
theorem group_length_le (h : find (limitPattern py) query = some m) :
    (Re.group m 1).length ≤ query.length := by
  obtain ⟨cs, -, hpart, hgroup⟩ :=
    (search_of h).group (by rfl : (limitPattern py).captures 1 = true)
  unfold Re.group
  rw [hgroup, Option.getD_some, ← String.length_toList, ← String.length_toList,
    String.toList_ofList]
  exact hpart.length_le

variable (hcase : py.LetterCase)

include hcase

/-- The value of a limit is found exactly when the limit is written in plain letters. -/
theorem limitValue_isOk (hlength : query.length ≤ 500) (h : find (limitPattern py) query = some m) :
    (limitValue py (py.lower (Re.group m 1))).isOk = plainLetters (Re.group m 1) := by
  unfold limitValue
  rcases limit_cases h with ⟨hne, hdecimals⟩ | ⟨w, hw, hs⟩
  · have hdecimal : isDecimal py (Re.group m 1) = true := by
      unfold isDecimal
      rw [Bool.and_eq_true]
      refine ⟨?_, List.all_eq_true.mpr hdecimals⟩
      rw [Bool.not_eq_true', ← Bool.not_eq_true, String.isEmpty_iff]
      intro hempty
      rw [hempty] at hne
      exact hne rfl
    have hplain : plainLetters (Re.group m 1) = true := by
      apply List.all_eq_true.mpr
      intro c hc
      apply decide_eq_true
      intro hmem
      have hspecial : isCaseLetter c = true := by
        apply decide_eq_true
        simp only [List.mem_cons, List.not_mem_nil, or_false] at hmem ⊢
        omega
      have hsome := hdecimals c hc
      rw [hcase.decimal_caseLetter c hspecial] at hsome
      cases hsome
    have hshort : ¬4300 < (Re.group m 1).toList.length := by
      have hle := group_length_le h
      rw [String.length_toList]
      omega
    rw [hcase.lower_decimals _ hdecimals, if_pos hdecimal, hplain]
    unfold intOfDecimal
    rw [if_neg hshort]
    rfl
  · have hnumeral : isNumeral w = true := by
      obtain ⟨entry, hentry, rfl⟩ := List.mem_map.mp hw
      exact List.all_eq_true.mp limitWords_numerals entry hentry
    have hnot : isDecimal py (py.lower (Re.group m 1)) = false := by
      obtain ⟨d, hd, hnone⟩ := exists_not_decimal hcase hnumeral hs
      unfold isDecimal
      rw [Bool.and_eq_false_iff]
      right
      apply List.all_eq_false.mpr
      exact ⟨d, hd, by rw [hnone]; decide⟩
    rw [if_neg (by rw [hnot]; decide),
      ← lookup_lower_numeral hcase hnumeral hs limitWords_numerals hw]
    cases limitWords.lookup (py.lower (Re.group m 1)) <;> rfl

theorem commonPayload_isOk (hlength : query.length ≤ 500) :
    (commonPayload py query).isOk = true ↔
      ∀ m, find (limitPattern py) query = some m → plainLetters (Re.group m 1) = true := by
  unfold commonPayload
  rw [isOk_bind_of (by intro limit; cases limit <;> rfl)]
  unfold extractLimit
  cases hfind : find (limitPattern py) query with
  | none =>
    refine ⟨fun _ m hm => ?_, fun _ => rfl⟩
    cases hm
  | some m =>
    dsimp only
    rw [isOk_bind_of (fun _ => rfl), limitValue_isOk hcase hlength hfind]
    constructor
    · intro h m' hm'
      cases hm'
      exact h
    · intro h
      exact h m rfl

/-- Past the first two patterns, `resolve_intent` raises only in `_common_payload`. -/
theorem resolveIntent_isOk (hlength : query.length ≤ 500) :
    (resolveIntent py query).isOk = true ↔ PlainLimit py query := by
  unfold PlainLimit
  rw [← commonPayload_isOk hcase hlength]
  unfold resolveIntent
  cases found (noToolPattern py) query with
  | true => exact ⟨fun _ => .inl rfl, fun _ => rfl⟩
  | false =>
    cases found (informationalPattern py) query with
    | true => exact ⟨fun _ => .inr (.inl rfl), fun _ => rfl⟩
    | false =>
      simp only [Bool.false_eq_true, if_false, false_or]
      rw [isOk_bind_of]
      intro payload
      split
      · rfl
      split
      · rfl
      split
      · rfl
      split
      · rfl
      split
      · split <;> rfl
      · rfl

theorem extractOrdinal_isOk (h : find (ordinalPattern py) query = some m) :
    (extractOrdinal py query).isOk = plainLetters (Re.group m 1) := by
  obtain ⟨w, hw, hs⟩ := ordinal_cases h
  have hnumeral : isNumeral w = true := by
    obtain ⟨entry, hentry, rfl⟩ := List.mem_map.mp hw
    exact List.all_eq_true.mp ordinalWords_numerals entry hentry
  unfold extractOrdinal
  rw [h, ← lookup_lower_numeral hcase hnumeral hs ordinalWords_numerals hw]
  dsimp only
  cases ordinalWords.lookup (py.lower (Re.group m 1)) <;> rfl

theorem parse_isOk (parser : RegexReferenceQueryParser) :
    (parser.parse py query).isOk = true ↔ PlainOrdinal py parser query := by
  unfold RegexReferenceQueryParser.parse PlainOrdinal
  cases found (referencePattern py) query with
  | false => exact ⟨fun _ => .inl rfl, fun _ => rfl⟩
  | true =>
    cases parser.fieldName query with
    | none => exact ⟨fun _ => .inr (.inl rfl), fun _ => rfl⟩
    | some fieldName =>
      have hordinal : (extractOrdinal py query).isOk = true ↔
          ∀ m, find (ordinalPattern py) query = some m → plainLetters (Re.group m 1) = true := by
        cases hfind : find (ordinalPattern py) query with
        | none =>
          unfold extractOrdinal
          rw [hfind]
          refine ⟨fun _ m hm => ?_, fun _ => rfl⟩
          cases hm
        | some m =>
          rw [extractOrdinal_isOk hcase hfind]
          constructor
          · intro h m' hm'
            cases hm'
            exact h
          · intro h
            exact h m rfl
      rw [← hordinal]
      cases extractOrdinal py query with
      | error e => simp [Except.isOk, Except.toBool]
      | ok ordinal => simp [Except.isOk, Except.toBool]

/-- On a query of the permitted length both parsers return exactly when the limit and the ordinal
that they read are written in plain letters. -/
theorem parsersReturn (parser : RegexReferenceQueryParser) (hlength : query.length ≤ 500) :
    ((resolveIntent py query).isOk = true ∧ (parser.parse py query).isOk = true) ↔
      PlainLimit py query ∧ PlainOrdinal py parser query :=
  and_congr (resolveIntent_isOk hcase hlength) (parse_isOk hcase parser)

end

/-- The parser of a policy with one field. -/
def dueParser : RegexReferenceQueryParser where
  fieldPatterns := [(found (seqs [wordEdge .letters, lit "due", wordEdge .letters]), "due_at")]

theorem parsersReturn_six :
    (resolveIntent .letters "Show six work orders").isOk = true ∧
      (dueParser.parse .letters "Show six work orders").isOk = true := by
  apply (parsersReturn UnicodeData.letters_letterCase dueParser (by decide)).mpr
  refine ⟨.inr (.inr ?_), .inl (by decide)⟩
  have hplain : (find (limitPattern .letters) "Show six work orders").all
      (fun m => plainLetters (Re.group m 1)) = true := by
    decide
  intro m hm
  rw [hm] at hplain
  exact hplain

/-- A number word and an ordinal with U+0131 make the parsers raise. -/
theorem not_parsersReturn :
    (¬∀ query : String, query.length ≤ 500 → (resolveIntent .letters query).isOk = true) ∧
      ¬∀ (parser : RegexReferenceQueryParser) (query : String), query.length ≤ 500 →
        (parser.parse .letters query).isOk = true := by
  constructor
  · intro hreturns
    have hlimit := hreturns "Show s\u0131x work orders" (by decide)
    have hraises : (resolveIntent .letters "Show s\u0131x work orders").isOk = false := by
      decide
    rw [hraises] at hlimit
    cases hlimit
  · intro hreturns
    have hordinal := hreturns dueParser "When is the f\u0131rst item due?" (by decide)
    have hraises : (dueParser.parse .letters "When is the f\u0131rst item due?").isOk = false := by
      decide
    rw [hraises] at hordinal
    cases hordinal

end HotAirBalloon.Agent
