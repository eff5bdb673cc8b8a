import HotAirBalloon.Python.Text

/-!
# UUIDs

`uuid.UUID` as its 128-bit integer, `str(u)` and the constructor `UUID(text)`. The
constructor is lenient: it drops `urn:` and `uuid:`, braces and hyphens, and then reads 32
characters with `int(hex, 16)`, which accepts blanks, a sign, a `0x` prefix and single
underscores. `parse_str` says that it reads back what `str` writes.
-/

namespace HotAirBalloon.Python

/-- A `uuid.UUID`. -/
structure Uuid where
  int : Fin (2 ^ 128)
  deriving DecidableEq

namespace Uuid

instance : Inhabited Uuid := ⟨⟨0⟩⟩

/-- The UUID of a small number, for runs on fixed inputs. -/
def ofNat (n : Nat) : Uuid := ⟨Fin.ofNat _ n⟩

/-! ## Writing -/

/-- A hexadecimal digit in lower case. -/
def hexChar (d : Nat) : Char := if d < 10 then Char.ofNat (48 + d) else Char.ofNat (87 + d)

/-- The last `width` hexadecimal digits of `n`, most significant first. -/
def hexDigits : Nat → Nat → List Char
  | 0, _ => []
  | width + 1, n => hexDigits width (n / 16) ++ [hexChar (n % 16)]

/-- `uuid.hex`, the 32 digits. -/
def hex (u : Uuid) : List Char := hexDigits 32 u.int.val

/-- The characters of `str(u)`: the digits in groups of 8, 4, 4, 4 and 12. -/
def strChars (u : Uuid) : List Char :=
  u.hex.take 8 ++ '-' :: ((u.hex.drop 8).take 4 ++ '-' :: ((u.hex.drop 12).take 4 ++
    '-' :: ((u.hex.drop 16).take 4 ++ '-' :: u.hex.drop 20)))

/-- `str(u)`. -/
def str (u : Uuid) : String := String.ofList u.strChars

/-! ## Reading -/

/-- `text.replace(pattern, "")` for a nonempty pattern. -/
def removeAll (pattern : List Char) : List Char → List Char
  | [] => []
  | c :: cs =>
    if pattern.isPrefixOf (c :: cs) then removeAll pattern ((c :: cs).drop (max pattern.length 1))
    else c :: removeAll pattern cs
termination_by cs => cs.length
decreasing_by all_goals (simp_wf; try omega)

/-- The value of a character as a digit of `int(text, 16)`. -/
def hexValue? (unicode : UnicodeData) (c : Char) : Option Nat :=
  if 48 ≤ c.toNat ∧ c.toNat ≤ 57 then some (c.toNat - 48)
  else if 97 ≤ c.toNat ∧ c.toNat ≤ 102 then some (c.toNat - 87)
  else if 65 ≤ c.toNat ∧ c.toNat ≤ 70 then some (c.toNat - 55)
  else unicode.decimal c

/-- Digits after the first one; a single underscore may stand before a digit. -/
def digitsFrom (unicode : UnicodeData) : Nat → List Char → Option Nat
  | acc, [] => some acc
  | acc, c :: cs =>
    match hexValue? unicode c with
    | some d => digitsFrom unicode (16 * acc + d) cs
    | none => if c = '_' then underscored unicode acc cs else none
where
  /-- The text after an underscore has to start with a digit. -/
  underscored (unicode : UnicodeData) (acc : Nat) : List Char → Option Nat
    | [] => none
    | c :: cs =>
      match hexValue? unicode c with
      | some d => digitsFrom unicode (16 * acc + d) cs
      | none => none

/-- The magnitude read by `int(text, 16)` once blanks and the sign are gone. -/
def digits16 (unicode : UnicodeData) : List Char → Option Nat
  | [] => none
  | c :: cs =>
    match hexValue? unicode c with
    | some d => digitsFrom unicode d cs
    | none => none

/-- `text[2:]` after a `0x` prefix, together with one underscore after it. -/
def dropPrefix16 : List Char → List Char
  | '0' :: x :: cs =>
    if x = 'x' ∨ x = 'X' then
      match cs with
      | '_' :: rest => rest
      | rest => rest
    else '0' :: x :: cs
  | cs => cs

/-- The text after a plus sign, when there is one. -/
def dropPlus : List Char → List Char
  | '+' :: cs => cs
  | cs => cs

/-- `int(text, 16)` for a text without a minus sign. -/
def int16 (unicode : UnicodeData) (cs : List Char) : Option Nat :=
  digits16 unicode (dropPrefix16 (dropPlus (stripList isSpace cs)))

/-- The characters `UUID(text)` reads as a number. -/
def cleaned (cs : List Char) : List Char :=
  let bare := removeAll "uuid:".toList (removeAll "urn:".toList cs)
  (stripList (fun c => c == '{' || c == '}') bare).filter (· ≠ '-')

/-- `UUID(text)`; `none` is the `ValueError` for a badly formed text. -/
def parse (unicode : UnicodeData) (text : String) : Option Uuid :=
  let digits := cleaned text.toList
  if digits.length ≠ 32 then none
  else
    match int16 unicode digits with
    | none => none
    | some n => if h : n < 2 ^ 128 then some ⟨⟨n, h⟩⟩ else none

/-! ## The round trip -/

theorem hexDigits_length (width n : Nat) : (hexDigits width n).length = width := by
  induction width generalizing n with
  | zero => rfl
  | succ width ih => simp [hexDigits, ih]

theorem hexChar_all : ∀ d < 16, hexChar d ∈ "0123456789abcdef".toList := by decide

theorem hexDigits_mem {width n : Nat} {c : Char} (h : c ∈ hexDigits width n) :
    c ∈ "0123456789abcdef".toList := by
  induction width generalizing n with
  | zero => simp [hexDigits] at h
  | succ width ih =>
    rcases List.mem_append.mp h with h | h
    · exact ih h
    · rw [List.mem_singleton.mp h]
      exact hexChar_all _ (Nat.mod_lt _ (by omega))

theorem hexValue?_hexChar (unicode : UnicodeData) {d : Nat} (h : d < 16) :
    hexValue? unicode (hexChar d) = some d := by
  unfold hexValue?
  interval_cases d <;> rfl

theorem digitsFrom_cons {unicode : UnicodeData} {c : Char} {d : Nat}
    (h : hexValue? unicode c = some d) (acc : Nat) (cs : List Char) :
    digitsFrom unicode acc (c :: cs) = digitsFrom unicode (16 * acc + d) cs := by
  simp only [digitsFrom, h]

theorem digitsFrom_hexDigits (unicode : UnicodeData) (width n acc : Nat) (rest : List Char) :
    digitsFrom unicode acc (hexDigits width n ++ rest) =
      digitsFrom unicode (acc * 16 ^ width + n % 16 ^ width) rest := by
  induction width generalizing n rest with
  | zero => simp [hexDigits, Nat.mod_one]
  | succ width ih =>
    rw [hexDigits, List.append_assoc, ih]
    have hd : n % 16 < 16 := Nat.mod_lt _ (by omega)
    rw [List.singleton_append, digitsFrom_cons (hexValue?_hexChar unicode hd)]
    have hsplit : n % 16 ^ (width + 1) = 16 * (n / 16 % 16 ^ width) + n % 16 := by
      rw [pow_succ, Nat.mul_comm, Nat.mod_mul]
      omega
    have hacc : 16 * (acc * 16 ^ width + n / 16 % 16 ^ width) + n % 16 =
        acc * 16 ^ (width + 1) + n % 16 ^ (width + 1) := by
      rw [hsplit, pow_succ]
      ring
    rw [hacc]

theorem digits16_hexDigits (unicode : UnicodeData) (width n : Nat) (hn : n < 16 ^ (width + 1)) :
    digits16 unicode (hexDigits (width + 1) n) = some n := by
  have hzero := digitsFrom_hexDigits unicode (width + 1) n 0 []
  rw [List.append_nil, Nat.zero_mul, Nat.zero_add, Nat.mod_eq_of_lt hn] at hzero
  cases hcs : hexDigits (width + 1) n with
  | nil =>
    have := hexDigits_length (width + 1) n
    rw [hcs] at this
    simp at this
  | cons c cs =>
    rw [hcs] at hzero
    have hmem : c ∈ "0123456789abcdef".toList := hexDigits_mem (hcs ▸ List.mem_cons_self)
    have hvalue : ∀ c ∈ "0123456789abcdef".toList, ∃ d, hexValue? unicode c = some d := by
      intro c hc
      simp only [String.reduceToList, List.mem_cons, List.not_mem_nil, or_false] at hc
      rcases hc with rfl | rfl | rfl | rfl | rfl | rfl | rfl | rfl | rfl | rfl | rfl | rfl | rfl |
        rfl | rfl | rfl <;> exact ⟨_, rfl⟩
    obtain ⟨d, hd⟩ := hvalue c hmem
    rw [digitsFrom_cons hd, Nat.mul_zero, Nat.zero_add] at hzero
    simp only [digits16, hd, hzero, digitsFrom]

theorem removeAll_of_not_mem {x : Char} {xs cs : List Char} (h : x ∉ cs) :
    removeAll (x :: xs) cs = cs := by
  induction cs with
  | nil => rw [removeAll]
  | cons c cs ih =>
    have hne : x ≠ c := fun he => h (he ▸ List.mem_cons_self)
    have hpre : (x :: xs).isPrefixOf (c :: cs) = false := by
      simp [List.isPrefixOf, hne]
    rw [removeAll, hpre, ih (fun hm => h (List.mem_cons_of_mem _ hm))]
    rfl

theorem stripList_of_forall_not {p : Char → Bool} {cs : List Char} (h : ∀ c ∈ cs, p c = false) :
    stripList p cs = cs := by
  have hfront : cs.dropWhile p = cs := by
    rw [List.dropWhile_eq_self_iff]
    intro hlen
    simp [h _ (List.getElem_mem hlen)]
  unfold stripList
  rw [hfront, List.rdropWhile_eq_self_iff]
  intro hne
  simp [h _ (List.getLast_mem hne)]

theorem strChars_mem {u : Uuid} {c : Char} (h : c ∈ u.strChars) :
    c ∈ "-0123456789abcdef".toList := by
  have hdigit : ∀ {c}, c ∈ u.hex → c ∈ "-0123456789abcdef".toList := fun hc =>
    List.mem_cons_of_mem _ (hexDigits_mem hc)
  have hdash : '-' ∈ "-0123456789abcdef".toList := List.mem_cons_self
  simp only [strChars, List.mem_append, List.mem_cons] at h
  rcases h with h | rfl | h | rfl | h | rfl | h | rfl | h
  · exact hdigit (List.mem_of_mem_take h)
  · exact hdash
  · exact hdigit (List.mem_of_mem_drop (List.mem_of_mem_take h))
  · exact hdash
  · exact hdigit (List.mem_of_mem_drop (List.mem_of_mem_take h))
  · exact hdash
  · exact hdigit (List.mem_of_mem_drop (List.mem_of_mem_take h))
  · exact hdash
  · exact hdigit (List.mem_of_mem_drop h)

theorem hex_filter (u : Uuid) : u.strChars.filter (· ≠ '-') = u.hex := by
  have hkeep : ∀ l : List Char, (∀ c ∈ l, c ∈ u.hex) → l.filter (· ≠ '-') = l := by
    intro l hl
    apply List.filter_eq_self.mpr
    intro c hc
    have hm := hexDigits_mem (hl c hc)
    have hall : ∀ c ∈ "0123456789abcdef".toList, decide (c ≠ '-') = true :=
      List.all_eq_true.mp (by decide)
    exact hall c hm
  have h1 := hkeep (u.hex.take 8) (fun c hc => List.mem_of_mem_take hc)
  have h2 := hkeep ((u.hex.drop 8).take 4)
    (fun c hc => List.mem_of_mem_drop (List.mem_of_mem_take hc))
  have h3 := hkeep ((u.hex.drop 12).take 4)
    (fun c hc => List.mem_of_mem_drop (List.mem_of_mem_take hc))
  have h4 := hkeep ((u.hex.drop 16).take 4)
    (fun c hc => List.mem_of_mem_drop (List.mem_of_mem_take hc))
  have h5 := hkeep (u.hex.drop 20) (fun c hc => List.mem_of_mem_drop hc)
  have hdash : ∀ l : List Char, ('-' :: l).filter (· ≠ '-') = l.filter (· ≠ '-') := fun l => by
    simp
  unfold strChars
  rw [List.filter_append, hdash, List.filter_append, hdash, List.filter_append, hdash,
    List.filter_append, hdash, h1, h2, h3, h4, h5]
  have e16 : (u.hex.drop 16).take 4 ++ u.hex.drop 20 = u.hex.drop 16 := by
    have := List.take_append_drop 4 (u.hex.drop 16)
    rwa [List.drop_drop] at this
  have e12 : (u.hex.drop 12).take 4 ++ u.hex.drop 16 = u.hex.drop 12 := by
    have := List.take_append_drop 4 (u.hex.drop 12)
    rwa [List.drop_drop] at this
  have e8 : (u.hex.drop 8).take 4 ++ u.hex.drop 12 = u.hex.drop 8 := by
    have := List.take_append_drop 4 (u.hex.drop 8)
    rwa [List.drop_drop] at this
  rw [e16, e12, e8, List.take_append_drop]

def isHexDigit (c : Char) : Bool :=
  (48 ≤ c.toNat && c.toNat ≤ 57) || (97 ≤ c.toNat && c.toNat ≤ 102) ||
    (65 ≤ c.toNat && c.toNat ≤ 70)

theorem toNat_isHexDigit {c : Char} (h : isHexDigit c = true) :
    (48 ≤ c.toNat ∧ c.toNat ≤ 57) ∨ (97 ≤ c.toNat ∧ c.toNat ≤ 102) ∨
      (65 ≤ c.toNat ∧ c.toNat ≤ 70) := by
  simpa [isHexDigit, or_assoc] using h

theorem hexValue?_of_isHexDigit (unicode : UnicodeData) {c : Char} (h : isHexDigit c = true) :
    ∃ d < 16, hexValue? unicode c = some d := by
  unfold hexValue?
  rcases toNat_isHexDigit h with hc | hc | hc
  · exact ⟨c.toNat - 48, by omega, if_pos hc⟩
  · refine ⟨c.toNat - 87, by omega, ?_⟩
    rw [if_neg (by omega), if_pos hc]
  · refine ⟨c.toNat - 55, by omega, ?_⟩
    rw [if_neg (by omega), if_neg (by omega), if_pos hc]

theorem digitsFrom_of_isHexDigit (unicode : UnicodeData) {cs : List Char}
    (h : ∀ c ∈ cs, isHexDigit c = true) (acc : Nat) :
    ∃ n < (acc + 1) * 16 ^ cs.length, digitsFrom unicode acc cs = some n := by
  induction cs generalizing acc with
  | nil => exact ⟨acc, by simp, by simp [digitsFrom]⟩
  | cons c cs ih =>
    obtain ⟨d, hd, hvalue⟩ := hexValue?_of_isHexDigit unicode (h c List.mem_cons_self)
    obtain ⟨n, hn, hrest⟩ := ih (fun c hc => h c (List.mem_cons_of_mem _ hc)) (16 * acc + d)
    refine ⟨n, ?_, by rw [digitsFrom_cons hvalue, hrest]⟩
    have hle : 16 * acc + d + 1 ≤ (acc + 1) * 16 := by omega
    calc n < (16 * acc + d + 1) * 16 ^ cs.length := hn
      _ ≤ (acc + 1) * 16 * 16 ^ cs.length := Nat.mul_le_mul_right _ hle
      _ = (acc + 1) * 16 ^ (c :: cs).length := by rw [List.length_cons, pow_succ]; ring

theorem cleaned_of_isHexDigit {cs : List Char} (h : ∀ c ∈ cs, c = '-' ∨ isHexDigit c = true) :
    cleaned cs = cs.filter (· ≠ '-') := by
  have hne : ∀ {x : Char}, x ≠ '-' → isHexDigit x = false → x ∉ cs := by
    intro x hdash hhex hx
    rcases h x hx with rfl | hx
    · exact hdash rfl
    · rw [hhex] at hx
      cases hx
  have hu : 'u' ∉ cs := hne (by decide) (by decide)
  have hopen : '{' ∉ cs := hne (by decide) (by decide)
  have hclose : '}' ∉ cs := hne (by decide) (by decide)
  have hbrace : ∀ c ∈ cs, (c == '{' || c == '}') = false := by
    intro c hc
    rw [Bool.or_eq_false_iff, beq_eq_false_iff_ne, beq_eq_false_iff_ne]
    exact ⟨fun heq => hopen (heq ▸ hc), fun heq => hclose (heq ▸ hc)⟩
  have hurn : "urn:".toList = 'u' :: "rn:".toList := by decide
  have huuid : "uuid:".toList = 'u' :: "uid:".toList := by decide
  unfold cleaned
  rw [hurn, removeAll_of_not_mem hu, huuid, removeAll_of_not_mem hu]
  simp only
  rw [stripList_of_forall_not hbrace]

/-- A text of hexadecimal digits has no blanks, no sign and no prefix. -/
theorem int16_of_isHexDigit (unicode : UnicodeData) {cs : List Char}
    (h : ∀ c ∈ cs, isHexDigit c = true) : int16 unicode cs = digits16 unicode cs := by
  have hspace : ∀ c ∈ cs, isSpace c = false := by
    intro c hc
    have hrange := toNat_isHexDigit (h c hc)
    simp only [isSpace, Bool.or_eq_false_iff, Bool.and_eq_false_iff, decide_eq_false_iff_not,
      beq_eq_false_iff_ne]
    omega
  have hplus : '+' ∉ cs := by
    intro hmem
    have hrange := toNat_isHexDigit (h _ hmem)
    simp at hrange
  have hx : ∀ x, x ∈ cs → ¬(x = 'x' ∨ x = 'X') := by
    intro x hmem heq
    have hrange := toNat_isHexDigit (h x hmem)
    rcases heq with rfl | rfl <;> simp at hrange
  unfold int16
  rw [stripList_of_forall_not hspace]
  have hsign : dropPlus cs = cs := by
    unfold dropPlus
    split
    · exact absurd List.mem_cons_self hplus
    · rfl
  have hpre : dropPrefix16 cs = cs := by
    unfold dropPrefix16
    split
    · rw [if_neg (hx _ (by simp))]
    · rfl
  rw [hsign, hpre]

theorem isHexDigit_of_mem {c : Char} (h : c ∈ "0123456789abcdef".toList) : isHexDigit c = true := by
  have hall : "0123456789abcdef".toList.all isHexDigit = true := by decide
  exact List.all_eq_true.mp hall c h

theorem cleaned_strChars (u : Uuid) : cleaned u.strChars = u.hex := by
  rw [cleaned_of_isHexDigit, hex_filter]
  intro c hc
  have hdash : "-0123456789abcdef".toList = '-' :: "0123456789abcdef".toList := by decide
  have hmem := strChars_mem hc
  rw [hdash, List.mem_cons] at hmem
  exact hmem.imp_right isHexDigit_of_mem

theorem int16_hex (unicode : UnicodeData) (u : Uuid) : int16 unicode u.hex = some u.int.val := by
  have hdigits : ∀ c ∈ u.hex, isHexDigit c = true :=
    fun c hc => isHexDigit_of_mem (hexDigits_mem hc)
  rw [int16_of_isHexDigit unicode hdigits]
  exact digits16_hexDigits unicode 31 _ (by have := u.int.isLt; norm_num at this ⊢; omega)

/-- `UUID(str(u)) == u`. -/
theorem parse_str (unicode : UnicodeData) (u : Uuid) : parse unicode u.str = some u := by
  unfold parse str
  rw [String.toList_ofList, cleaned_strChars]
  have hlen : u.hex.length = 32 := hexDigits_length 32 _
  simp only [hlen, ne_eq, not_true_eq_false, if_false, int16_hex]
  rw [dif_pos u.int.isLt]

theorem str_ne_empty (u : Uuid) : u.str ≠ "" := by
  intro h
  have hlist : u.strChars = [] := by
    have := congrArg String.toList h
    simpa [str] using this
  have hmem : '-' ∈ u.strChars := by simp [strChars]
  rw [hlist] at hmem
  simp at hmem

theorem str_injective : Function.Injective str := by
  intro u v h
  have hu := parse_str UnicodeData.ascii u
  rw [h, parse_str] at hu
  exact (Option.some.inj hu).symm

/-- A text of hyphens and 32 hexadecimal digits is read. -/
theorem parse_of_isHexDigit (unicode : UnicodeData) {cs : List Char}
    (h : ∀ c ∈ cs, c = '-' ∨ isHexDigit c = true) (hlength : (cs.filter (· ≠ '-')).length = 32) :
    ∃ u, parse unicode (String.ofList cs) = some u := by
  have hdigits : ∀ c ∈ cs.filter (· ≠ '-'), isHexDigit c = true := by
    intro c hc
    obtain ⟨hmem, hdash⟩ := List.mem_filter.mp hc
    exact (h c hmem).resolve_left (of_decide_eq_true hdash)
  have hread : ∃ n < 2 ^ 128, int16 unicode (cs.filter (· ≠ '-')) = some n := by
    rw [int16_of_isHexDigit unicode hdigits]
    revert hdigits hlength
    generalize cs.filter (· ≠ '-') = ds
    intro hlength hdigits
    cases ds with
    | nil => cases hlength
    | cons c ds =>
      obtain ⟨d, hd, hvalue⟩ := hexValue?_of_isHexDigit unicode (hdigits c List.mem_cons_self)
      obtain ⟨n, hn, hrest⟩ :=
        digitsFrom_of_isHexDigit unicode (fun c hc => hdigits c (List.mem_cons_of_mem _ hc)) d
      refine ⟨n, hn.trans_le ?_, by simp only [digits16, hvalue, hrest]⟩
      have htail : ds.length = 31 := by simpa using hlength
      rw [htail]
      calc (d + 1) * 16 ^ 31 ≤ 16 * 16 ^ 31 := Nat.mul_le_mul_right _ (by omega)
        _ = 2 ^ 128 := by norm_num
  obtain ⟨n, hn, hint⟩ := hread
  unfold parse
  rw [String.toList_ofList, cleaned_of_isHexDigit h]
  refine ⟨⟨⟨n, hn⟩⟩, ?_⟩
  simp only [hlength, ne_eq, not_true_eq_false, if_false]
  simp only [ne_eq] at hint
  rw [hint]
  simp only
  rw [dif_pos hn]

end Uuid

end HotAirBalloon.Python
