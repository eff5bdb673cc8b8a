import Mathlib.Data.List.Basic

/-!
# UTF-8 with replacement

The bytes of a text, and the decoding of any bytes in which the longest beginning of a broken
character, or a byte that no character begins with, becomes U+FFFD. Whole characters decode to
themselves, and all other bytes show a U+FFFD (`exists_of_not_replaced`). The bytes in the middle of
a text divide into later bytes of a character, whole characters and first bytes of a character
(`exists_divides`), which says what they decode to.
-/

namespace HotAirBalloon.Library

/-! ## Encoding -/

/-- The bytes of some characters. -/
def utf8 (cs : List Char) : List UInt8 := cs.flatMap String.utf8EncodeChar

@[simp] theorem utf8_nil : utf8 [] = [] := rfl

@[simp] theorem utf8_cons (c : Char) (cs : List Char) :
    utf8 (c :: cs) = String.utf8EncodeChar c ++ utf8 cs := rfl

theorem length_encode_pos (c : Char) : 0 < (String.utf8EncodeChar c).length := by
  rw [String.length_utf8EncodeChar]
  exact c.utf8Size_pos

/-! ## Decoding -/

/-- The character that some bytes begin with. -/
def firstChar (bytes : List UInt8) : Option Char := bytes.toByteArray.utf8DecodeChar? 0

/-- U+FFFD. -/
def replacement : Char := Char.ofNat 0xFFFD

/-- The second bytes that continue a sequence of three or four bytes. -/
def Continues (b second : UInt8) : Prop :=
  (b = 0xE0 ∧ 0xA0 ≤ second ∧ second ≤ 0xBF) ∨
    (0xE1 ≤ b ∧ b ≤ 0xEC ∧ 0x80 ≤ second ∧ second ≤ 0xBF) ∨
    (b = 0xED ∧ 0x80 ≤ second ∧ second ≤ 0x9F) ∨
      (0xEE ≤ b ∧ b ≤ 0xEF ∧ 0x80 ≤ second ∧ second ≤ 0xBF) ∨
    (b = 0xF0 ∧ 0x90 ≤ second ∧ second ≤ 0xBF) ∨
      (0xF1 ≤ b ∧ b ≤ 0xF3 ∧ 0x80 ≤ second ∧ second ≤ 0xBF) ∨
    (b = 0xF4 ∧ 0x80 ≤ second ∧ second ≤ 0x8F)

instance (b second : UInt8) : Decidable (Continues b second) := by
  unfold Continues
  infer_instance

/-- How many bytes one U+FFFD stands for, where no character begins. -/
def brokenLength : List UInt8 → Nat
  | b :: second :: third :: _ =>
    if Continues b second then if 0xF0 ≤ b ∧ 0x80 ≤ third ∧ third ≤ 0xBF then 3 else 2 else 1
  | [b, second] => if Continues b second then 2 else 1
  | _ => 1

/-- The first characters of the decoding. -/
def decodeUpTo : Nat → List UInt8 → List Char
  | 0, _ => []
  | _ + 1, [] => []
  | n + 1, b :: bytes =>
    match firstChar (b :: bytes) with
    | some c => c :: decodeUpTo n ((b :: bytes).drop (String.utf8EncodeChar c).length)
    | none => replacement :: decodeUpTo n ((b :: bytes).drop (brokenLength (b :: bytes)))

/-- `bytes.decode("utf-8", errors="replace")`. -/
def decodeReplace (bytes : List UInt8) : List Char := decodeUpTo bytes.length bytes

example : decodeReplace [0x61, 0xC3, 0xA9] = ['a', Char.ofNat 0xE9] := by decide

example : decodeReplace [0xA9, 0x61, 0xE2, 0x82] = [replacement, 'a', replacement] := by decide

theorem firstChar_encode (c : Char) (bytes : List UInt8) :
    firstChar (String.utf8EncodeChar c ++ bytes) = some c := by
  unfold firstChar
  rw [List.toByteArray_append]
  exact ByteArray.utf8DecodeChar?_utf8EncodeChar_append

theorem of_firstChar {bytes : List UInt8} {c : Char} (h : firstChar bytes = some c) :
    ∃ rest, bytes = String.utf8EncodeChar c ++ rest := by
  obtain ⟨rest, hrest⟩ := ByteArray.exists_of_utf8DecodeChar?_eq_some h
  have hlist : rest = rest.data.toList.toByteArray := by
    apply ByteArray.ext
    rw [List.data_toByteArray]
  refine ⟨rest.data.toList, ?_⟩
  rw [hlist, ← List.toByteArray_append] at hrest
  exact List.toByteArray_inj.mp hrest

theorem brokenLength_pos (bytes : List UInt8) : 0 < brokenLength bytes := by
  unfold brokenLength
  split
  · split_ifs <;> omega
  · split_ifs <;> omega
  · omega

section

variable {bytes : List UInt8}

/-- Enough is as good as more. -/
theorem decodeUpTo_eq {n m : Nat} (hn : bytes.length ≤ n) (hm : bytes.length ≤ m) :
    decodeUpTo n bytes = decodeUpTo m bytes := by
  induction n generalizing bytes m with
  | zero =>
    rw [List.eq_nil_of_length_eq_zero (Nat.le_zero.mp hn)]
    cases m <;> rfl
  | succ n ih =>
    cases bytes with
    | nil => cases m <;> rfl
    | cons b bytes =>
      rw [List.length_cons] at hn hm
      obtain ⟨m, rfl⟩ : ∃ m', m = m' + 1 := ⟨m - 1, by omega⟩
      -- what is dropped is never nothing
      have hdrop (k : Nat) (hk : 0 < k) :
          decodeUpTo n ((b :: bytes).drop k) = decodeUpTo m ((b :: bytes).drop k) := by
        apply ih <;> rw [List.length_drop, List.length_cons] <;> omega
      simp only [decodeUpTo]
      split
      · rw [hdrop _ (length_encode_pos _)]
      · rw [hdrop _ (brokenLength_pos _)]

theorem decodeReplace_nil : decodeReplace [] = [] := rfl

theorem decodeReplace_encode_append (c : Char) :
    decodeReplace (String.utf8EncodeChar c ++ bytes) = c :: decodeReplace bytes := by
  have hpos := length_encode_pos c
  have hfirst := firstChar_encode c bytes
  cases heq : String.utf8EncodeChar c ++ bytes with
  | nil =>
    have := congrArg List.length heq
    rw [List.length_append, List.length_nil] at this
    omega
  | cons b rest =>
    have hlength := congrArg List.length heq
    rw [List.length_append, List.length_cons] at hlength
    rw [heq] at hfirst
    show decodeUpTo (rest.length + 1) (b :: rest) = _
    simp only [decodeUpTo, hfirst]
    rw [← heq, List.drop_left, decodeUpTo_eq (by omega) (Nat.le_refl _)]
    rfl

theorem decodeReplace_broken (hnonempty : bytes ≠ []) (h : firstChar bytes = none) :
    decodeReplace bytes = replacement :: decodeReplace (bytes.drop (brokenLength bytes)) := by
  cases bytes with
  | nil => exact absurd rfl hnonempty
  | cons b bytes =>
    have hpos := brokenLength_pos (b :: bytes)
    show decodeUpTo (bytes.length + 1) (b :: bytes) = _
    simp only [decodeUpTo, h]
    rw [decodeUpTo_eq _ (Nat.le_refl _)]
    · rfl
    · rw [List.length_drop, List.length_cons]
      omega

theorem decodeReplace_utf8_append (cs : List Char) :
    decodeReplace (utf8 cs ++ bytes) = cs ++ decodeReplace bytes := by
  induction cs with
  | nil => rfl
  | cons c cs ih =>
    rw [utf8_cons, List.append_assoc, decodeReplace_encode_append, ih, List.cons_append]

/-- The bytes of a text decode to it. -/
theorem decodeReplace_utf8 (cs : List Char) : decodeReplace (utf8 cs) = cs := by
  rw [← List.append_nil (utf8 cs), decodeReplace_utf8_append, decodeReplace_nil, List.append_nil]

end

/-! ## The bytes of one character -/

theorem toNat_val (c : Char) :
    c.val.toNat < 0xD800 ∨ 0xDFFF < c.val.toNat ∧ c.val.toNat < 0x110000 := c.valid

section

variable {c : Char} {b second third : UInt8} {rest : List UInt8}

theorem continues_of_encode (h : String.utf8EncodeChar c = b :: second :: third :: rest) :
    Continues b second := by
  have hvalid := toNat_val c
  unfold String.utf8EncodeChar at h
  dsimp only at h
  generalize c.val.toNat = v at h hvalid
  unfold Continues
  simp only [← UInt8.toNat_inj, UInt8.le_iff_toNat_le, UInt8.toNat_ofNat]
  split at h
  · cases h
  split at h
  · cases h
  split at h
  all_goals
    injection h with hb h
    injection h with hsecond h
    have hb' := congrArg UInt8.toNat hb
    have hsecond' := congrArg UInt8.toNat hsecond
    rw [UInt8.toNat_ofNat'] at hb' hsecond'
    omega

theorem third_of_encode {fourth : UInt8}
    (h : String.utf8EncodeChar c = b :: second :: third :: fourth :: rest) :
    0xF0 ≤ b ∧ 0x80 ≤ third ∧ third ≤ 0xBF := by
  have hvalid := toNat_val c
  unfold String.utf8EncodeChar at h
  dsimp only at h
  generalize c.val.toNat = v at h hvalid
  simp only [UInt8.le_iff_toNat_le, UInt8.toNat_ofNat]
  split at h
  · cases h
  split at h
  · cases h
  split at h
  · cases h
  injection h with hb h
  injection h with hsecond h
  injection h with hthird h
  have hb' := congrArg UInt8.toNat hb
  have hthird' := congrArg UInt8.toNat hthird
  rw [UInt8.toNat_ofNat'] at hb' hthird'
  omega

/-- A byte that no character begins with is one broken part. -/
theorem not_continues (hb : ¬ b.IsUTF8FirstByte) : ¬ Continues b second := by
  have hall : ∀ n : Fin 256, ¬ (UInt8.ofNat n).IsUTF8FirstByte → n.val < 0xE0 ∨ 0xF4 < n.val := by
    decide +kernel
  have hrange := hall ⟨b.toNat, b.toNat_lt⟩
  rw [UInt8.ofNat_toNat] at hrange
  have hb' : b.toNat < 0xE0 ∨ 0xF4 < b.toNat := hrange hb
  unfold Continues
  simp only [← UInt8.toNat_inj, UInt8.le_iff_toNat_le, UInt8.toNat_ofNat]
  omega

theorem first_of_encode (h : String.utf8EncodeChar c = b :: rest) : b.IsUTF8FirstByte := by
  have hpos := length_encode_pos c
  have hb : (String.utf8EncodeChar c)[0] = b := by simp only [h, List.getElem_cons_zero]
  rw [← hb]
  exact UInt8.isUTF8FirstByte_getElem_zero_utf8EncodeChar

end

section

variable {c : Char} {begun left : List UInt8}

/-- The bytes of a character after its first are none that a character begins with. -/
theorem not_first_of_encode {b : UInt8} (hbegun : begun ≠ [])
    (h : String.utf8EncodeChar c = begun ++ b :: left) : ¬ b.IsUTF8FirstByte := by
  have hpos : 0 < begun.length := List.length_pos_iff.mpr hbegun
  have hindex : begun.length < (String.utf8EncodeChar c).length := by
    rw [h, List.length_append, List.length_cons]
    omega
  have hb : (String.utf8EncodeChar c)[begun.length] = b := by
    simp only [h, List.getElem_append_right (Nat.le_refl _), Nat.sub_self, List.getElem_cons_zero]
  rw [← hb, UInt8.isUTF8FirstByte_getElem_utf8EncodeChar]
  omega

theorem stray_of_encode (hbegun : begun ≠ []) (h : String.utf8EncodeChar c = begun ++ left) :
    ∀ b ∈ left, ¬ b.IsUTF8FirstByte := by
  intro b hb
  obtain ⟨before, after, rfl⟩ := List.append_of_mem hb
  rw [← List.append_assoc] at h
  exact not_first_of_encode (by simp [hbegun]) h

/-- A character that is only begun is one broken part. -/
theorem decodeReplace_begun (hbegun : begun ≠ []) (hleft : left ≠ [])
    (h : String.utf8EncodeChar c = begun ++ left) : decodeReplace begun = [replacement] := by
  have hnone : firstChar begun = none := by
    cases hfirst : firstChar begun with
    | none => rfl
    | some c' =>
      exfalso
      obtain ⟨rest, rfl⟩ := of_firstChar hfirst
      have hsame := firstChar_encode c []
      rw [List.append_nil, h, List.append_assoc, firstChar_encode] at hsame
      cases hsame
      have hlength := congrArg List.length h
      have := List.length_pos_iff.mpr hleft
      rw [List.length_append, List.length_append] at hlength
      omega
  have hbroken : brokenLength begun = begun.length := by
    have hlength : begun.length + left.length ≤ 4 := by
      rw [← List.length_append, ← h, String.length_utf8EncodeChar]
      exact c.utf8Size_le_four
    obtain ⟨next, left, rfl⟩ := List.exists_cons_of_ne_nil hleft
    match begun with
    | [] => exact absurd rfl hbegun
    | [_] => rfl
    | [b, second] => exact if_pos (continues_of_encode h)
    | [b, second, third] =>
      exact (if_pos (continues_of_encode h)).trans (if_pos (third_of_encode h))
    | _ :: _ :: _ :: _ :: _ =>
      simp only [List.length_cons] at hlength
      omega
  rw [decodeReplace_broken hbegun hnone, hbroken, List.drop_length, decodeReplace_nil]

end

/-! ## Parts of a text -/

/-- Bytes that no character begins with become one U+FFFD each. -/
theorem decodeReplace_stray_append {stray bytes : List UInt8}
    (h : ∀ b ∈ stray, ¬ b.IsUTF8FirstByte) :
    decodeReplace (stray ++ bytes) = List.replicate stray.length replacement ++
      decodeReplace bytes := by
  induction stray with
  | nil => rfl
  | cons b stray ih =>
    obtain ⟨hb, hstray⟩ := List.forall_mem_cons.mp h
    have hnone : firstChar (b :: (stray ++ bytes)) = none := by
      cases hfirst : firstChar (b :: (stray ++ bytes)) with
      | none => rfl
      | some c =>
        obtain ⟨rest, hrest⟩ := of_firstChar hfirst
        cases hc : String.utf8EncodeChar c with
        | nil => exact absurd hc String.utf8EncodeChar_ne_nil
        | cons b' more =>
          rw [hc, List.cons_append] at hrest
          obtain ⟨rfl, -⟩ := List.cons.inj hrest
          exact absurd (first_of_encode hc) hb
    have hone : brokenLength (b :: (stray ++ bytes)) = 1 := by
      match stray ++ bytes with
      | [] => rfl
      | [_] => exact if_neg (not_continues hb)
      | _ :: _ :: _ => exact if_neg (not_continues hb)
    rw [List.cons_append, decodeReplace_broken (List.cons_ne_nil _ _) hnone, hone, List.drop_one,
      List.tail_cons, ih hstray]
    rfl

/-- The bytes of a text are cut between two of its characters, or inside one of them. -/
theorem cut_utf8 {text : List Char} {before after : List UInt8} (h : utf8 text = before ++ after) :
    ∃ cs cs' begun left, before = utf8 cs ++ begun ∧ after = left ++ utf8 cs' ∧
      ((begun = [] ∧ left = [] ∧ text = cs ++ cs') ∨
        ∃ c, begun ≠ [] ∧ left ≠ [] ∧ String.utf8EncodeChar c = begun ++ left ∧
          text = cs ++ c :: cs') := by
  induction text generalizing before with
  | nil =>
    obtain ⟨rfl, rfl⟩ := List.append_eq_nil_iff.mp h.symm
    exact ⟨[], [], [], [], rfl, rfl, .inl ⟨rfl, rfl, rfl⟩⟩
  | cons c text ih =>
    rw [utf8_cons] at h
    rcases List.append_eq_append_iff.mp h with ⟨more, rfl, hrest⟩ | ⟨left, hleft, rfl⟩
    · obtain ⟨cs, cs', begun, left, rfl, hafter, hcases⟩ := ih hrest
      refine ⟨c :: cs, cs', begun, left, by rw [utf8_cons, List.append_assoc], hafter, ?_⟩
      rcases hcases with ⟨hbegun, hnone, rfl⟩ | ⟨c', hbegun, hsome, hc', rfl⟩
      · exact .inl ⟨hbegun, hnone, rfl⟩
      · exact .inr ⟨c', hbegun, hsome, hc', rfl⟩
    · by_cases hbefore : before = []
      · subst hbefore
        rw [List.nil_append] at hleft
        exact ⟨[], c :: text, [], [], rfl, by rw [utf8_cons, hleft]; rfl, .inl ⟨rfl, rfl, rfl⟩⟩
      · by_cases hnone : left = []
        · subst hnone
          rw [List.append_nil] at hleft
          refine ⟨[c], text, [], [], ?_, rfl, .inl ⟨rfl, rfl, rfl⟩⟩
          rw [← hleft, utf8_cons, utf8_nil, List.append_nil, List.append_nil]
        · exact ⟨[], text, before, left, rfl, rfl, .inr ⟨c, hbefore, hnone, hleft, rfl⟩⟩

/-- Later bytes of a character, whole characters and first bytes of a character. -/
structure Divides (bytes stray : List UInt8) (whole : List Char) (begun : List UInt8) : Prop where
  eq : bytes = stray ++ (utf8 whole ++ begun)
  stray : ∀ b ∈ stray, ¬ b.IsUTF8FirstByte
  begun : begun ≠ [] → ∃ c left, left ≠ [] ∧ String.utf8EncodeChar c = begun ++ left

/-- What divided bytes decode to. -/
def patched (stray : List UInt8) (whole : List Char) (begun : List UInt8) : List Char :=
  List.replicate stray.length replacement ++ (whole ++ if begun = [] then [] else [replacement])

theorem Divides.decodeReplace_eq {bytes stray begun : List UInt8} {whole : List Char}
    (h : Divides bytes stray whole begun) : decodeReplace bytes = patched stray whole begun := by
  rw [h.eq, decodeReplace_stray_append h.stray, decodeReplace_utf8_append]
  unfold patched
  split_ifs with hbegun
  · rw [hbegun, decodeReplace_nil]
  · obtain ⟨c, left, hleft, hc⟩ := h.begun hbegun
    rw [decodeReplace_begun hbegun hleft hc]

/-- Bytes that are not whole characters show a U+FFFD. -/
theorem Divides.whole_or_mem {bytes stray begun : List UInt8} {whole : List Char}
    (h : Divides bytes stray whole begun) :
    bytes = utf8 whole ∨ replacement ∈ patched stray whole begun := by
  unfold patched
  by_cases hbegun : begun = []
  · by_cases hstray : stray = []
    · have heq := h.eq
      rw [hstray, hbegun, List.nil_append, List.append_nil] at heq
      exact .inl heq
    · refine .inr (List.mem_append_left _ (List.mem_replicate.mpr ⟨?_, rfl⟩))
      exact fun hlength => hstray (List.eq_nil_of_length_eq_zero hlength)
  · rw [if_neg hbegun]
    exact .inr (List.mem_append_right _ (List.mem_append_right _ (List.mem_singleton_self _)))

section

variable {text : List Char} {before bytes after : List UInt8}

/-- The bytes in the middle of a text divide, and the whole characters are a part of it. -/
theorem exists_divides (h : utf8 text = before ++ (bytes ++ after)) :
    ∃ stray whole begun, Divides bytes stray whole begun ∧ whole <:+: text := by
  obtain ⟨cs, cs', begun, left, -, hrest, hcut⟩ := cut_utf8 h
  have hstray : ∀ b ∈ left, ¬ b.IsUTF8FirstByte := by
    rcases hcut with ⟨-, rfl, -⟩ | ⟨c, hbegun, -, hc, -⟩
    · exact fun b hb => absurd hb List.not_mem_nil
    · exact stray_of_encode hbegun hc
  have hsuffix : cs' <:+ text := by
    rcases hcut with ⟨-, -, rfl⟩ | ⟨c, -, -, -, rfl⟩
    · exact List.suffix_append cs cs'
    · exact (List.suffix_cons c cs').trans (List.suffix_append cs (c :: cs'))
  rcases List.append_eq_append_iff.mp hrest with ⟨more, rfl, -⟩ | ⟨more, rfl, hmore⟩
  · -- all of them are of one character
    refine ⟨bytes, [], [], ⟨?_, ?_, fun hne => absurd rfl hne⟩, List.nil_infix⟩
    · rw [utf8_nil, List.nil_append, List.append_nil]
    · exact fun b hb => hstray b (List.mem_append_left more hb)
  · obtain ⟨whole, cs'', begun', left', rfl, -, hcut'⟩ := cut_utf8 hmore
    refine ⟨left, whole, begun', ⟨rfl, hstray, ?_⟩, ?_⟩
    · intro hbegun'
      rcases hcut' with ⟨rfl, -, -⟩ | ⟨c, -, hleft', hc, -⟩
      · exact absurd rfl hbegun'
      · exact ⟨c, left', hleft', hc⟩
    · have hprefix : whole <+: cs' := by
        rcases hcut' with ⟨-, -, rfl⟩ | ⟨c, -, -, -, rfl⟩ <;> exact List.prefix_append _ _
      exact hprefix.isInfix.trans hsuffix.isInfix

/-- The bytes of a text divide in one way. -/
theorem Divides.whole_eq {cs whole : List Char} {stray begun : List UInt8}
    (h : Divides (utf8 cs) stray whole begun) : whole = cs := by
  have hstray : stray = [] := by
    cases stray with
    | nil => rfl
    | cons b stray =>
      have heq := h.eq
      cases cs with
      | nil => cases heq
      | cons c cs =>
        cases hc : String.utf8EncodeChar c with
        | nil => exact absurd hc String.utf8EncodeChar_ne_nil
        | cons b' more =>
          rw [utf8_cons, hc, List.cons_append, List.cons_append] at heq
          obtain ⟨rfl, -⟩ := List.cons.inj heq
          exact absurd (first_of_encode hc) (h.stray _ List.mem_cons_self)
  subst hstray
  have hdecoded := h.decodeReplace_eq
  rw [decodeReplace_utf8] at hdecoded
  by_cases hbegun : begun = []
  · rw [hdecoded, patched, if_pos hbegun]
    exact (List.append_nil whole).symm
  · exfalso
    obtain ⟨c, left, hleft, hc⟩ := h.begun hbegun
    -- it would be the bytes of U+FFFD
    have hbytes : begun = String.utf8EncodeChar replacement := by
      have heq := h.eq
      rw [hdecoded, patched, if_neg hbegun] at heq
      simpa [utf8] using heq.symm
    rw [hbytes] at hc
    have hsame := firstChar_encode c []
    rw [List.append_nil, hc, firstChar_encode] at hsame
    cases hsame
    have hlength := congrArg List.length hc
    have := List.length_pos_iff.mpr hleft
    rw [List.length_append] at hlength
    omega

/-- A text whose bytes occur in those of another occurs in it. -/
theorem infix_of_utf8 {cs : List Char} (h : utf8 text = before ++ (utf8 cs ++ after)) :
    cs <:+: text := by
  obtain ⟨stray, whole, begun, hdivides, hinfix⟩ := exists_divides h
  rw [← hdivides.whole_eq]
  exact hinfix

end

end HotAirBalloon.Library
