import HotAirBalloon.Python.Json

/-!
# The size of JSON texts

How many bytes `dumps` writes, by counting: one for a printable ASCII character, two for a short
escape, six or twelve for any other character. `Writable` says that every integer has a decimal
text; a value is written if and only if it is writable (`dumps_ok`, `dumps_error`).
-/

namespace HotAirBalloon.Python.Json

/-! ## Strings -/

/-- The bytes that a character of a string takes. -/
def escapedSize (c : Char) : Nat :=
  if c ∈ ['"', '\\', '\n', '\r', '\t'] ∨ c.toNat = 8 ∨ c.toNat = 12 then 2
  else if 32 ≤ c.toNat ∧ c.toNat < 127 then 1
  else if c.toNat < 0x10000 then 6
  else 12

/-- The bytes of the characters of a text. -/
def textSize (s : String) : Nat := (s.toList.map escapedSize).sum

theorem utf8ByteSize_hexDigits (width n : Nat) :
    (String.ofList (Uuid.hexDigits width n)).utf8ByteSize = width := by
  induction width generalizing n with
  | zero => rfl
  | succ width ih =>
    have hchar : ∀ d : Fin 16, (Uuid.hexChar d.val).utf8Size = 1 := by decide
    have hlast := hchar ⟨n % 16, Nat.mod_lt n (by decide)⟩
    unfold Uuid.hexDigits
    rw [String.ofList_append, String.utf8ByteSize_append, ih]
    change width + (String.singleton (Uuid.hexChar (n % 16))).utf8ByteSize = width + 1
    rw [String.utf8ByteSize_singleton, hlast]

theorem utf8ByteSize_unicodeEscape (n : Nat) : (unicodeEscape n).utf8ByteSize = 6 := by
  unfold unicodeEscape
  rw [String.utf8ByteSize_append, utf8ByteSize_hexDigits]
  rfl

theorem utf8Size_of_ascii {c : Char} (h : c.toNat < 128) : c.utf8Size = 1 := by
  rw [Char.utf8Size_eq_one_iff, UInt32.le_iff_toNat_le]
  exact Nat.le_of_lt_succ h

theorem utf8ByteSize_escapeChar (c : Char) : (escapeChar c).utf8ByteSize = escapedSize c := by
  unfold escapeChar escapedSize
  split
  · rfl
  · rfl
  · rfl
  · rfl
  · rfl
  · rename_i hquote hbackslash hnewline hreturn htab
    have hmem : c ∉ ['"', '\\', '\n', '\r', '\t'] := by
      simp only [List.mem_cons, List.not_mem_nil, or_false, not_or]
      exact ⟨hquote, hbackslash, hnewline, hreturn, htab⟩
    dsimp only
    by_cases h8 : c.toNat = 8
    · rw [if_pos h8, if_pos (Or.inr (Or.inl h8))]
      rfl
    by_cases h12 : c.toNat = 12
    · rw [if_neg h8, if_pos h12, if_pos (Or.inr (Or.inr h12))]
      rfl
    rw [if_neg h8, if_neg h12, if_neg (not_or.mpr ⟨hmem, not_or.mpr ⟨h8, h12⟩⟩)]
    split_ifs with hprintable hbmp
    · rw [Char.toString_eq_singleton, String.utf8ByteSize_singleton, utf8Size_of_ascii (by omega)]
    · exact utf8ByteSize_unicodeEscape _
    · rw [String.utf8ByteSize_append, utf8ByteSize_unicodeEscape, utf8ByteSize_unicodeEscape]

theorem utf8ByteSize_quoted (s : String) : (quoted s).utf8ByteSize = textSize s + 2 := by
  have hfold : ∀ (cs : List Char) (text : String),
      (cs.foldl (fun text c => text ++ escapeChar c) text).utf8ByteSize =
        text.utf8ByteSize + (cs.map escapedSize).sum := by
    intro cs
    induction cs with
    | nil => simp
    | cons c rest ih =>
      intro text
      rw [List.foldl_cons, ih, String.utf8ByteSize_append, utf8ByteSize_escapeChar, List.map_cons,
        List.sum_cons, Nat.add_assoc]
  unfold quoted textSize
  rw [String.utf8ByteSize_append, String.utf8ByteSize_append, hfold]
  have hquote : "\"".utf8ByteSize = 1 := rfl
  have hempty : "".utf8ByteSize = 0 := rfl
  omega

/-! ## Values -/

/-- Parts with a comma between any two. -/
def joinedSize (sizes : List Nat) : Nat := sizes.sum + (sizes.length - 1)

theorem utf8ByteSize_intercalate (texts : List String) :
    (",".intercalate texts).utf8ByteSize = joinedSize (texts.map (·.utf8ByteSize)) := by
  induction texts with
  | nil => rfl
  | cons text rest ih =>
    cases rest with
    | nil => simp [joinedSize]
    | cons next rest =>
      have hcomma : ",".utf8ByteSize = 1 := rfl
      rw [String.intercalate_cons_cons, String.utf8ByteSize_append, String.utf8ByteSize_append, ih]
      simp only [joinedSize, List.map_cons, List.sum_cons, List.length_cons]
      omega

/-- An integer with a decimal text. -/
def WritableInt (i : Int) : Prop := (toString i.natAbs).length ≤ 4300

instance (i : Int) : Decidable (WritableInt i) := inferInstanceAs (Decidable (_ ≤ _))

variable (py : Interpreter)

mutual

/-- Every integer of a value has a decimal text. -/
def Writable : Value → Prop
  | .int i => WritableInt i
  | .list items => WritableItems items
  | .dict items => WritableEntries items
  | .none | .bool _ | .float _ | .str _ => True

def WritableItems : List Value → Prop
  | [] => True
  | item :: rest => Writable item ∧ WritableItems rest

def WritableEntries : List (String × Value) → Prop
  | [] => True
  | (_, value) :: rest => Writable value ∧ WritableEntries rest

end

mutual

/-- The bytes of the text of a value. -/
def size : Value → Nat
  | .none => 4
  | .bool b => if b then 4 else 5
  | .int i => (toString i).utf8ByteSize
  | .float x => (floatText py x).utf8ByteSize
  | .str s => textSize s + 2
  | .list items => joinedSize (itemSizes items) + 2
  | .dict items => joinedSize (entrySizes items) + 2

def itemSizes : List Value → List Nat
  | [] => []
  | item :: rest => size item :: itemSizes rest

def entrySizes : List (String × Value) → List Nat
  | [] => []
  | (key, value) :: rest => (textSize key + 3 + size value) :: entrySizes rest

end

variable {py}

mutual

theorem dumps_ok (value : Value) (h : Writable value) :
    ∃ text, dumps py value = .ok text ∧ text.utf8ByteSize = size py value := by
  match value with
  | .none => exact ⟨_, rfl, rfl⟩
  | .bool true => exact ⟨_, rfl, rfl⟩
  | .bool false => exact ⟨_, rfl, rfl⟩
  | .int i =>
    have hint : WritableInt i := h
    refine ⟨toString i, ?_, rfl⟩
    simp only [dumps, intText]
    rw [if_neg (by unfold WritableInt at hint; omega)]
    rfl
  | .float x => exact ⟨_, rfl, rfl⟩
  | .str s => exact ⟨_, rfl, utf8ByteSize_quoted s⟩
  | .list items =>
    obtain ⟨texts, hdumps, hsizes⟩ := dumpsItems_ok items h
    refine ⟨"[" ++ ",".intercalate texts ++ "]", ?_, ?_⟩
    · simp only [dumps, hdumps]
      rfl
    · rw [String.utf8ByteSize_append, String.utf8ByteSize_append, utf8ByteSize_intercalate, hsizes]
      have hopen : "[".utf8ByteSize = 1 := rfl
      have hclose : "]".utf8ByteSize = 1 := rfl
      simp only [size]
      omega
  | .dict items =>
    obtain ⟨texts, hdumps, hsizes⟩ := dumpsEntries_ok items h
    refine ⟨"\x7b" ++ ",".intercalate texts ++ "\x7d", ?_, ?_⟩
    · simp only [dumps, hdumps]
      rfl
    · rw [String.utf8ByteSize_append, String.utf8ByteSize_append, utf8ByteSize_intercalate, hsizes]
      have hopen : "\x7b".utf8ByteSize = 1 := rfl
      have hclose : "\x7d".utf8ByteSize = 1 := rfl
      simp only [size]
      omega

theorem dumpsItems_ok (items : List Value) (h : WritableItems items) :
    ∃ texts, dumpsItems py items = .ok texts ∧ texts.map (·.utf8ByteSize) = itemSizes py items := by
  match items with
  | [] => exact ⟨[], rfl, rfl⟩
  | item :: rest =>
    obtain ⟨text, hdumps, hsize⟩ := dumps_ok item h.1
    obtain ⟨texts, hrest, hsizes⟩ := dumpsItems_ok rest h.2
    refine ⟨text :: texts, ?_, ?_⟩
    · simp only [dumpsItems, hdumps, hrest]
      rfl
    · simp only [itemSizes, List.map_cons, hsize, hsizes]

theorem dumpsEntries_ok (items : List (String × Value)) (h : WritableEntries items) :
    ∃ texts, dumpsEntries py items = .ok texts ∧
      texts.map (·.utf8ByteSize) = entrySizes py items := by
  match items with
  | [] => exact ⟨[], rfl, rfl⟩
  | (key, value) :: rest =>
    obtain ⟨text, hdumps, hsize⟩ := dumps_ok value h.1
    obtain ⟨texts, hrest, hsizes⟩ := dumpsEntries_ok rest h.2
    refine ⟨(quoted key ++ ":" ++ text) :: texts, ?_, ?_⟩
    · simp only [dumpsEntries, hdumps, hrest]
      rfl
    · have hcolon : ":".utf8ByteSize = 1 := rfl
      simp only [entrySizes, List.map_cons, hsizes, String.utf8ByteSize_append, utf8ByteSize_quoted,
        hcolon, hsize]

end

mutual

theorem dumps_error (value : Value) (h : ¬ Writable value) : ∃ e, dumps py value = .error e := by
  match value with
  | .none => exact absurd trivial h
  | .bool _ => exact absurd trivial h
  | .int i =>
    have hint : ¬ WritableInt i := h
    simp only [dumps, intText]
    rw [if_pos (by unfold WritableInt at hint; omega)]
    exact ⟨_, rfl⟩
  | .float x => exact absurd trivial h
  | .str s => exact absurd trivial h
  | .list items =>
    obtain ⟨e, hdumps⟩ := dumpsItems_error items h
    simp only [dumps, hdumps]
    exact ⟨e, rfl⟩
  | .dict items =>
    obtain ⟨e, hdumps⟩ := dumpsEntries_error items h
    simp only [dumps, hdumps]
    exact ⟨e, rfl⟩

theorem dumpsItems_error (items : List Value) (h : ¬ WritableItems items) :
    ∃ e, dumpsItems py items = .error e := by
  match items with
  | [] => exact absurd trivial h
  | item :: rest =>
    by_cases hitem : Writable item
    · obtain ⟨text, hdumps, -⟩ : ∃ text, dumps py item = .ok text ∧ _ := dumps_ok item hitem
      obtain ⟨e, hrest⟩ := dumpsItems_error rest (fun hrest => h ⟨hitem, hrest⟩)
      simp only [dumpsItems, hdumps, hrest]
      exact ⟨e, rfl⟩
    · obtain ⟨e, hdumps⟩ := dumps_error item hitem
      simp only [dumpsItems, hdumps]
      exact ⟨e, rfl⟩

theorem dumpsEntries_error (items : List (String × Value)) (h : ¬ WritableEntries items) :
    ∃ e, dumpsEntries py items = .error e := by
  match items with
  | [] => exact absurd trivial h
  | (key, value) :: rest =>
    by_cases hvalue : Writable value
    · obtain ⟨text, hdumps, -⟩ : ∃ text, dumps py value = .ok text ∧ _ := dumps_ok value hvalue
      obtain ⟨e, hrest⟩ := dumpsEntries_error rest (fun hrest => h ⟨hvalue, hrest⟩)
      simp only [dumpsEntries, hdumps, hrest]
      exact ⟨e, rfl⟩
    · obtain ⟨e, hdumps⟩ := dumps_error value hvalue
      simp only [dumpsEntries, hdumps]
      exact ⟨e, rfl⟩

end

end HotAirBalloon.Python.Json
