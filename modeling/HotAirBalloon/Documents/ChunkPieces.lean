import HotAirBalloon.Documents.Ingestion
import HotAirBalloon.Library.Utf8
import HotAirBalloon.Python.Spacing

/-!
# Chunks as pieces of the document

`TokenChunker.chunk` cuts the tokens of a text into windows and decodes each by itself. A token may
end inside a character, and so may a window: `decode` then puts U+FFFD in the place of the bytes it
cannot read, and the chunk is no piece of the document any more.

Every chunk of a document is a piece of it if and only if every window holds whole characters, or
what its cut characters are replaced by hides in the document. In a document without U+FFFD nothing
hides.
-/

namespace HotAirBalloon.Documents

open Python Library

/-- The encoding of `tiktoken`: the bytes of the tokens of a text are those of the text. -/
structure TokenEncoding where
  tokenBytes : Nat → List UInt8
  encode : String → Except PyError (List Nat)
  encode_bytes : ∀ {text tokens}, encode text = .ok tokens →
    tokens.flatMap tokenBytes = utf8 text.toList

namespace TokenEncoding

variable (encoding : TokenEncoding)

/-- `decode`, with the errors replaced. -/
def decode (tokens : List Nat) : String :=
  String.ofList (decodeReplace (tokens.flatMap encoding.tokenBytes))

def chunker (chunkTokens overlapTokens : Int) : TokenChunker where
  chunkTokens := chunkTokens
  overlapTokens := overlapTokens
  encode := encoding.encode
  decode := encoding.decode

end TokenEncoding

/-! ## Pieces -/

/-- A contiguous part of a text without the white space around it, and no U+FFFD but the text's. -/
structure PieceOf (text chunk : String) : Prop where
  part : ∃ part : String, part.toList <:+: text.toList ∧ chunk = strip part
  replaced : replacement ∈ chunk.toList → replacement ∈ text.toList

theorem PieceOf.contiguous {text chunk : String} (h : PieceOf text chunk) :
    chunk.toList <:+: text.toList := by
  obtain ⟨part, hpart, rfl⟩ := h.part
  exact (infix_strip part).trans hpart

theorem pieceOf_strip {text s : String} (h : (strip s).toList <:+: text.toList) :
    PieceOf text (strip s) where
  part := ⟨strip s, h, (stripBy_idem isSpace s).symm⟩
  replaced hmem := h.mem hmem

namespace TokenChunker

/-- Every emitted chunk is a piece of the text. -/
def Pieces (chunker : TokenChunker) (text : String) : Prop :=
  ∀ chunks, chunker.chunk text = .ok chunks → ∀ chunk ∈ chunks, PieceOf text chunk

theorem starts_zero {step : Int} {positions : List Nat} (h : starts 0 step = .ok positions) :
    positions = [] := by
  unfold starts at h
  split at h
  · cases h
  split at h
  · exact (Except.ok.inj h).symm
  · have hnone : (0 + step.toNat - 1) / step.toNat = 0 := Nat.div_eq_of_lt (by omega)
    rw [hnone] at h
    exact (Except.ok.inj h).symm

/-- The chunks are those of the windows. -/
theorem emits_iff (chunker : TokenChunker) (text chunk : String) :
    (∃ chunks, chunker.chunk text = .ok chunks ∧ chunk ∈ chunks) ↔
      ∃ tokens positions, chunker.encode text = .ok tokens ∧
        starts tokens.length (chunker.chunkTokens - chunker.overlapTokens) = .ok positions ∧
        ∃ start ∈ positions, chunker.chunkAt tokens start = some chunk := by
  unfold TokenChunker.chunk
  cases hencode : chunker.encode text with
  | error e => simp [bind, Except.bind]
  | ok tokens =>
    by_cases hempty : tokens = []
    · subst hempty
      constructor
      · rintro ⟨chunks, hchunks, hmem⟩
        cases hchunks
        cases hmem
      · rintro ⟨tokens, positions, htokens, hstarts, start, hstart, -⟩
        cases htokens
        rw [starts_zero hstarts] at hstart
        cases hstart
    · cases hstarts : starts tokens.length (chunker.chunkTokens - chunker.overlapTokens) with
      | error e => simp [bind, Except.bind, hempty, hstarts]
      | ok positions => simp [bind, Except.bind, pure, Except.pure, hempty, hstarts]

end TokenChunker

/-! ## Windows -/

/-- The bytes are those of whole characters. -/
def Whole (bytes : List UInt8) : Prop := ∃ cs, bytes = utf8 cs

/-- The text itself has the whole characters of the bytes, with a U+FFFD for each byte before them
and one for a character begun after them. -/
def HiddenIn (text : String) (bytes : List UInt8) : Prop :=
  ∃ stray whole begun, Divides bytes stray whole begun ∧
    (strip (String.ofList (patched stray whole begun))).toList <:+: text.toList

theorem replacement_mem_strip {cs : List Char} (h : replacement ∈ cs) :
    replacement ∈ (strip (String.ofList cs)).toList := by
  apply mem_strip
  · rw [String.toList_ofList]
    exact h
  · decide

section

variable {text : String} {before bytes after : List UInt8}

/-- In a text without U+FFFD no cut character hides. -/
theorem whole_of_hidden (hplain : replacement ∉ text.toList) (h : HiddenIn text bytes) :
    Whole bytes := by
  obtain ⟨stray, whole, begun, hdivides, hpart⟩ := h
  rcases hdivides.whole_or_mem with hwhole | hmem
  · exact ⟨whole, hwhole⟩
  · exact absurd (hpart.mem (replacement_mem_strip hmem)) hplain

/-- What the bytes in the middle of a text decode to is a piece of it. -/
theorem pieceOf_decode_iff (h : utf8 text.toList = before ++ (bytes ++ after)) :
    (strip (String.ofList (decodeReplace bytes)) ≠ "" →
      PieceOf text (strip (String.ofList (decodeReplace bytes)))) ↔
      Whole bytes ∨ HiddenIn text bytes := by
  constructor
  · intro hpiece
    obtain ⟨stray, whole, begun, hdivides, -⟩ := exists_divides h
    rw [hdivides.decodeReplace_eq] at hpiece
    rcases hdivides.whole_or_mem with hwhole | hmem
    · exact .inl ⟨whole, hwhole⟩
    · have hstays := replacement_mem_strip hmem
      refine .inr ⟨stray, whole, begun, hdivides, (hpiece ?_).contiguous⟩
      intro hempty
      rw [hempty] at hstays
      cases hstays
  · rintro (⟨cs, rfl⟩ | ⟨stray, whole, begun, hdivides, hpart⟩) -
    · rw [decodeReplace_utf8]
      apply pieceOf_strip
      have hcs : (String.ofList cs).toList <:+: text.toList := by
        rw [String.toList_ofList]
        exact infix_of_utf8 h
      exact (infix_strip _).trans hcs
    · rw [hdivides.decodeReplace_eq]
      exact pieceOf_strip hpart

end

namespace TokenEncoding

variable (encoding : TokenEncoding) (chunkTokens overlapTokens : Int) (text : String)

/-- The bytes of a window of tokens. -/
def windowBytes (tokens : List Nat) (start : Nat) : List UInt8 :=
  ((encoding.chunker chunkTokens overlapTokens).windowAt tokens start).flatMap encoding.tokenBytes

/-- The bytes of all windows of a text are such. -/
def Windows (P : List UInt8 → Prop) : Prop :=
  ∀ tokens positions, encoding.encode text = .ok tokens →
    TokenChunker.starts tokens.length (chunkTokens - overlapTokens) = .ok positions →
    ∀ start ∈ positions, P (encoding.windowBytes chunkTokens overlapTokens tokens start)

variable {text}

theorem exists_windowBytes {tokens : List Nat} (h : encoding.encode text = .ok tokens)
    (start : Nat) :
    ∃ before after, utf8 text.toList =
      before ++ (encoding.windowBytes chunkTokens overlapTokens tokens start ++ after) := by
  have hwindow : (encoding.chunker chunkTokens overlapTokens).windowAt tokens start <:+: tokens :=
    (List.drop_suffix _ _).isInfix.trans (List.take_prefix _ _).isInfix
  obtain ⟨front, back, heq⟩ := hwindow
  refine ⟨front.flatMap encoding.tokenBytes, back.flatMap encoding.tokenBytes, ?_⟩
  rw [← encoding.encode_bytes h, windowBytes, ← List.flatMap_append, ← List.flatMap_append,
    ← List.append_assoc, heq]

variable {encoding chunkTokens overlapTokens}

theorem chunkAt_iff {tokens : List Nat} {start : Nat} {chunk : String} :
    (encoding.chunker chunkTokens overlapTokens).chunkAt tokens start = some chunk ↔
      chunk ≠ "" ∧ strip (String.ofList (decodeReplace
        (encoding.windowBytes chunkTokens overlapTokens tokens start))) = chunk := by
  show (if strip (String.ofList
    (decodeReplace (encoding.windowBytes chunkTokens overlapTokens tokens start))) = "" then none
    else some
      (strip (String.ofList (decodeReplace
        (encoding.windowBytes chunkTokens overlapTokens tokens start))))) = some chunk ↔ _
  split_ifs with hempty
  · rw [hempty]
    constructor
    · intro h
      cases h
    · rintro ⟨hne, rfl⟩
      exact absurd rfl hne
  · rw [Option.some.injEq]
    constructor
    · rintro rfl
      exact ⟨hempty, rfl⟩
    · exact And.right

/-- The chunks are pieces of the document if and only if every window is whole or hides. -/
theorem pieces_iff_windows : (encoding.chunker chunkTokens overlapTokens).Pieces text ↔
    encoding.Windows chunkTokens overlapTokens text (fun bytes =>
      Whole bytes ∨ HiddenIn text bytes) := by
  constructor
  · intro hpieces tokens positions htokens hpositions start hstart
    obtain ⟨before, after, hbytes⟩ :=
      encoding.exists_windowBytes chunkTokens overlapTokens htokens start
    rw [← pieceOf_decode_iff hbytes]
    intro hne
    obtain ⟨chunks, hchunks, hmem⟩ :=
      ((encoding.chunker chunkTokens overlapTokens).emits_iff text _).mpr
      ⟨tokens, positions, htokens, hpositions, start, hstart, chunkAt_iff.mpr ⟨hne, rfl⟩⟩
    exact hpieces chunks hchunks _ hmem
  · intro hwindows chunks hchunks chunk hmem
    obtain ⟨tokens, positions, htokens, hpositions, start, hstart, hchunk⟩ :=
      ((encoding.chunker chunkTokens overlapTokens).emits_iff text chunk).mp ⟨chunks, hchunks, hmem⟩
    obtain ⟨before, after, hbytes⟩ :=
      encoding.exists_windowBytes chunkTokens overlapTokens htokens start
    obtain ⟨hne, rfl⟩ := chunkAt_iff.mp hchunk
    exact (pieceOf_decode_iff hbytes).mpr
      (hwindows tokens positions htokens hpositions start hstart) hne

variable (encoding chunkTokens overlapTokens text)

/-- The chunks of a document are pieces of it if and only if every window holds whole characters or
hides in the document; without a U+FFFD in the document, if and only if every window holds whole
characters. -/
theorem chunk_pieces_iff :
    ((encoding.chunker chunkTokens overlapTokens).Pieces text ↔
      encoding.Windows chunkTokens overlapTokens text (fun bytes =>
        Whole bytes ∨ HiddenIn text bytes)) ∧
    (replacement ∉ text.toList → ((encoding.chunker chunkTokens overlapTokens).Pieces text ↔
      encoding.Windows chunkTokens overlapTokens text Whole)) := by
  refine ⟨pieces_iff_windows, fun hplain => pieces_iff_windows.trans ?_⟩
  constructor
  · intro hwindows tokens positions htokens hpositions start hstart
    rcases hwindows tokens positions htokens hpositions start hstart with hwhole | hhidden
    · exact hwhole
    · exact whole_of_hidden hplain hhidden
  · intro hwindows tokens positions htokens hpositions start hstart
    exact .inl (hwindows tokens positions htokens hpositions start hstart)

/-- A token for each byte, which any text can be written with. -/
def byteTokens : TokenEncoding where
  tokenBytes token := [UInt8.ofNat token]
  encode text := .ok ((utf8 text.toList).map UInt8.toNat)
  encode_bytes := by
    intro text tokens h
    cases h
    rw [List.flatMap_map]
    simp

/-- A Vietnamese letter of three bytes that lie in three windows: the chunks are three U+FFFD. -/
theorem chunk_cuts_character :
    ¬ ∀ (encoding : TokenEncoding) (chunkTokens overlapTokens : Int) (text : String),
    0 ≤ overlapTokens → overlapTokens < chunkTokens →
      (encoding.chunker chunkTokens overlapTokens).Pieces text := by
  intro h
  have hchunk : (byteTokens.chunker 1 0).chunk "ữ" =
      .ok (List.replicate 3 (String.ofList [replacement])) := by decide
  have hpiece := h byteTokens 1 0 "ữ" (by decide) (by decide) _ hchunk _ List.mem_cons_self
  exact absurd (hpiece.replaced (by decide)) (by decide)

end TokenEncoding

end HotAirBalloon.Documents
