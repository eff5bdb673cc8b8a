import HotAirBalloon.Documents.Ingestion
import HotAirBalloon.Library.OverlappingWindows

/-!
# The windows of the chunker

The windows of tokens that `TokenChunker.chunk` decodes: they lose no token (`windows_lossless`).
The last of them adds no token when it is not longer than the overlap, which depends on the number
of tokens modulo the step (`noRedundant_iff`).
-/

namespace HotAirBalloon.Documents

open Python Library

namespace TokenChunker

/-! ## The sizes that the settings accept -/

section

variable {chunker : TokenChunker} (hoverlap : 0 ≤ chunker.overlapTokens)
  (hchunk : chunker.overlapTokens < chunker.chunkTokens)

include hchunk in
theorem step_pos : 0 < (chunker.chunkTokens - chunker.overlapTokens).toNat := by
  omega

include hchunk in
theorem starts_eq (length : Nat) :
    starts length (chunker.chunkTokens - chunker.overlapTokens) =
      .ok (multiples (chunker.chunkTokens - chunker.overlapTokens).toNat length) := by
  unfold starts
  rw [if_neg (by omega), if_neg (by omega)]
  rfl

include hoverlap hchunk in
theorem windowAt_eq (tokens : List Nat) (start : Nat) :
    chunker.windowAt tokens start = window
      ((chunker.chunkTokens - chunker.overlapTokens).toNat + chunker.overlapTokens.toNat)
        tokens start := by
  unfold windowAt slice window
  rw [if_neg (by omega), List.drop_take]
  congr 1
  omega

include hchunk in
/-- The chunks are those of the windows at the multiples of the step. -/
theorem chunk_eq {text : String} {tokens : List Nat} (htokens : chunker.encode text = .ok tokens) :
    chunker.chunk text = .ok ((multiples (chunker.chunkTokens - chunker.overlapTokens).toNat
      tokens.length).filterMap (chunker.chunkAt tokens)) := by
  unfold chunk
  rw [htokens]
  show (if tokens.isEmpty then _ else starts tokens.length _ >>= _) = _
  rw [starts_eq hchunk]
  by_cases hempty : tokens = []
  · subst hempty
    have hnone : multiples (chunker.chunkTokens - chunker.overlapTokens).toNat 0 = [] := by
      refine List.eq_nil_iff_forall_not_mem.mpr (fun start hstart => ?_)
      have hlt := ((mem_multiples (step_pos hchunk)).mp hstart).1
      omega
    rw [List.length_nil, hnone]
    rfl
  · rw [if_neg (by simpa using hempty)]
    rfl

end

/-! ## No token is lost -/

theorem chunkAt_eq (chunker : TokenChunker) (tokens : List Nat) (start : Nat) :
    chunker.chunkAt tokens start =
      if strip (chunker.decode (chunker.windowAt tokens start)) = "" then none
      else some (strip (chunker.decode (chunker.windowAt tokens start))) := rfl

/-- The windows start at the multiples of the step below the number of tokens, none is longer than a
chunk, and the first with what every later one adds is the list of tokens. Each is decoded and
stripped, and only a blank text is left out. -/
theorem windows_lossless (chunker : TokenChunker) (hoverlap : 0 ≤ chunker.overlapTokens)
    (hchunk : chunker.overlapTokens < chunker.chunkTokens) {text : String} {tokens : List Nat}
    (htokens : chunker.encode text = .ok tokens) :
    ∃ positions,
      starts tokens.length (chunker.chunkTokens - chunker.overlapTokens) = .ok positions ∧
      chunker.chunk text = .ok (positions.filterMap (chunker.chunkAt tokens)) ∧
      (∀ start, start ∈ positions ↔ start < tokens.length ∧
        ∃ n : Nat, (start : Int) = n * (chunker.chunkTokens - chunker.overlapTokens)) ∧
      positions.Pairwise (· < ·) ∧
      (∀ start ∈ positions, chunker.chunkAt tokens start =
        if strip (chunker.decode (chunker.windowAt tokens start)) = "" then none
        else some (strip (chunker.decode (chunker.windowAt tokens start)))) ∧
      (∀ start ∈ positions, ((chunker.windowAt tokens start).length : Int) ≤ chunker.chunkTokens) ∧
      rejoin chunker.overlapTokens.toNat (positions.map (chunker.windowAt tokens)) = tokens := by
  have hstep := step_pos hchunk
  refine ⟨_, starts_eq hchunk tokens.length, chunk_eq hchunk htokens, ?_,
    pairwise_multiples hstep tokens.length,
    fun start _ => chunker.chunkAt_eq tokens start, ?_, ?_⟩
  · intro start
    rw [mem_multiples hstep]
    refine and_congr Iff.rfl (exists_congr fun n => ?_)
    have hcast : (((chunker.chunkTokens - chunker.overlapTokens).toNat : Nat) : Int) =
        chunker.chunkTokens - chunker.overlapTokens := Int.toNat_of_nonneg (by omega)
    rw [← Nat.cast_inj (R := Int), Nat.cast_mul, hcast]
  · intro start _
    rw [windowAt_eq hoverlap hchunk, length_window]
    omega
  · have hwindows : chunker.windowAt tokens = window ((chunker.chunkTokens -
        chunker.overlapTokens).toNat + chunker.overlapTokens.toNat) tokens := by
      ext1 start
      exact windowAt_eq hoverlap hchunk tokens start
    rw [hwindows]
    exact rejoin_windows hstep _ tokens

/-- Ten tokens in windows of four that overlap by one. -/
def fourTokens : TokenChunker where
  chunkTokens := 4
  overlapTokens := 1
  encode text := .ok (text.toList.map Char.toNat)
  decode tokens := String.ofList (tokens.map Char.ofNat)

theorem windows_lossless_ten : ∃ positions,
    starts 10 3 = .ok positions ∧ fourTokens.chunk "ten tokens" =
      .ok (positions.filterMap (fourTokens.chunkAt ("ten tokens".toList.map Char.toNat))) ∧
    rejoin 1 (positions.map (fourTokens.windowAt ("ten tokens".toList.map Char.toNat))) =
      "ten tokens".toList.map Char.toNat := by
  have hencode : fourTokens.encode "ten tokens" = .ok ("ten tokens".toList.map Char.toNat) := rfl
  obtain ⟨positions, hstarts, hchunk, -, -, -, -, hrejoin⟩ :=
    windows_lossless fourTokens (by decide) (by decide) hencode
  exact ⟨positions, hstarts, hchunk, hrejoin⟩

/-! ## What a window adds -/

/-- The window from a position on holds the token with an index. -/
def Covers (chunker : TokenChunker) (tokens : List Nat) (start index : Nat) : Prop :=
  start ≤ index ∧ index < start + (chunker.windowAt tokens start).length

/-- No window lies inside the one before it, and every chunk that is emitted has a token that no
earlier one has. -/
structure NoRedundant (chunker : TokenChunker) (tokens positions : List Nat) : Prop where
  outside : ∀ before ∈ positions, ∀ start ∈ positions,
    (start : Int) = before + (chunker.chunkTokens - chunker.overlapTokens) →
      ∃ index, chunker.Covers tokens start index ∧ ¬ chunker.Covers tokens before index
  added : ∀ start ∈ positions, (chunker.chunkAt tokens start).isSome →
    ∃ index, chunker.Covers tokens start index ∧ ∀ earlier ∈ positions, earlier < start →
      (chunker.chunkAt tokens earlier).isSome → ¬ chunker.Covers tokens earlier index

section

variable {chunker : TokenChunker} (hoverlap : 0 ≤ chunker.overlapTokens)
  (hchunk : chunker.overlapTokens < chunker.chunkTokens)

include hoverlap hchunk in
theorem covers_iff {tokens : List Nat} {start index : Nat} (hstart : start ≤ tokens.length) :
    chunker.Covers tokens start index ↔ start ≤ index ∧ index < tokens.length ∧
      (index : Int) < start + chunker.chunkTokens := by
  unfold Covers
  rw [windowAt_eq hoverlap hchunk, length_window]
  omega

include hoverlap hchunk in
/-- A window reaches beyond all earlier ones where there is a token after the overlap. -/
theorem reaches {tokens : List Nat} {start : Nat}
    (hstart : start ∈ multiples (chunker.chunkTokens - chunker.overlapTokens).toNat tokens.length)
    (hadds : 0 < start → start + chunker.overlapTokens.toNat < tokens.length) :
    ∃ index, chunker.Covers tokens start index ∧
      ∀ earlier ∈ multiples (chunker.chunkTokens - chunker.overlapTokens).toNat tokens.length,
        earlier < start → ¬ chunker.Covers tokens earlier index := by
  have hstep := step_pos hchunk
  have hlt := ((mem_multiples hstep).mp hstart).1
  by_cases hzero : start = 0
  · refine ⟨start, (covers_iff hoverlap hchunk (by omega)).mpr (by omega),
      fun earlier _ hearlier => ?_⟩
    omega
  · have hreach := hadds (by omega)
    refine ⟨start + chunker.overlapTokens.toNat,
      (covers_iff hoverlap hchunk (by omega)).mpr (by omega), ?_⟩
    intro earlier hmem hearlier hcovers
    have hbefore := add_step_le hstep hmem hstart hearlier
    rw [covers_iff hoverlap hchunk (by omega)] at hcovers
    omega

end

/-- No chunk is redundant if and only if there is one window, or the last window is longer than the
overlap. -/
theorem noRedundant_iff (chunker : TokenChunker) (hoverlap : 0 ≤ chunker.overlapTokens)
    (hchunk : chunker.overlapTokens < chunker.chunkTokens) (tokens : List Nat) :
    ∃ positions,
      starts tokens.length (chunker.chunkTokens - chunker.overlapTokens) = .ok positions ∧
      (NoRedundant chunker tokens positions ↔
        tokens.length ≤ (chunker.chunkTokens - chunker.overlapTokens).toNat ∨
        chunker.overlapTokens.toNat ≤
          (tokens.length - 1) % (chunker.chunkTokens - chunker.overlapTokens).toNat) := by
  have hstep := step_pos hchunk
  refine ⟨_, starts_eq hchunk tokens.length, ?_⟩
  rw [← forall_adds_iff hstep]
  constructor
  · intro h start hstart hpos
    obtain ⟨hlt, n, rfl⟩ := (mem_multiples hstep).mp hstart
    obtain ⟨m, rfl⟩ : ∃ m, n = m + 1 := ⟨n - 1, by have := Nat.pos_of_mul_pos_right hpos; omega⟩
    have hsum := Nat.succ_mul m (chunker.chunkTokens - chunker.overlapTokens).toNat
    rw [hsum] at hlt hstart ⊢
    -- the window before it is the one that it could lie in
    obtain ⟨index, hcovers, hnot⟩ :=
      h.outside (m * (chunker.chunkTokens - chunker.overlapTokens).toNat)
      ((mem_multiples hstep).mpr ⟨by omega, m, rfl⟩) _ hstart (by omega)
    rw [covers_iff hoverlap hchunk (by omega)] at hcovers hnot
    omega
  · intro h
    constructor
    · intro before hbefore start hstart hnext
      obtain ⟨index, hcovers, hnot⟩ := reaches hoverlap hchunk hstart (h start hstart)
      exact ⟨index, hcovers, hnot before hbefore (by omega)⟩
    · intro start hstart _
      obtain ⟨index, hcovers, hnot⟩ := reaches hoverlap hchunk hstart (h start hstart)
      exact ⟨index, hcovers, fun earlier hearlier hlt _ => hnot earlier hearlier hlt⟩

theorem noRedundant_nine : ∃ positions, starts 9 3 = .ok positions ∧
    NoRedundant fourTokens (List.range 9) positions := by
  obtain ⟨positions, hstarts, hiff⟩ :=
    noRedundant_iff fourTokens (by decide) (by decide) (List.range 9)
  exact ⟨positions, hstarts, hiff.mpr (Or.inr (by decide))⟩

/-- Windows of four tokens that overlap by two. -/
def overlapByTwo : TokenChunker := { fourTokens with overlapTokens := 2 }

/-- Four tokens fill one window. The two that the next one holds lie inside it. -/
theorem last_window_redundant : ¬ ∀ (chunker : TokenChunker) (tokens positions : List Nat),
    0 ≤ chunker.overlapTokens → chunker.overlapTokens < chunker.chunkTokens →
    starts tokens.length (chunker.chunkTokens - chunker.overlapTokens) = .ok positions →
    NoRedundant chunker tokens positions := by
  intro h
  have hstarts : starts 4 (4 - 2) = .ok [0, 2] := rfl
  obtain ⟨index, hcovers, hnot⟩ := (h overlapByTwo [97, 98, 99, 100] [0, 2] (by decide) (by decide)
    hstarts).added 2 (by decide) (by decide)
  replace hnot := hnot 0 (by decide) (by decide) (by decide)
  rw [covers_iff (by decide) (by decide) (by decide)] at hcovers hnot
  have hlength : [97, 98, 99, 100].length = 4 := rfl
  have hchunk : overlapByTwo.chunkTokens = 4 := rfl
  omega

end TokenChunker

end HotAirBalloon.Documents
