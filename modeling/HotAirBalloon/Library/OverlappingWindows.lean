import Mathlib.Tactic

/-!
# Overlapping windows

A list is cut into windows that start at the multiples of a step and overlap the next one. Without
what they repeat the windows join to the list again (`rejoin_windows`). Whether every window adds
something is a question of the length modulo the step (`forall_adds_iff`).
-/

namespace HotAirBalloon.Library

variable {α : Type}

/-- The multiples of the step below the length. -/
def multiples (step length : Nat) : List Nat :=
  (List.range ((length + step - 1) / step)).map (fun n => n * step)

def window (size : Nat) (xs : List α) (start : Nat) : List α := (xs.drop start).take size

/-- The first window, and every later one without the overlap. -/
def rejoin (overlap : Nat) : List (List α) → List α
  | [] => []
  | first :: later => first ++ later.flatMap (fun window => window.drop overlap)

/-! ## Starts -/

section

variable {step length : Nat}

theorem lt_count_iff (hstep : 0 < step) {n : Nat} :
    n < (length + step - 1) / step ↔ n * step < length := by
  have hadd : (n + 1) * step = n * step + step := Nat.succ_mul n step
  rw [← Nat.add_one_le_iff, Nat.le_div_iff_mul_le hstep, hadd]
  omega

theorem mem_multiples (hstep : 0 < step) {start : Nat} :
    start ∈ multiples step length ↔ start < length ∧ ∃ n, start = n * step := by
  unfold multiples
  rw [List.mem_map]
  constructor
  · rintro ⟨n, hn, rfl⟩
    exact ⟨(lt_count_iff hstep).mp (List.mem_range.mp hn), n, rfl⟩
  · rintro ⟨hlt, n, rfl⟩
    exact ⟨n, List.mem_range.mpr ((lt_count_iff hstep).mpr hlt), rfl⟩

theorem pairwise_multiples (hstep : 0 < step) (length : Nat) :
    (multiples step length).Pairwise (· < ·) := by
  unfold multiples
  rw [List.pairwise_map]
  refine List.pairwise_lt_range.imp ?_
  intro n m hlt
  exact Nat.mul_lt_mul_of_pos_right hlt hstep

/-- A multiple before another is a whole step before it. -/
theorem add_step_le (hstep : 0 < step) {earlier start : Nat}
    (hearlier : earlier ∈ multiples step length)
    (hstart : start ∈ multiples step length) (hlt : earlier < start) : earlier + step ≤ start := by
  obtain ⟨-, m, rfl⟩ := (mem_multiples hstep).mp hearlier
  obtain ⟨-, n, rfl⟩ := (mem_multiples hstep).mp hstart
  have hmn : m + 1 ≤ n := Nat.lt_of_mul_lt_mul_right hlt
  have hmul := Nat.mul_le_mul_right step hmn
  rw [Nat.succ_mul] at hmul
  exact hmul

end

/-! ## The windows joined -/

theorem length_window (size : Nat) (xs : List α) (start : Nat) :
    (window size xs start).length = min size (xs.length - start) := by
  unfold window
  rw [List.length_take, List.length_drop]

theorem rejoin_concat (overlap : Nat) {windows : List (List α)} (h : windows ≠ []) (last : List α) :
    rejoin overlap (windows ++ [last]) = rejoin overlap windows ++ last.drop overlap := by
  cases windows with
  | nil => exact absurd rfl h
  | cons first later =>
    show first ++ (later ++ [last]).flatMap _ = _
    rw [List.flatMap_append, List.flatMap_singleton, ← List.append_assoc]
    rfl

/-- The first windows join to all that the last of them reaches. -/
theorem rejoin_range (step overlap : Nat) (xs : List α) (n : Nat) :
    rejoin overlap ((List.range (n + 1)).map (fun k => window (step + overlap) xs (k * step))) =
      xs.take ((n + 1) * step + overlap) := by
  induction n with
  | zero => simp [rejoin, window]
  | succ n ih =>
    have hne : (List.range (n + 1)).map (fun k => window (step + overlap) xs (k * step)) ≠ [] := by
      simp [List.range_succ]
    have hlast : (window (step + overlap) xs ((n + 1) * step)).drop overlap =
        (xs.drop ((n + 1) * step + overlap)).take step := by
      unfold window
      rw [List.drop_take, List.drop_drop, Nat.add_sub_cancel]
    have hreach : (n + 1 + 1) * step + overlap = (n + 1) * step + overlap + step := by
      rw [Nat.succ_mul (n + 1) step]
      omega
    rw [List.range_succ, List.map_append, List.map_singleton, rejoin_concat overlap hne, ih,
      hlast, hreach]
    exact List.take_add.symm

theorem rejoin_windows {step : Nat} (hstep : 0 < step) (overlap : Nat) (xs : List α) :
    rejoin overlap ((multiples step xs.length).map (window (step + overlap) xs)) = xs := by
  unfold multiples
  rw [List.map_map]
  cases hcount : (xs.length + step - 1) / step with
  | zero =>
    have hempty : ¬ 0 * step < xs.length := by
      rw [← lt_count_iff hstep, hcount]
      omega
    have hnil : xs = [] := List.eq_nil_of_length_eq_zero (by omega)
    rw [hnil]
    rfl
  | succ n =>
    have hend : ¬ (n + 1) * step < xs.length := by
      rw [← lt_count_iff hstep, hcount]
      omega
    refine (rejoin_range step overlap xs n).trans (List.take_of_length_le ?_)
    omega

/-! ## What a window adds -/

/-- No window is contained in the one before it, where every later one goes beyond the overlap. -/
theorem forall_adds_iff {step overlap length : Nat} (hstep : 0 < step) :
    (∀ start ∈ multiples step length, 0 < start → start + overlap < length) ↔
      length ≤ step ∨ overlap ≤ (length - 1) % step := by
  have hdivision : step * ((length - 1) / step) + (length - 1) % step = length - 1 :=
    Nat.div_add_mod (length - 1) step
  have hremainder : (length - 1) % step < step := Nat.mod_lt _ hstep
  constructor
  · intro h
    by_cases hshort : length ≤ step
    · exact .inl hshort
    · have hquotient : 1 ≤ (length - 1) / step := by
        rw [Nat.le_div_iff_mul_le hstep]
        omega
      have hlast : step ≤ (length - 1) / step * step := Nat.le_mul_of_pos_left step hquotient
      rw [Nat.mul_comm] at hdivision
      have hadds := h ((length - 1) / step * step)
        ((mem_multiples hstep).mpr ⟨by omega, _, rfl⟩) (by omega)
      exact .inr (by omega)
  · intro h start hmem hpos
    obtain ⟨hlt, n, rfl⟩ := (mem_multiples hstep).mp hmem
    have hn : 0 < n := Nat.pos_of_mul_pos_right hpos
    have hfirst : step ≤ n * step := Nat.le_mul_of_pos_left step hn
    rcases h with hshort | hlong
    · omega
    · have hle : n ≤ (length - 1) / step := (Nat.le_div_iff_mul_le hstep).mpr (by omega)
      have hmul := Nat.mul_le_mul_right step hle
      rw [Nat.mul_comm] at hdivision
      omega

end HotAirBalloon.Library
