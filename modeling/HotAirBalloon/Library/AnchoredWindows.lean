import Mathlib.Tactic

/-!
# Windows that start when they are needed

Points in time that lie in windows of one length. A window starts somewhere, the next one not before
the last has ended, and each holds at most a given number of points. Any stretch of time shorter
than two windows that are not neighbours meets at most two of them, so it holds at most twice as
many points.
-/

namespace HotAirBalloon.Library

/-- A point in time and the start of its window. -/
structure Stamp (K : Type) where
  start : K
  time : K

section

variable {K : Type} [Field K] [LinearOrder K] [IsStrictOrderedRing K]

/-- Points in the order of their windows, at most `most` to a window. -/
structure Anchored (width : K) (most : ℕ) (stamps : List (Stamp K)) : Prop where
  inside : ∀ s ∈ stamps, s.start ≤ s.time ∧ s.time < s.start + width
  apart : stamps.Pairwise (fun s t => s.start = t.start ∨ s.start + width ≤ t.start)
  full : ∀ a, stamps.countP (fun s => s.start = a) ≤ most

namespace Anchored

variable {width : K} {most : ℕ} {stamps : List (Stamp K)}

omit [IsStrictOrderedRing K] in
theorem nil : Anchored width most ([] : List (Stamp K)) where
  inside _ h := absurd h List.not_mem_nil
  apart := List.Pairwise.nil
  full _ := Nat.zero_le _

omit [IsStrictOrderedRing K] in
theorem sublist {stamps' : List (Stamp K)} (h : Anchored width most stamps)
    (hsub : stamps'.Sublist stamps) : Anchored width most stamps' where
  inside s hs := h.inside s (hsub.subset hs)
  apart := h.apart.sublist hsub
  full a := (hsub.countP_le (p := fun s => decide (s.start = a))).trans (h.full a)

omit [IsStrictOrderedRing K] in
/-- A further point, in the last window or in a later one. -/
theorem concat (h : Anchored width most stamps) {s : Stamp K}
    (hinside : s.start ≤ s.time ∧ s.time < s.start + width)
    (hapart : ∀ t ∈ stamps, t.start = s.start ∨ t.start + width ≤ s.start)
    (hroom : stamps.countP (fun t => t.start = s.start) < most) :
    Anchored width most (stamps ++ [s]) := by
  refine ⟨?_, ?_, ?_⟩
  · intro t ht
    rcases List.mem_append.mp ht with hold | hnew
    · exact h.inside t hold
    · rw [List.mem_singleton.mp hnew]
      exact hinside
  · refine List.pairwise_append.mpr ⟨h.apart, List.pairwise_singleton _ _, ?_⟩
    intro t ht u hu
    rw [List.mem_singleton.mp hu]
    exact hapart t ht
  · intro a
    rw [List.countP_append, List.countP_singleton]
    by_cases ha : s.start = a
    · subst ha
      simp only [decide_true, if_true]
      omega
    · simp only [ha, decide_false, Bool.false_eq_true, if_false]
      exact h.full a

/-- Points that are less than a window apart lie in two windows. -/
theorem length_le (h : Anchored width most stamps)
    (hclose : ∀ s ∈ stamps, ∀ t ∈ stamps, t.time < s.time + width) : stamps.length ≤ 2 * most := by
  cases stamps with
  | nil => exact Nat.zero_le _
  | cons first rest =>
    obtain ⟨hfirst, -⟩ := List.pairwise_cons.mp h.apart
    have hsplit :=
      List.length_eq_countP_add_countP (fun s : Stamp K => decide (s.start = first.start))
      (l := first :: rest)
    have hone := h.full first.start
    by_cases hall : ∀ s ∈ rest, s.start = first.start
    · have hnone : (first :: rest).countP
          (fun s => decide (¬ (decide (s.start = first.start) = true))) = 0 := by
        rw [List.countP_eq_zero]
        intro s hs
        rcases List.mem_cons.mp hs with rfl | hs
        · simp
        · simp [hall s hs]
      omega
    · push Not at hall
      obtain ⟨second, hsecond, hne⟩ := hall
      have hlater : first.start + width ≤ second.start := by
        rcases hfirst second hsecond with heq | hlater
        · exact absurd heq.symm hne
        · exact hlater
      -- a third window would start a whole window after the first point
      have htwo : ∀ s ∈ first :: rest, s.start ≠ first.start → s.start = second.start := by
        intro s hs hother
        by_contra hthird
        have hin := h.inside first List.mem_cons_self
        have hsrest : s ∈ rest := by
          rcases List.mem_cons.mp hs with rfl | hs
          · exact absurd rfl hother
          · exact hs
        have hslater : first.start + width ≤ s.start := by
          rcases hfirst s hsrest with heq | hlater
          · exact absurd heq.symm hother
          · exact hlater
        have hmem := List.mem_cons_of_mem first hsecond
        have horder : s.start = second.start ∨ s.start + width ≤ second.start ∨
            second.start + width ≤ s.start := by
          refine List.Pairwise.forall_of_forall_of_flip
            (R := fun s t => s.start = t.start ∨ s.start + width ≤ t.start ∨
              t.start + width ≤ s.start) ?_ ?_ ?_ hs hmem
          · intro a _
            exact Or.inl rfl
          · refine h.apart.imp ?_
            rintro a b (heq | hab)
            · exact Or.inl heq
            · exact Or.inr (Or.inl hab)
          · refine h.apart.imp ?_
            rintro a b (heq | hab)
            · exact Or.inl heq.symm
            · exact Or.inr (Or.inr hab)
        rcases horder with heq | hbefore | hafter
        · exact hthird heq
        · have hfar := hclose first List.mem_cons_self second hmem
          have hsecondIn := h.inside second hmem
          linarith [hin.2, hsecondIn.1]
        · have hfar := hclose first List.mem_cons_self s hs
          have hsIn := h.inside s hs
          linarith [hin.2, hsIn.1]
      have hrest : (first :: rest).countP
          (fun s => decide (¬ (decide (s.start = first.start) = true))) ≤
          (first :: rest).countP (fun s => decide (s.start = second.start)) := by
        refine List.countP_mono_left ?_
        intro s hs hother
        simp only [decide_eq_true_eq] at hother ⊢
        exact htwo s hs hother
      have htwoFull := h.full second.start
      omega

/-- A half-open interval as long as a window holds at most two windows' worth of points, whichever
end is open. -/
theorem countP_interval_le (h : Anchored width most stamps) (a : K) :
    stamps.countP (fun s => a ≤ s.time ∧ s.time < a + width) ≤ 2 * most ∧
      stamps.countP (fun s => a < s.time ∧ s.time ≤ a + width) ≤ 2 * most := by
  constructor
  · rw [List.countP_eq_length_filter]
    refine (h.sublist List.filter_sublist).length_le ?_
    intro s hs t ht
    have hs' := of_decide_eq_true (List.mem_filter.mp hs).2
    have ht' := of_decide_eq_true (List.mem_filter.mp ht).2
    linarith [hs'.1, ht'.2]
  · rw [List.countP_eq_length_filter]
    refine (h.sublist List.filter_sublist).length_le ?_
    intro s hs t ht
    have hs' := of_decide_eq_true (List.mem_filter.mp hs).2
    have ht' := of_decide_eq_true (List.mem_filter.mp ht).2
    linarith [hs'.1, ht'.2]

end Anchored

end

end HotAirBalloon.Library
