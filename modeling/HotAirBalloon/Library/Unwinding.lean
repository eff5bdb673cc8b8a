import Mathlib.Tactic

/-!
# Unwinding

A machine answers its inputs one after another. What an observer sees of a run does not depend on
the inputs left out of another run when some relation between states survives an input that is left
out, is kept by one that both runs take, and settles the answers that the observer sees.
-/

namespace HotAirBalloon.Library

variable {ι ο σ : Type}

/-- The inputs of a run with the answers they get. -/
def answers (step : ι → σ → ο × σ) : List ι → σ → List (ι × ο)
  | [], _ => []
  | i :: inputs, s => (i, (step i s).1) :: answers step inputs (step i s).2

theorem mem_of_mem_answers {step : ι → σ → ο × σ} {inputs : List ι} {s : σ} {answer : ι × ο}
    (h : answer ∈ answers step inputs s) : answer.1 ∈ inputs := by
  induction inputs generalizing s with
  | nil => cases h
  | cons i inputs ih =>
    rcases List.mem_cons.mp h with rfl | hrest
    · exact List.mem_cons_self
    · exact List.mem_cons_of_mem i (ih hrest)

/-- A relation that inputs outside `keep` do not disturb, and that settles the answers to the inputs
in `seen`. -/
structure Unwinding (step : ι → σ → ο × σ) (keep seen : ι → Bool) (R : σ → σ → Prop) : Prop where
  left_out : ∀ i s t, keep i = false → R s t → R (step i s).2 t
  taken : ∀ i s t, keep i = true → R s t → R (step i s).2 (step i t).2
  answer_eq : ∀ i s t, keep i = true → seen i = true → R s t → (step i s).1 = (step i t).1

theorem Unwinding.answers_filter {step : ι → σ → ο × σ} {keep seen : ι → Bool} {R : σ → σ → Prop}
    (h : Unwinding step keep seen R) (inputs : List ι) {s t : σ} (hR : R s t) :
    (answers step inputs s).filter (fun answer => keep answer.1 && seen answer.1) =
      (answers step (inputs.filter keep) t).filter (fun answer => seen answer.1) := by
  induction inputs generalizing s t with
  | nil => rfl
  | cons i inputs ih =>
    cases hkeep : keep i with
    | false =>
      have hrest := ih (h.left_out i s t hkeep hR)
      rw [List.filter_cons_of_neg (by simp [hkeep])]
      simpa [answers, hkeep] using hrest
    | true =>
      have hrest := ih (h.taken i s t hkeep hR)
      rw [List.filter_cons_of_pos hkeep]
      cases hseen : seen i with
      | false => simpa [answers, hkeep, hseen] using hrest
      | true =>
        have hanswer := h.answer_eq i s t hkeep hseen hR
        simp only [answers, List.filter_cons, hkeep, hseen, Bool.and_self, if_true, hanswer, hrest]

/-- The observer's own inputs alone. -/
theorem Unwinding.answers_filter_seen {step : ι → σ → ο × σ} {seen : ι → Bool} {R : σ → σ → Prop}
    (h : Unwinding step seen seen R) (inputs : List ι) {s t : σ} (hR : R s t) :
    (answers step inputs s).filter (fun answer => seen answer.1) =
      answers step (inputs.filter seen) t := by
  have hfilter := h.answers_filter inputs hR
  simp only [Bool.and_self] at hfilter
  rw [hfilter, List.filter_eq_self]
  intro answer hmem
  exact (List.mem_filter.mp (mem_of_mem_answers hmem)).2

end HotAirBalloon.Library
