import Mathlib.Tactic

/-!
# First fit

A pass over a list that takes an item whenever it still fits into what is left of a budget. What is
taken stays within the budget (`used_add_total_firstFit_le`), and when no cost is negative nothing
that is left over would still fit at the end (`lt_of_mem_leftOver`). An item that is left over
although one that costs as much or more is taken comes later in the list (`of_pairwise`).
-/

namespace HotAirBalloon.Library

variable {α β : Type} {cost : α → Int} {budget used : Int} {items : List α}

/-- What some items cost together. -/
def total (cost : α → Int) (items : List α) : Int := (items.map cost).sum

/-- The items that are taken when a part of the budget is used. -/
def firstFit (cost : α → Int) (budget used : Int) : List α → List α
  | [] => []
  | a :: rest =>
    if used + cost a ≤ budget then a :: firstFit cost budget (used + cost a) rest
    else firstFit cost budget used rest

/-- The items that do not fit when it is their turn. -/
def leftOver (cost : α → Int) (budget used : Int) : List α → List α
  | [] => []
  | a :: rest =>
    if used + cost a ≤ budget then leftOver cost budget (used + cost a) rest
    else a :: leftOver cost budget used rest

theorem firstFit_cons (a : α) (rest : List α) : firstFit cost budget used (a :: rest) =
    if used + cost a ≤ budget then a :: firstFit cost budget (used + cost a) rest
    else firstFit cost budget used rest := rfl

theorem leftOver_cons (a : α) (rest : List α) : leftOver cost budget used (a :: rest) =
    if used + cost a ≤ budget then leftOver cost budget (used + cost a) rest
    else a :: leftOver cost budget used rest := rfl

@[simp] theorem total_nil : total cost [] = 0 := rfl

@[simp] theorem total_cons (a : α) (rest : List α) :
    total cost (a :: rest) = cost a + total cost rest := by
  unfold total
  rw [List.map_cons, List.sum_cons]

@[simp] theorem total_append (first rest : List α) :
    total cost (first ++ rest) = total cost first + total cost rest := by
  unfold total
  rw [List.map_append, List.sum_append]

theorem total_nonneg (h : ∀ a ∈ items, 0 ≤ cost a) : 0 ≤ total cost items := by
  apply List.sum_nonneg
  intro n hn
  obtain ⟨a, ha, rfl⟩ := List.mem_map.mp hn
  exact h a ha

theorem total_perm {items' : List α} (h : items.Perm items') :
    total cost items = total cost items' :=
  (h.map cost).sum_eq

theorem total_le_of_sublist {part : List α} (hsub : part.Sublist items)
    (h : ∀ a ∈ items, 0 ≤ cost a) : total cost part ≤ total cost items := by
  induction hsub with
  | slnil => exact le_refl _
  | cons a _ ih =>
    have hrest := ih (fun b hb => h b (List.mem_cons_of_mem a hb))
    have ha := h a List.mem_cons_self
    rw [total_cons]
    omega
  | cons_cons a _ ih =>
    have hrest := ih (fun b hb => h b (List.mem_cons_of_mem a hb))
    rw [total_cons, total_cons]
    omega

/-- An item costs no more than all of them. -/
theorem cost_le_total (h : ∀ a ∈ items, 0 ≤ cost a) {a : α} (ha : a ∈ items) :
    cost a ≤ total cost items := by
  induction items with
  | nil => cases ha
  | cons b rest ih =>
    have hrest : ∀ a ∈ rest, 0 ≤ cost a := fun a ha => h a (List.mem_cons_of_mem b ha)
    have hb := h b List.mem_cons_self
    have hsum := total_nonneg hrest
    rw [total_cons]
    rcases List.mem_cons.mp ha with rfl | hmem
    · omega
    · have := ih hrest hmem
      omega

theorem firstFit_sublist : (firstFit cost budget used items).Sublist items := by
  induction items generalizing used with
  | nil => exact List.Sublist.refl _
  | cons a rest ih =>
    unfold firstFit
    split
    · exact ih.cons_cons a
    · exact ih.cons a

theorem leftOver_sublist : (leftOver cost budget used items).Sublist items := by
  induction items generalizing used with
  | nil => exact List.Sublist.refl _
  | cons a rest ih =>
    unfold leftOver
    split
    · exact ih.cons a
    · exact ih.cons_cons a

/-- A budget that is used up takes no item that costs something. -/
theorem firstFit_eq_nil (h : ∀ a ∈ items, budget < used + cost a) :
    firstFit cost budget used items = [] := by
  induction items with
  | nil => rfl
  | cons a rest ih =>
    have ha := h a List.mem_cons_self
    unfold firstFit
    rw [if_neg (by omega)]
    exact ih (fun b hb => h b (List.mem_cons_of_mem a hb))

/-- Every item is taken or left over. -/
theorem firstFit_append_leftOver :
    (firstFit cost budget used items ++ leftOver cost budget used items).Perm items := by
  induction items generalizing used with
  | nil => exact List.Perm.refl _
  | cons a rest ih =>
    unfold firstFit leftOver
    by_cases hfits : used + cost a ≤ budget
    · rw [if_pos hfits, if_pos hfits]
      exact ih.cons a
    · rw [if_neg hfits, if_neg hfits]
      exact List.perm_middle.trans (ih.cons a)

/-- What is taken never exceeds the budget, unless more was used before. -/
theorem used_add_total_firstFit_le :
    used + total cost (firstFit cost budget used items) ≤ max budget used := by
  induction items generalizing used with
  | nil =>
    have : total cost (firstFit cost budget used []) = 0 := rfl
    omega
  | cons a rest ih =>
    unfold firstFit
    split
    · have := @ih (used + cost a)
      rw [total_cons]
      omega
    · exact ih

/-- Nothing that is left over fits into what is left of the budget. -/
theorem lt_of_mem_leftOver (h : ∀ a ∈ items, 0 ≤ cost a) {b : α}
    (hb : b ∈ leftOver cost budget used items) :
    budget < used + total cost (firstFit cost budget used items) + cost b := by
  induction items generalizing used with
  | nil => cases hb
  | cons a rest ih =>
    have hrest : ∀ a ∈ rest, 0 ≤ cost a := fun a ha => h a (List.mem_cons_of_mem _ ha)
    unfold leftOver at hb
    unfold firstFit
    by_cases hfits : used + cost a ≤ budget
    · rw [if_pos hfits] at hb ⊢
      have := ih hrest hb
      rw [total_cons]
      omega
    · rw [if_neg hfits] at hb ⊢
      rcases List.mem_cons.mp hb with rfl | hmem
      · have := total_nonneg (fun a ha => hrest a (firstFit_sublist.subset ha) :
          ∀ a ∈ firstFit cost budget used rest, 0 ≤ cost a)
        omega
      · exact ih hrest hmem

/-- An item that is left over although one that costs as much is taken comes after it. -/
theorem of_pairwise {r : α → α → Prop} (hr : items.Pairwise r) (h : ∀ a ∈ items, 0 ≤ cost a)
    {a b : α} (ha : a ∈ firstFit cost budget used items) (hb : b ∈ leftOver cost budget used items)
    (hle : cost b ≤ cost a) : r a b := by
  induction items generalizing used with
  | nil => cases ha
  | cons c rest ih =>
    obtain ⟨hc, hrest⟩ := List.pairwise_cons.mp hr
    have hnonneg : ∀ a ∈ rest, 0 ≤ cost a := fun a ha => h a (List.mem_cons_of_mem _ ha)
    unfold leftOver at hb
    unfold firstFit at ha
    by_cases hfits : used + cost c ≤ budget
    · rw [if_pos hfits] at ha hb
      rcases List.mem_cons.mp ha with rfl | hmem
      · exact hc b (leftOver_sublist.subset hb)
      · exact ih hrest hnonneg hmem hb
    · rw [if_neg hfits] at ha hb
      rcases List.mem_cons.mp hb with rfl | hmem
      · -- `b` did not fit, so nothing that costs as much fits later
        have hcost := cost_le_total (fun a ha => hnonneg a (firstFit_sublist.subset ha)) ha
        have hused : used + total cost (firstFit cost budget used rest) ≤ max budget used :=
          used_add_total_firstFit_le
        have hbudget : used ≤ budget := by
          by_contra hover
          have hnone : firstFit cost budget used rest = [] := by
            refine firstFit_eq_nil (fun a ha => ?_)
            have := hnonneg a ha
            omega
          rw [hnone] at ha
          cases ha
        omega
      · exact ih hrest hnonneg ha hmem

/-- A budget for all items leaves none over. -/
theorem firstFit_eq_self (h : ∀ a ∈ items, 0 ≤ cost a) (hfits : used + total cost items ≤ budget) :
    firstFit cost budget used items = items := by
  induction items generalizing used with
  | nil => rfl
  | cons a rest ih =>
    have hrest : ∀ a ∈ rest, 0 ≤ cost a := fun a ha => h a (List.mem_cons_of_mem _ ha)
    have hsum := total_nonneg hrest
    rw [total_cons] at hfits
    unfold firstFit
    rw [if_pos (by omega), ih hrest (by omega)]

/-- The first items, when there is room for all of them, and then those of the rest that fit. -/
theorem firstFit_append {first rest : List α} (h : ∀ a ∈ first, 0 ≤ cost a)
    (hfits : used + total cost first ≤ budget) :
    firstFit cost budget used (first ++ rest) =
      first ++ firstFit cost budget (used + total cost first) rest := by
  induction first generalizing used with
  | nil => rw [total_nil, add_zero, List.nil_append, List.nil_append]
  | cons a first ih =>
    have hfirst : ∀ a ∈ first, 0 ≤ cost a := fun a ha => h a (List.mem_cons_of_mem _ ha)
    have hsum := total_nonneg hfirst
    rw [total_cons] at hfits ⊢
    rw [List.cons_append, List.cons_append]
    rw [firstFit_cons, if_pos (by omega), ih hfirst (by omega), add_assoc]

/-- The pass sees of an item only what it costs. -/
theorem firstFit_map {cost' : β → Int} {f : α → β} (h : ∀ a ∈ items, cost' (f a) = cost a) :
    firstFit cost' budget used (items.map f) = (firstFit cost budget used items).map f := by
  induction items generalizing used with
  | nil => rfl
  | cons a rest ih =>
    have hrest : ∀ a ∈ rest, cost' (f a) = cost a := fun a ha => h a (List.mem_cons_of_mem _ ha)
    rw [List.map_cons]
    unfold firstFit
    rw [h a List.mem_cons_self]
    split
    · rw [List.map_cons, ih hrest]
    · exact ih hrest

end HotAirBalloon.Library
