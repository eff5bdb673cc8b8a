import Mathlib.Data.List.Forall2

/-!
# Fallible maps over a list

What `mapM` hands over when no element fails: one result for each element, in order.
-/

namespace HotAirBalloon.Library

variable {ε α β : Type} {f : α → Except ε β} {as : List α} {bs : List β}

theorem exists_of_mem_forall₂ {R : α → β → Prop} (h : List.Forall₂ R as bs) {a : α} (ha : a ∈ as) :
    ∃ b ∈ bs, R a b := by
  induction h with
  | nil => cases ha
  | @cons a' b rest more hb _ ih =>
    rcases List.mem_cons.mp ha with rfl | hrest
    · exact ⟨b, List.mem_cons_self, hb⟩
    · obtain ⟨b', hb', hfound⟩ := ih hrest
      exact ⟨b', List.mem_cons_of_mem b hb', hfound⟩

theorem mapM_eq_ok_iff : as.mapM f = .ok bs ↔ List.Forall₂ (fun a b => f a = .ok b) as bs := by
  induction as generalizing bs with
  | nil =>
    rw [List.mapM_nil, List.forall₂_nil_left_iff]
    constructor
    · intro h
      cases h
      rfl
    · rintro rfl
      rfl
  | cons a rest ih =>
    rw [List.mapM_cons, List.forall₂_cons_left_iff]
    constructor
    · intro h
      cases ha : f a with
      | error e =>
        rw [ha] at h
        cases h
      | ok b =>
        cases hrest : rest.mapM f with
        | error e =>
          rw [ha, hrest] at h
          cases h
        | ok more =>
          rw [ha, hrest] at h
          cases h
          exact ⟨b, more, rfl, ih.mp hrest, rfl⟩
    · rintro ⟨b, more, ha, hmore, rfl⟩
      rw [ha, ih.mpr hmore]
      rfl

theorem mapM_eq_ok_map {g : α → β} (h : ∀ a ∈ as, f a = .ok (g a)) :
    as.mapM f = .ok (as.map g) := by
  rw [mapM_eq_ok_iff, List.forall₂_map_right_iff, List.forall₂_same]
  exact h

/-- Results that a function names. -/
theorem eq_map_of_mapM {g : α → β} (h : as.mapM f = .ok bs)
    (hg : ∀ a ∈ as, ∀ b, f a = .ok b → b = g a) : bs = as.map g := by
  have hall := mapM_eq_ok_iff.mp h
  clear h
  induction hall with
  | nil => rfl
  | cons ha _ ih =>
    rw [List.map_cons, hg _ List.mem_cons_self _ ha,
      ih (fun a hmem => hg a (List.mem_cons_of_mem _ hmem))]

theorem length_eq_of_mapM (h : as.mapM f = .ok bs) : as.length = bs.length :=
  (mapM_eq_ok_iff.mp h).length_eq

/-- Every result comes from an element. -/
theorem exists_of_mem_mapM (h : as.mapM f = .ok bs) {b : β} (hb : b ∈ bs) :
    ∃ a ∈ as, f a = .ok b := by
  have hall := mapM_eq_ok_iff.mp h
  clear h
  induction hall with
  | nil => cases hb
  | @cons a b' rest more ha _ ih =>
    rcases List.mem_cons.mp hb with rfl | hmore
    · exact ⟨a, List.mem_cons_self, ha⟩
    · obtain ⟨a', ha', hfound⟩ := ih hmore
      exact ⟨a', List.mem_cons_of_mem a ha', hfound⟩

/-- Every element has a result. -/
theorem exists_ok_of_mapM (h : as.mapM f = .ok bs) {a : α} (ha : a ∈ as) :
    ∃ b ∈ bs, f a = .ok b := by
  have hall := mapM_eq_ok_iff.mp h
  clear h
  induction hall with
  | nil => cases ha
  | @cons a' b rest more hb _ ih =>
    rcases List.mem_cons.mp ha with rfl | hrest
    · exact ⟨b, List.mem_cons_self, hb⟩
    · obtain ⟨b', hb', hfound⟩ := ih hrest
      exact ⟨b', List.mem_cons_of_mem b hb', hfound⟩

/-- A failure of the map is the failure of an element. -/
theorem exists_of_mapM_error {e : ε} (h : as.mapM f = .error e) : ∃ a ∈ as, f a = .error e := by
  induction as with
  | nil => cases h
  | cons a rest ih =>
    rw [List.mapM_cons] at h
    cases ha : f a with
    | error e' =>
      rw [ha] at h
      cases h
      exact ⟨a, List.mem_cons_self, ha⟩
    | ok b =>
      rw [ha] at h
      cases hrest : rest.mapM f with
      | ok more =>
        rw [hrest] at h
        cases h
      | error e' =>
        rw [hrest] at h
        cases h
        obtain ⟨a', ha', he⟩ := ih hrest
        exact ⟨a', List.mem_cons_of_mem a ha', he⟩

end HotAirBalloon.Library
