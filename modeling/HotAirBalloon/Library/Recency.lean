import Mathlib.Data.List.Nodup

/-!
# Recency

When the items of a history were last mentioned, and caches that hold the items that were mentioned
last.
-/

namespace HotAirBalloon.Library

variable {α : Type}

theorem nodup_eraseDups [BEq α] [LawfulBEq α] (items : List α) : items.eraseDups.Nodup := by
  generalize hlength : items.length = n
  induction n using Nat.strongRecOn generalizing items with
  | _ n ih =>
    cases items with
    | nil => exact List.nodup_nil
    | cons item items =>
      rw [List.eraseDups_cons, List.nodup_cons, List.mem_eraseDups]
      refine ⟨by simp, ih _ ?_ _ rfl⟩
      have hle := List.length_filter_le (fun other => !other == item) items
      rw [List.length_cons] at hlength
      omega

/-- The last mention of `e` comes after the last one of `d`. -/
def MoreRecent (history : List α) (d e : α) : Prop :=
  ∃ before after, history = before ++ after ∧ d ∉ after ∧ e ∈ after

namespace MoreRecent

variable {history update : List α} {d e : α}

theorem append (h : MoreRecent history d e) (hd : d ∉ update) :
    MoreRecent (history ++ update) d e := by
  obtain ⟨before, after, rfl, hafter, he⟩ := h
  refine ⟨before, after ++ update, List.append_assoc .., ?_, List.mem_append_left _ he⟩
  rw [List.mem_append]
  exact fun hmem => hmem.elim hafter hd

/-- An update is more recent than all that came before it. -/
theorem of_mem (hd : d ∉ update) (he : e ∈ update) : MoreRecent (history ++ update) d e :=
  ⟨history, update, rfl, hd, he⟩

theorem mem_of_mem (h : MoreRecent (history ++ update) d e) (hd : d ∈ update) : e ∈ update := by
  obtain ⟨before, after, heq, hafter, he⟩ := h
  obtain ⟨middle, -, rfl⟩ | ⟨middle, -, rfl⟩ := List.append_eq_append_iff.mp heq
  · exact List.mem_append_right _ he
  · exact absurd (List.mem_append_right _ hd) hafter

end MoreRecent

/-! ## Caches -/

/-- What the cache does not hold was last mentioned before all that it holds. -/
def HoldsRecent (history cache : List α) : Prop :=
  ∀ d ∈ history, d ∉ cache → ∀ e ∈ cache, MoreRecent history d e

namespace HoldsRecent

variable {history update cache kept : List α}

theorem refl (history : List α) : HoldsRecent history history :=
  fun _ hd hnot => absurd hd hnot

/-- Of the cache and the update, what is dropped has to be less recent than what is kept. What was
dropped before then stays so. -/
theorem step (h : HoldsRecent history cache) (hkept : ∀ e ∈ kept, e ∈ cache ∨ e ∈ update)
    (hdropped : ∀ d, d ∈ cache ∨ d ∈ update → d ∉ kept →
      ∀ e ∈ kept, MoreRecent (history ++ update) d e) :
    HoldsRecent (history ++ update) kept := by
  intro d hd hnot e he
  by_cases hhere : d ∈ cache ∨ d ∈ update
  · exact hdropped d hhere hnot e he
  obtain ⟨hcache, hupdate⟩ := not_or.mp hhere
  have hbefore : d ∈ history := (List.mem_append.mp hd).resolve_right hupdate
  cases hkept e he with
  | inl hold => exact (h d hbefore hcache e hold).append hupdate
  | inr hnew => exact MoreRecent.of_mem hupdate hnew

/-- Where an item of the update is missing, the cache is full of other items of the update. -/
theorem mem_of_length_le [BEq α] [LawfulBEq α] (h : HoldsRecent (history ++ update) cache)
    (hnodup : cache.Nodup) (hlength : update.eraseDups.length ≤ cache.length) {d : α}
    (hd : d ∈ update) : d ∈ cache := by
  by_contra hnot
  have hdistinct : (d :: cache).Nodup := List.nodup_cons.mpr ⟨hnot, hnodup⟩
  have hsubset : d :: cache ⊆ update.eraseDups := by
    intro e he
    rw [List.mem_eraseDups]
    cases List.mem_cons.mp he with
    | inl heq => exact heq ▸ hd
    | inr hcache =>
      exact (h d (List.mem_append_right _ hd) hnot e hcache).mem_of_mem hd
  have hle := hdistinct.length_le_of_subset hsubset
  rw [List.length_cons] at hle
  omega

end HoldsRecent

end HotAirBalloon.Library
