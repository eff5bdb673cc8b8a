import Mathlib.Data.List.Sort

/-!
# Parts of a sorted list

What a stable sort leaves of a part of a list that is in order already, how a sorted list splits at
a property, which of several equal elements a part of a sorted list can be taken to hold, and what
stands among the first elements.
-/

namespace HotAirBalloon.Library

variable {α β : Type}

/-- Of two elements of a list in order, one is related to the other. -/
theorem eq_or_of_pairwise {r : α → α → Prop} {l : List α} (h : l.Pairwise r) {a b : α} (ha : a ∈ l)
    (hb : b ∈ l) : a = b ∨ r a b ∨ r b a := by
  induction l with
  | nil => cases ha
  | cons first rest ih =>
    obtain ⟨hfirst, hrest⟩ := List.pairwise_cons.mp h
    rcases List.mem_cons.mp ha with rfl | harest
    · rcases List.mem_cons.mp hb with rfl | hbrest
      · exact Or.inl rfl
      · exact Or.inr (Or.inl (hfirst b hbrest))
    · rcases List.mem_cons.mp hb with rfl | hbrest
      · exact Or.inr (Or.inr (hfirst a harest))
      · exact ih hrest harest hbrest

/-- A list in which nothing without a property comes before anything that has it. -/
theorem eq_filter_append_filter {p : α → Bool} {r : α → α → Prop} {l : List α} (h : l.Pairwise r)
    (hp : ∀ a b, r a b → p b = true → p a = true) :
    l = l.filter p ++ l.filter (fun a => !p a) := by
  induction l with
  | nil => rfl
  | cons a rest ih =>
    obtain ⟨ha, hrest⟩ := List.pairwise_cons.mp h
    by_cases hpa : p a = true
    · rw [List.filter_cons_of_pos hpa, List.filter_cons_of_neg (by simpa using hpa),
        List.cons_append, ← ih hrest]
    · have hnone : ∀ b ∈ rest, ¬ p b = true := fun b hb hpb => hpa (hp a b (ha b hb) hpb)
      rw [List.filter_cons_of_neg hpa, List.filter_eq_nil_iff.mpr hnone, List.nil_append,
        List.filter_cons_of_pos (by simpa using hpa),
        List.filter_eq_self.mpr (fun b hb => by simpa using hnone b hb)]

/-- A part that is in order already is left as it is. -/
theorem filter_mergeSort {p : α → Bool} {le : α → α → Bool} {l : List α}
    (htrans : ∀ a b c, le a b = true → le b c = true → le a c = true)
    (htotal : ∀ a b, (le a b || le b a) = true)
    (h : (l.filter p).Pairwise (fun a b => le a b = true)) :
    (l.mergeSort le).filter p = l.filter p := by
  have hsub : (l.filter p).Sublist (l.mergeSort le) :=
    List.sublist_mergeSort htrans htotal h List.filter_sublist
  have hfilter := hsub.filter p
  rw [List.filter_filter] at hfilter
  simp only [Bool.and_self] at hfilter
  exact (hfilter.eq_of_length ((List.mergeSort_perm l le).filter p).length_eq.symm).symm

/-- Of the elements with one value, a part can be taken to hold those that come last. -/
theorem exists_last [LinearOrder β] {f : α → β} {r : α → α → Prop} {l : List α} {part : List β}
    (hr : l.Pairwise r) (hf : l.Pairwise (fun a b => f b ≤ f a)) (hpart : part.Sublist (l.map f)) :
    ∃ kept dropped : List α, kept.Sublist l ∧ (kept ++ dropped).Perm l ∧ kept.map f = part ∧
      ∀ k ∈ kept, ∀ d ∈ dropped, f d = f k → r d k := by
  induction l generalizing part with
  | nil =>
    have hnil : part = [] := List.eq_nil_of_sublist_nil hpart
    exact ⟨[], [], List.Sublist.refl _, List.Perm.refl _, hnil.symm, fun k hk => by cases hk⟩
  | cons a rest ih =>
    obtain ⟨hra, hrest⟩ := List.pairwise_cons.mp hr
    obtain ⟨hfa, hfrest⟩ := List.pairwise_cons.mp hf
    by_cases hlater : part.Sublist (rest.map f)
    · -- the first element is not needed
      obtain ⟨kept, dropped, hkept, hperm, hmap, hlast⟩ := ih hrest hfrest hlater
      refine ⟨kept, a :: dropped, hkept.cons a, ?_, hmap, ?_⟩
      · exact List.perm_middle.trans (hperm.cons a)
      · intro k hk d hd heq
        rcases List.mem_cons.mp hd with rfl | hd
        · exact hra k (hkept.subset hk)
        · exact hlast k hk d hd heq
    · -- it is, so nothing that has its value is left out of the rest
      cases hpart with
      | cons _ hsub => exact absurd hsub hlater
      | @cons_cons part' _ _ hsub =>
        obtain ⟨kept, dropped, hkept, hperm, hmap, hlast⟩ := ih hrest hfrest hsub
        refine ⟨a :: kept, dropped, hkept.cons_cons a,
          hperm.cons a, by rw [List.map_cons, hmap], ?_⟩
        intro k hk d hd heq
        rcases List.mem_cons.mp hk with rfl | hk
        · exfalso
          apply hlater
          -- the kept values and one more, in some order, are values of the rest
          have hmore : (f k :: part').Subperm (rest.map f) := by
            have hsubperm : (f d :: kept.map f).Subperm ((kept ++ dropped).map f) := by
              rw [List.map_append]
              refine List.Subperm.trans
                (List.perm_append_singleton (f d) (kept.map f)).symm.subperm ?_
              rw [List.subperm_append_left, List.singleton_subperm_iff]
              exact List.mem_map_of_mem hd
            rw [← hmap, ← heq]
            exact hsubperm.trans (hperm.map f).subperm
          have : Std.Antisymm (fun x y : β => y ≤ x) := ⟨fun x y h h' => le_antisymm h' h⟩
          refine List.sublist_of_subperm_of_pairwise (r := fun x y => y ≤ x) hmore ?_ ?_
          · rw [List.pairwise_cons]
            constructor
            · intro y hy
              obtain ⟨b, hb, rfl⟩ := List.mem_map.mp (hsub.subset hy)
              exact hfa b hb
            · exact (List.pairwise_map.mpr hfrest).sublist hsub
          · exact List.pairwise_map.mpr hfrest
        · exact hlast k hk d hd heq

/-! ## The first elements -/

section

variable {r : α → α → Prop} {l : List α} {p : α → Bool} {a : α} {n : Nat}

theorem exists_before_of_mem_take (h : a ∈ l.take n) :
    ∃ before after, l = before ++ a :: after ∧ before.length < n := by
  obtain ⟨before, after, hsplit⟩ := List.append_of_mem h
  refine ⟨before, after ++ l.drop n, ?_, ?_⟩
  · rw [← List.cons_append, ← List.append_assoc, ← hsplit, List.take_append_drop]
  · have hlength := congrArg List.length hsplit
    rw [List.length_take, List.length_append, List.length_cons] at hlength
    omega

/-- What has a property stands before an element that lacks it, with all that it precedes. -/
theorem countP_lt_of_mem_take (h : l.Pairwise r) (ha : a ∈ l.take n)
    (hp : ∀ b, b = a ∨ r a b → p b = false) : l.countP p < n := by
  obtain ⟨before, after, rfl, hbefore⟩ := exists_before_of_mem_take ha
  have hafter := (List.pairwise_cons.mp (List.pairwise_append.mp h).2.1).1
  have hnone : (a :: after).countP p = 0 := by
    rw [List.countP_eq_zero]
    intro b hb
    rw [hp b ((List.mem_cons.mp hb).imp_right (hafter b))]
    decide
  rw [List.countP_append, hnone, Nat.add_zero]
  exact List.countP_le_length.trans_lt hbefore

/-- An element that is not among the first comes after all of them. -/
theorem le_countP_of_not_mem_take (h : l.Pairwise r) (ha : a ∈ l) (hnot : a ∉ l.take n)
    (hp : ∀ b ∈ l.take n, r b a → p b = true) : n ≤ l.countP p := by
  rw [← List.take_append_drop n l] at h ha
  have hdrop : a ∈ l.drop n := (List.mem_append.mp ha).resolve_left hnot
  have hlength := List.length_pos_of_mem hdrop
  have hall : (l.take n).countP p = (l.take n).length := by
    rw [List.countP_eq_length]
    exact fun b hb => hp b hb ((List.pairwise_append.mp h).2.2 b hb a hdrop)
  have hle : (l.take n).countP p ≤ l.countP p := (List.take_sublist n l).countP_le
  rw [List.length_drop] at hlength
  rw [hall, List.length_take] at hle
  omega

/-- The first element with a property precedes the others. -/
theorem rel_of_find? {b : α} (h : l.Pairwise r) (hfind : l.find? p = some a) (hb : b ∈ l)
    (hpb : p b = true) : b = a ∨ r a b := by
  induction l with
  | nil => cases hb
  | cons first rest ih =>
    obtain ⟨hfirst, hrest⟩ := List.pairwise_cons.mp h
    cases hpfirst : p first with
    | true =>
      rw [List.find?_cons_of_pos hpfirst] at hfind
      obtain rfl := Option.some.inj hfind
      exact (List.mem_cons.mp hb).imp_right (hfirst b)
    | false =>
      rw [List.find?_cons_of_neg (by rw [hpfirst]; decide)] at hfind
      rcases List.mem_cons.mp hb with rfl | hb
      · rw [hpfirst] at hpb
        cases hpb
      · exact ih hrest hfind hb

end

end HotAirBalloon.Library
