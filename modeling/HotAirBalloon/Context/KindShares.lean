import HotAirBalloon.Context.Budget
import HotAirBalloon.Library.StableSort

/-!
# Shares of the budget

`kind_shares` is documented as a share of the budget for each kind, of which only what is left
spills to others. The allocator uses it as a priority alone: the blocks of a kind with as great a
share may take the whole budget. So a kind is sure of its share exactly when no other has as great a
one (`kindGuaranteed_iff`).
-/

namespace HotAirBalloon.Context.TokenBudgetAllocator

open Library

variable {allocator : TokenBudgetAllocator} {kind : ContextKind} {own blocks : List ContextBlock}
  {totalBudget : Int}

/-! ## Shares -/

/-- The sum of all configured shares. -/
def shareSum (allocator : TokenBudgetAllocator) : Int := (allocator.kindShares.map (·.2)).sum

/-- `floor(total_budget * share / sum)`. -/
def quota (allocator : TokenBudgetAllocator) (totalBudget : Int) (kind : ContextKind) : Int :=
  (totalBudget * allocator.share kind).fdiv allocator.shareSum

/-- Whatever blocks of other kinds compete, all blocks of a kind that need no more than its share
are selected. -/
def KindGuaranteed (allocator : TokenBudgetAllocator) (kind : ContextKind) (own : List ContextBlock)
    (totalBudget : Int) : Prop :=
  total blockTokens own ≤ allocator.quota totalBudget kind →
  ∀ blocks : List ContextBlock, blocks.filter (fun block => block.kind = kind) = own →
    ((allocator.allocate blocks totalBudget).selected.filter
      (fun block => block.kind = kind)).Perm own

/-- No other kind has as great a share. -/
def Outranks (allocator : TokenBudgetAllocator) (kind : ContextKind) : Prop :=
  ∀ other, other ≠ kind → allocator.share other < allocator.share kind

/-! ## A kind that outranks the others -/

/-- What comes before a block of the kind is of the kind. -/
theorem kind_eq_of_notBefore (houtranks : allocator.Outranks kind) {a b : ContextBlock}
    (h : allocator.notBefore a b = true) (hb : b.kind = kind) : a.kind = kind := by
  by_contra hne
  have hless := houtranks a.kind hne
  rw [← hb] at hless
  rw [notBefore, decide_eq_true_iff] at h
  omega

theorem selected_of_outranks (houtranks : allocator.Outranks kind)
    (hown : blocks.filter (fun block => block.kind = kind) = own)
    (hfits : total blockTokens own ≤ totalBudget) :
    ((allocator.allocate blocks totalBudget).selected.filter
      (fun block => block.kind = kind)).Perm own := by
  have hsplit := eq_filter_append_filter (p := fun block => decide (block.kind = kind))
    (@ordered_pairwise allocator blocks)
    (fun a b h hb => decide_eq_true (kind_eq_of_notBefore houtranks h (of_decide_eq_true hb)))
  have hperm :
      ((allocator.ordered blocks).filter (fun block => decide (block.kind = kind))).Perm own := by
    rw [← hown]
    exact ordered_perm.filter _
  rw [selected_eq, hsplit, firstFit_append blockTokens_nonneg
    (by rw [total_perm hperm, zero_add]; exact hfits), List.filter_append]
  have hothers : (firstFit blockTokens totalBudget (0 + total blockTokens
      ((allocator.ordered blocks).filter (fun block => decide (block.kind = kind))))
      ((allocator.ordered blocks).filter (fun block => !decide (block.kind = kind)))).filter
        (fun block => decide (block.kind = kind)) = [] := by
    rw [List.filter_eq_nil_iff]
    intro block hblock
    have hmem := firstFit_sublist.subset hblock
    simpa using (List.mem_filter.mp hmem).2
  rw [hothers, List.append_nil, List.filter_filter]
  simpa using hperm

/-! ## A kind that does not -/

/-- A block that comes first and takes the whole budget is the only one that is selected. -/
theorem selected_crowded {block : ContextBlock}
    (hfirst : ∀ other ∈ own, allocator.notBefore block other = true)
    (hcost : blockTokens block = totalBudget) :
    (allocator.allocate (block :: own) totalBudget).selected = [block] := by
  obtain ⟨before, after, hcons, htail, hnone⟩ :=
    List.mergeSort_cons (@notBefore_trans allocator) notBefore_total block own
  have hbefore : before = [] := by
    rw [List.eq_nil_iff_forall_not_mem]
    intro other hother
    have hmem : other ∈ own := by
      have hsorted : other ∈ own.mergeSort allocator.notBefore := by
        rw [htail]
        exact List.mem_append_left _ hother
      exact List.mem_mergeSort.mp hsorted
    have hlater := hnone other hother
    rw [hfirst other hmem] at hlater
    cases hlater
  rw [hbefore, List.nil_append] at hcons
  have hordered : allocator.ordered (block :: own) = block :: after := hcons
  rw [selected_eq, hordered, firstFit_cons, if_pos (by omega), firstFit_eq_nil]
  intro other _
  have := blockTokens_pos other
  omega

theorem lt_append_a (s : String) : s < s ++ "a" := by
  rw [String.lt_iff_toList_lt, String.toList_append]
  show s.toList < s.toList ++ ['a']
  conv_lhs => rw [← List.append_nil s.toList]
  exact List.append_left_lt (List.nil_lt_cons 'a' [])

/-- There is always a greater source. -/
theorem exists_gt_all (l : List String) : ∃ s, ∀ t ∈ l, t < s := by
  induction l with
  | nil => exact ⟨"", fun t ht => absurd ht List.not_mem_nil⟩
  | cons first rest ih =>
    obtain ⟨s, hs⟩ := ih
    refine ⟨max (first ++ "a") s, ?_⟩
    intro t ht
    rcases List.mem_cons.mp ht with rfl | hmem
    · exact lt_max_of_lt_left (lt_append_a t)
    · exact lt_max_of_lt_right (hs t hmem)

/-! ## Who is sure of a share -/

/-- Without room for all of them, some block is dropped. -/
theorem not_perm_of_lt (hbudget : 0 ≤ totalBudget) (h : totalBudget < total blockTokens own) :
    ¬ ((allocator.allocate own totalBudget).selected.filter
      (fun block => block.kind = kind)).Perm own := by
  intro hperm
  have hsub : ((allocator.allocate own totalBudget).selected.filter
      (fun block => block.kind = kind)).Sublist (allocator.allocate own totalBudget).selected :=
    List.filter_sublist
  have hle := total_le_of_sublist hsub blockTokens_nonneg
  have hwithin :
      total blockTokens (allocator.allocate own totalBudget).selected ≤ max totalBudget 0 :=
    total_selected_le
  rw [total_perm hperm] at hle
  omega

/-- A kind with as great a share crowds the blocks out. -/
theorem exists_crowded (h : ¬ allocator.Outranks kind) (hkind : ∀ block ∈ own, block.kind = kind)
    (hnone : own ≠ []) (hpos : 0 < totalBudget) :
    ∃ blocks : List ContextBlock, blocks.filter (fun block => block.kind = kind) = own ∧
      ¬ ((allocator.allocate blocks totalBudget).selected.filter
        (fun block => block.kind = kind)).Perm own := by
  unfold Outranks at h
  push Not at h
  obtain ⟨other, hother, hshare⟩ := h
  obtain ⟨source, hsource⟩ := exists_gt_all (own.map (·.source))
  let rival : ContextBlock := {
    kind := other, content := "", source := source, tokenCount := totalBudget }
  have hfirst : ∀ block ∈ own, allocator.notBefore rival block = true := by
    intro block hblock
    have hless := hsource block.source (List.mem_map_of_mem hblock)
    have hk := hkind block hblock
    rw [notBefore, decide_eq_true_iff, hk]
    show allocator.share kind < allocator.share other ∨
      allocator.share other = allocator.share kind ∧ _
    by_cases heq : allocator.share other = allocator.share kind
    · exact Or.inr ⟨heq, Or.inl hless⟩
    · omega
  have hcost : blockTokens rival = totalBudget := by
    unfold blockTokens
    show (if max totalBudget 0 = 0 then _ else max totalBudget 0) = totalBudget
    rw [if_neg (by omega)]
    omega
  refine ⟨rival :: own, ?_, ?_⟩
  · rw [List.filter_cons_of_neg (by simpa using hother), List.filter_eq_self]
    intro block hblock
    exact decide_eq_true (hkind block hblock)
  · rw [selected_crowded hfirst hcost, List.filter_cons_of_neg (by simpa using hother),
      List.filter_nil]
    intro hperm
    exact hnone (List.nil_perm.mp hperm)

/-- The blocks of a kind are sure of its share exactly when there are none, they need more, or no
other kind has as great a share and the budget is enough for them. -/
theorem kindGuaranteed_iff (hkind : ∀ block ∈ own, block.kind = kind) (hbudget : 0 ≤ totalBudget) :
    allocator.KindGuaranteed kind own totalBudget ↔
      own = [] ∨ allocator.quota totalBudget kind < total blockTokens own ∨
        allocator.Outranks kind ∧ total blockTokens own ≤ totalBudget := by
  constructor
  · intro hguaranteed
    by_contra hnone
    push Not at hnone
    obtain ⟨hsome, hneeds, houtranked⟩ := hnone
    by_cases hfits : total blockTokens own ≤ totalBudget
    · have hpos : 0 < total blockTokens own := by
        obtain ⟨block, rest, rfl⟩ := List.exists_cons_of_ne_nil hsome
        have := blockTokens_pos block
        have := total_nonneg (@blockTokens_nonneg rest)
        rw [total_cons]
        omega
      obtain ⟨blocks, hown, hdropped⟩ := exists_crowded (fun h => by have := houtranked h; omega)
        hkind hsome (hpos.trans_le hfits)
      exact hdropped (hguaranteed hneeds blocks hown)
    · refine not_perm_of_lt hbudget (by omega) (hguaranteed hneeds own ?_)
      rw [List.filter_eq_self]
      exact fun block hblock => decide_eq_true (hkind block hblock)
  · rintro (rfl | hmore | ⟨houtranks, hfits⟩) hneeds blocks hown
    · rw [List.perm_nil, List.filter_eq_nil_iff]
      intro block hblock
      exact List.filter_eq_nil_iff.mp hown block (mem_of_mem_allocate hblock)
    · omega
    · exact selected_of_outranks houtranks hown hfits

/-! ## A memory and a long turn -/

/-- A memory of one token. -/
def smallMemory : ContextBlock := {
  kind := .userMemory, content := "pump", source := "memory", tokenCount := 1 }

/-- A turn of a hundred. -/
def longTurn : ContextBlock := {
  kind := .recentTurn, content := "user: hello", source := "conversation", tokenCount := 100 }

/-- The memory has nine tokens of a hundred for its share, and gets none. -/
theorem smallMemory_crowded :
    ¬ ({} : TokenBudgetAllocator).KindGuaranteed .userMemory [smallMemory] 100 := by
  intro hguaranteed
  have hneeds :
      total blockTokens [smallMemory] ≤ ({} : TokenBudgetAllocator).quota 100 .userMemory := by
    decide
  have hselected := hguaranteed hneeds [longTurn, smallMemory] (by decide)
  have hfirst : ∀ block ∈ [smallMemory],
      ({} : TokenBudgetAllocator).notBefore longTurn block = true := by
    intro block hblock
    cases List.mem_singleton.mp hblock
    decide
  rw [selected_crowded hfirst (by decide)] at hselected
  have hlength := hselected.length_eq
  revert hlength
  decide

theorem not_kindGuaranteed : ¬ ∀ (allocator : TokenBudgetAllocator) (kind : ContextKind)
    (own : List ContextBlock) (totalBudget : Int), (∀ block ∈ own, block.kind = kind) →
    0 ≤ totalBudget → allocator.KindGuaranteed kind own totalBudget := by
  intro hall
  refine smallMemory_crowded (hall {} .userMemory [smallMemory] 100 ?_ (by decide))
  intro block hblock
  cases List.mem_singleton.mp hblock
  rfl

/-- By default recent turns are sure of theirs. -/
theorem outranks_recentTurn : ({} : TokenBudgetAllocator).Outranks .recentTurn := by
  intro other hother
  cases other with
  | recentTurn => exact absurd rfl hother
  | _ => decide

theorem kindGuaranteed_recentTurn :
    ({} : TokenBudgetAllocator).KindGuaranteed .recentTurn [longTurn] 1000 := by
  refine (kindGuaranteed_iff ?_ (by decide)).mpr (Or.inr (Or.inr ⟨outranks_recentTurn, ?_⟩))
  · intro block hblock
    cases List.mem_singleton.mp hblock
    rfl
  · decide

end HotAirBalloon.Context.TokenBudgetAllocator
