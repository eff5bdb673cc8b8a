import Mathlib.Data.Prod.Lex
import Mathlib.Data.String.Basic
import HotAirBalloon.Context.Assembly
import HotAirBalloon.Library.FirstFit

/-!
# What the allocator selects

`allocate` is a first fit (`allocate_eq`) over the blocks in the order of their keys: share, source
and content, largest first. So it keeps to the budget, leaves out nothing that would still fit, and
what it selects depends on the keys alone, not on the order in which the blocks come.
-/

namespace HotAirBalloon.Context.TokenBudgetAllocator

open Library

variable {allocator : TokenBudgetAllocator} {blocks : List ContextBlock} {totalBudget : Int}

/-! ## The order -/

/-- What the blocks are sorted by. -/
def key (allocator : TokenBudgetAllocator) (block : ContextBlock) : Int × String × String :=
  (allocator.share block.kind, block.source, block.content)

/-- The key as an element of the order of tuples. -/
def rank (allocator : TokenBudgetAllocator) (block : ContextBlock) : Int ×ₗ String ×ₗ String :=
  toLex (allocator.share block.kind, toLex (block.source, block.content))

theorem notBefore_iff {a b : ContextBlock} :
    allocator.notBefore a b = true ↔ allocator.rank b ≤ allocator.rank a := by
  unfold notBefore rank
  rw [decide_eq_true_iff, Prod.Lex.le_iff, Prod.Lex.le_iff]
  show _ ↔ allocator.share b.kind < allocator.share a.kind ∨
    allocator.share b.kind = allocator.share a.kind ∧
      (b.source < a.source ∨ b.source = a.source ∧ b.content ≤ a.content)
  rw [eq_comm (a := allocator.share a.kind), eq_comm (a := a.source)]

theorem notBefore_trans (a b c : ContextBlock) (h : allocator.notBefore a b = true)
    (h' : allocator.notBefore b c = true) : allocator.notBefore a c = true := by
  rw [notBefore_iff] at h h' ⊢
  exact h'.trans h

theorem notBefore_total (a b : ContextBlock) :
    (allocator.notBefore a b || allocator.notBefore b a) = true := by
  rw [Bool.or_eq_true, notBefore_iff, notBefore_iff]
  exact le_total _ _

/-- The blocks in the order in which the allocator looks at them. -/
def ordered (allocator : TokenBudgetAllocator) (blocks : List ContextBlock) : List ContextBlock :=
  blocks.mergeSort allocator.notBefore

theorem ordered_perm : (allocator.ordered blocks).Perm blocks := List.mergeSort_perm _ _

theorem ordered_pairwise :
    (allocator.ordered blocks).Pairwise (fun a b => allocator.notBefore a b = true) :=
  List.pairwise_mergeSort notBefore_trans notBefore_total blocks

/-- The keys stand in one order, however the blocks come. -/
theorem map_key_ordered {blocks' : List ContextBlock} (h : blocks'.Perm blocks) :
    (allocator.ordered blocks').map allocator.key =
      (allocator.ordered blocks).map allocator.key := by
  have hsorted : ∀ l : List ContextBlock,
      ((allocator.ordered l).map allocator.rank).Pairwise (fun a b => b ≤ a) := by
    intro l
    rw [List.pairwise_map]
    exact ordered_pairwise.imp notBefore_iff.mp
  have hperm : ((allocator.ordered blocks').map allocator.rank).Perm
      ((allocator.ordered blocks).map allocator.rank) :=
    ((ordered_perm.trans h).trans ordered_perm.symm).map allocator.rank
  have hranks := hperm.eq_of_pairwise (fun a b _ _ hab hba => le_antisymm hba hab)
    (hsorted blocks') (hsorted blocks)
  have hkey : ∀ l : List ContextBlock, l.map allocator.key =
      (l.map allocator.rank).map (fun r => ((ofLex r).1, (ofLex (ofLex r).2).1,
        (ofLex (ofLex r).2).2)) := by
    intro l
    rw [List.map_map]
    rfl
  rw [hkey, hkey, hranks]

/-! ## The pass over the blocks -/

theorem blockTokens_pos (block : ContextBlock) : 0 < blockTokens block := by
  unfold blockTokens
  split <;> omega

theorem blockTokens_nonneg : ∀ block ∈ blocks, 0 ≤ blockTokens block :=
  fun block _ => (blockTokens_pos block).le

/-- A block's own count is never more than its effective one. -/
theorem tokenCount_le_blockTokens (block : ContextBlock) :
    block.tokenCount ≤ blockTokens block := by
  unfold blockTokens
  split <;> omega

theorem foldl_allocateBlock (a : Allocation) :
    blocks.foldl (allocateBlock totalBudget) a = {
      selected := a.selected ++ firstFit blockTokens totalBudget a.usedTokens blocks
      usedTokens := a.usedTokens + total blockTokens
        (firstFit blockTokens totalBudget a.usedTokens blocks)
      dropped := a.dropped + (leftOver blockTokens totalBudget a.usedTokens blocks).length } := by
  induction blocks generalizing a with
  | nil => simp [firstFit, leftOver]
  | cons block rest ih =>
    rw [List.foldl_cons, ih]
    rw [firstFit_cons, leftOver_cons]
    unfold allocateBlock
    by_cases hfits : a.usedTokens + blockTokens block ≤ totalBudget
    · rw [if_pos hfits, if_pos hfits, if_pos hfits, total_cons]
      simp only [List.append_assoc, List.singleton_append, add_assoc]
    · rw [if_neg hfits, if_neg hfits, if_neg hfits, List.length_cons]
      simp only [add_assoc, add_comm 1]

/-- The allocation is a first fit. -/
theorem allocate_eq (allocator : TokenBudgetAllocator) (blocks : List ContextBlock)
    (totalBudget : Int) : allocator.allocate blocks totalBudget = {
      selected := firstFit blockTokens totalBudget 0 (allocator.ordered blocks)
      usedTokens :=
        total blockTokens (firstFit blockTokens totalBudget 0 (allocator.ordered blocks))
      dropped := (leftOver blockTokens totalBudget 0 (allocator.ordered blocks)).length } := by
  unfold allocate
  rw [foldl_allocateBlock]
  simp only [List.nil_append, zero_add]
  rfl

theorem selected_eq : (allocator.allocate blocks totalBudget).selected =
    firstFit blockTokens totalBudget 0 (allocator.ordered blocks) := by
  rw [allocate_eq]

/-- The blocks that are selected, and the others. -/
theorem selected_append_leftOver : ((allocator.allocate blocks totalBudget).selected ++
    leftOver blockTokens totalBudget 0 (allocator.ordered blocks)).Perm blocks := by
  rw [selected_eq]
  exact firstFit_append_leftOver.trans ordered_perm

/-- What is allocated was offered. -/
theorem mem_of_mem_allocate {block : ContextBlock}
    (h : block ∈ (allocator.allocate blocks totalBudget).selected) : block ∈ blocks :=
  selected_append_leftOver.subset (List.mem_append_left _ h)

theorem total_selected_le :
    total blockTokens (allocator.allocate blocks totalBudget).selected ≤ max totalBudget 0 := by
  rw [selected_eq]
  have hused :
      0 + total blockTokens (firstFit blockTokens totalBudget 0 (allocator.ordered blocks)) ≤
      max totalBudget 0 := used_add_total_firstFit_le
  omega

/-- A budget for all blocks drops none. -/
theorem selected_perm_of_le (h : total blockTokens blocks ≤ totalBudget) :
    (allocator.allocate blocks totalBudget).selected.Perm blocks := by
  rw [selected_eq, firstFit_eq_self blockTokens_nonneg]
  · exact ordered_perm
  · rw [total_perm ordered_perm, zero_add]
    exact h

/-- Blocks with one key have one effective count. -/
def CountedByKey (allocator : TokenBudgetAllocator) (blocks : List ContextBlock) : Prop :=
  ∀ a ∈ blocks, ∀ b ∈ blocks, allocator.key a = allocator.key b → blockTokens a = blockTokens b

/-- The keys that are selected do not depend on the order of the blocks. -/
theorem map_key_selected {blocks' : List ContextBlock} (h : blocks'.Perm blocks)
    (hcounted : allocator.CountedByKey blocks) :
    (allocator.allocate blocks' totalBudget).selected.map allocator.key =
      (allocator.allocate blocks totalBudget).selected.map allocator.key := by
  -- the count of the blocks that have a key
  let count (k : Int × String × String) : Int :=
    ((blocks.find? (fun block => allocator.key block = k)).map blockTokens).getD 0
  have hcount : ∀ block ∈ blocks, count (allocator.key block) = blockTokens block := by
    intro block hblock
    show ((blocks.find? (fun other => allocator.key other = allocator.key block)).map
      blockTokens).getD 0 = _
    cases hfind : blocks.find? (fun other => allocator.key other = allocator.key block) with
    | none => exact absurd (decide_eq_true rfl) (List.find?_eq_none.mp hfind block hblock)
    | some other =>
      have hother := List.mem_of_find?_eq_some hfind
      have hkey : allocator.key other = allocator.key block := by
        simpa using List.find?_some hfind
      exact hcounted other hother block hblock hkey
  have hmap : ∀ l : List ContextBlock, l ⊆ blocks →
      (firstFit blockTokens totalBudget 0 l).map allocator.key =
        firstFit count totalBudget 0 (l.map allocator.key) :=
    fun l hl => (firstFit_map fun block hblock => hcount block (hl hblock)).symm
  rw [selected_eq, selected_eq, hmap _ (ordered_perm.trans h).subset, hmap _ ordered_perm.subset,
    map_key_ordered h]

end HotAirBalloon.Context.TokenBudgetAllocator
