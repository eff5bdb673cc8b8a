import HotAirBalloon.Context.Assembler
import HotAirBalloon.Library.StableSort

/-!
# The order of the recent turns

The store hands out the recent turns oldest first. The allocator sorts their blocks by content,
largest first, as all of them have one share and one source. So the dialogue is in order, and its
newest turns are kept, only if the contents happen to be in that order (`keepsTurnOrder_iff`).
-/

namespace HotAirBalloon.Context

open Python Memory Library TokenBudgetAllocator

/-- The block of a turn whose text has a count. -/
def recentTurnBlock (counter : TokenCounter) (turn : ConversationTurn) : ContextBlock where
  kind := .recentTurn
  content := turnText turn
  source := "recent_turns"
  tokenCount := counter.tokens (turnText turn)

/-- The counter counts the texts of the turns. -/
def CountsTurns (counter : TokenCounter) (turns : List ConversationTurn) : Prop :=
  ∀ turn ∈ turns, ∃ n, counter (turnText turn) = .ok n

/-- What a turn costs. -/
def turnTokens (counter : TokenCounter) (turn : ConversationTurn) : Int :=
  blockTokens (recentTurnBlock counter turn)

def ContextBlock.isTurn (block : ContextBlock) : Bool := block.kind = .recentTurn

/-- The blocks hold some turns in their order, and each of them is as new as every other turn that
is not larger. -/
structure KeepsNewest (counter : TokenCounter) (turns : List ConversationTurn)
    (blocks : List ContextBlock) (kept dropped : List ConversationTurn) : Prop where
  sublist : kept.Sublist turns
  perm : (kept ++ dropped).Perm turns
  blocks_eq : blocks.filter ContextBlock.isTurn = kept.map (recentTurnBlock counter)
  newest : ∀ k ∈ kept, ∀ d ∈ dropped, turnTokens counter d ≤ turnTokens counter k →
    d.createdAtUtc ≤ k.createdAtUtc

/-- Whatever the other providers return or raise, and for every budget, the context holds turns
so. -/
def KeepsTurnOrder (allocator : TokenBudgetAllocator) (counter : TokenCounter)
    (turns : List ConversationTurn) : Prop :=
  ∀ (before after : List (Except PyError (List ContextBlock))) (totalBudget : Int)
    (context : AssembledContext),
    (∀ blocks, .ok blocks ∈ before ++ after → ∀ block ∈ blocks, block.isTurn = false) →
    DefaultContextAssembler.assemble ⟨allocator, counter, totalBudget⟩
      (before ++ RecentTurnsProvider.getBlocks counter turns :: after) = .ok context →
    ∃ kept dropped, KeepsNewest counter turns context.blocks kept dropped

/-- The texts come largest first, and an older turn is smaller than a newer one with another
text. -/
def LargestFirst (counter : TokenCounter) (turns : List ConversationTurn) : Prop :=
  turns.Pairwise (fun a b => turnText b ≤ turnText a ∧
    (a.createdAtUtc < b.createdAtUtc →
      turnText a = turnText b ∨ turnTokens counter a < turnTokens counter b))

section

variable {allocator : TokenBudgetAllocator} {counter : TokenCounter} {turns : List ConversationTurn}
  {blocks : List ContextBlock} {totalBudget : Int}

/-- The provider returns a block for each turn. -/
theorem getBlocks_turns (hcounted : CountsTurns counter turns) :
    RecentTurnsProvider.getBlocks counter turns = .ok (turns.map (recentTurnBlock counter)) := by
  apply mapM_eq_ok_map
  intro turn hturn
  obtain ⟨n, hn⟩ := hcounted turn hturn
  unfold countedText recentTurnBlock TokenCounter.tokens
  rw [hn]
  rfl

theorem countedBlock_recentTurnBlock (turn : ConversationTurn) :
    countedBlock counter.tokens (recentTurnBlock counter turn) = recentTurnBlock counter turn := by
  unfold countedBlock recentTurnBlock
  simp

/-- All turns have one share and one source. -/
theorem notBefore_recentTurnBlock {a b : ConversationTurn} :
    allocator.notBefore (recentTurnBlock counter a) (recentTurnBlock counter b) = true ↔
      turnText b ≤ turnText a := by
  unfold notBefore recentTurnBlock
  simp

theorem filter_isTurn_map (l : List ConversationTurn) :
    (l.map (recentTurnBlock counter)).filter ContextBlock.isTurn =
      l.map (recentTurnBlock counter) := by
  rw [List.filter_eq_self]
  intro block hblock
  obtain ⟨turn, -, rfl⟩ := List.mem_map.mp hblock
  rfl

/-! ## Turns in the order of their texts -/

/-- The blocks of the turns stay in their order. -/
theorem filter_ordered
    (hturns : blocks.filter ContextBlock.isTurn = turns.map (recentTurnBlock counter))
    (hdescending : turns.Pairwise (fun a b => turnText b ≤ turnText a)) :
    (allocator.ordered blocks).filter ContextBlock.isTurn =
      turns.map (recentTurnBlock counter) := by
  rw [← hturns]
  apply filter_mergeSort notBefore_trans notBefore_total
  rw [hturns, List.pairwise_map]
  exact hdescending.imp notBefore_recentTurnBlock.mpr

/-- The block of a text. -/
theorem eq_map_of_contents {part : List ContextBlock} {kept : List ConversationTurn}
    (hpart : ∀ block ∈ part, ∃ turn, block = recentTurnBlock counter turn)
    (hcontents : kept.map turnText = part.map (·.content)) :
    part = kept.map (recentTurnBlock counter) := by
  induction part generalizing kept with
  | nil =>
    rw [List.map_nil, List.map_eq_nil_iff] at hcontents
    rw [hcontents, List.map_nil]
  | cons block rest ih =>
    cases kept with
    | nil => cases hcontents
    | cons turn others =>
      rw [List.map_cons, List.map_cons, List.cons.injEq] at hcontents
      obtain ⟨hcontent, hothers⟩ := hcontents
      obtain ⟨source, rfl⟩ := hpart block List.mem_cons_self
      rw [List.map_cons, ← ih (fun b hb => hpart b (List.mem_cons_of_mem _ hb)) hothers]
      have htext : turnText turn = turnText source := hcontent
      unfold recentTurnBlock
      rw [htext]

/-- Of two turns the one with the larger text is as new as the other, unless it is smaller. -/
theorem LargestFirst.newest (h : LargestFirst counter turns) {k d : ConversationTurn}
    (hk : k ∈ turns) (hd : d ∈ turns) (htext : turnText d < turnText k)
    (hsize : turnTokens counter d ≤ turnTokens counter k) : d.createdAtUtc ≤ k.createdAtUtc := by
  by_contra hnewer
  rcases eq_or_of_pairwise h hk hd with rfl | ⟨-, hgrows⟩ | ⟨hle, -⟩
  · exact lt_irrefl _ htext
  · rcases hgrows (not_le.mp hnewer) with heq | hless
    · exact htext.ne' heq
    · omega
  · exact not_le.mpr htext hle

/-- An allocation keeps the newest of turns that come largest first. -/
theorem allocate_keepsNewest
    (hchronological : turns.Pairwise (fun a b => a.createdAtUtc ≤ b.createdAtUtc))
    (hlargest : LargestFirst counter turns)
    (hturns : blocks.filter ContextBlock.isTurn = turns.map (recentTurnBlock counter)) :
    ∃ kept dropped, KeepsNewest counter turns (allocator.allocate blocks totalBudget).selected kept
      dropped := by
  have hdescending : turns.Pairwise (fun a b => turnText b ≤ turnText a) := hlargest.imp (·.1)
  have hordered : (allocator.ordered blocks).filter ContextBlock.isTurn =
      turns.map (recentTurnBlock counter) := filter_ordered hturns hdescending
  let selected := firstFit blockTokens totalBudget 0 (allocator.ordered blocks)
  let left := leftOver blockTokens totalBudget 0 (allocator.ordered blocks)
  have hselected :
      (selected.filter ContextBlock.isTurn).Sublist (turns.map (recentTurnBlock counter)) := by
    rw [← hordered]
    exact firstFit_sublist.filter _
  have hcontents : ((selected.filter ContextBlock.isTurn).map (·.content)).Sublist
      (turns.map turnText) := by
    have hmap := hselected.map (·.content)
    rw [List.map_map] at hmap
    exact hmap
  obtain ⟨kept, dropped, hkept, hperm, htexts, hlast⟩ :=
    exists_last hchronological hdescending hcontents
  have hblocks : selected.filter ContextBlock.isTurn = kept.map (recentTurnBlock counter) := by
    apply eq_map_of_contents _ htexts
    intro block hblock
    obtain ⟨turn, -, hturn⟩ := List.mem_map.mp (hselected.subset hblock)
    exact ⟨turn, hturn.symm⟩
  -- the dropped turns are those that are left over
  have hdropped :
      (dropped.map (recentTurnBlock counter)).Perm (left.filter ContextBlock.isTurn) := by
    have hall : (selected.filter ContextBlock.isTurn ++ left.filter ContextBlock.isTurn).Perm
        (turns.map (recentTurnBlock counter)) := by
      rw [← List.filter_append, ← hordered]
      exact firstFit_append_leftOver.filter _
    have hboth := (hperm.map (recentTurnBlock counter)).trans hall.symm
    rw [List.map_append, hblocks] at hboth
    exact (List.perm_append_left_iff _).mp hboth
  refine ⟨kept, dropped, hkept, hperm, by rw [selected_eq]; exact hblocks, ?_⟩
  intro k hk d hd hsize
  have hkselected : recentTurnBlock counter k ∈ selected := by
    have hmem : recentTurnBlock counter k ∈ selected.filter ContextBlock.isTurn := by
      rw [hblocks]
      exact List.mem_map_of_mem hk
    exact (List.mem_filter.mp hmem).1
  have hdleft : recentTurnBlock counter d ∈ left :=
    (List.mem_filter.mp (hdropped.subset (List.mem_map_of_mem hd))).1
  have hbefore :
      allocator.notBefore (recentTurnBlock counter k) (recentTurnBlock counter d) = true :=
    of_pairwise ordered_pairwise blockTokens_nonneg hkselected hdleft hsize
  rw [notBefore_recentTurnBlock] at hbefore
  by_cases htext : turnText d = turnText k
  · exact hlast k hk d hd htext
  · exact hlargest.newest (hkept.subset hk) (hperm.subset (List.mem_append_right _ hd))
      (lt_of_le_of_ne hbefore htext) hsize

/-- The blocks that the allocator gets, of which those of one provider are the turns. -/
theorem filter_isTurn_counted {first rest : List ContextBlock}
    (hfirst : ∀ block ∈ first, block.isTurn = false)
    (hrest : ∀ block ∈ rest, block.isTurn = false) :
    ((first ++ (turns.map (recentTurnBlock counter) ++ rest)).map
      (countedBlock counter.tokens)).filter
      ContextBlock.isTurn = turns.map (recentTurnBlock counter) := by
  have hnone : ∀ l : List ContextBlock, (∀ block ∈ l, block.isTurn = false) →
      (l.map (countedBlock counter.tokens)).filter ContextBlock.isTurn = [] := by
    intro l hl
    rw [List.filter_eq_nil_iff]
    intro block hblock
    obtain ⟨given, hgiven, rfl⟩ := List.mem_map.mp hblock
    show ¬ given.isTurn = true
    rw [hl given hgiven]
    simp
  have hsame : (turns.map (recentTurnBlock counter)).map (countedBlock counter.tokens) =
      turns.map (recentTurnBlock counter) := by
    rw [List.map_map]
    exact List.map_congr_left (fun turn _ => countedBlock_recentTurnBlock turn)
  rw [List.map_append, List.map_append, hsame, List.filter_append, List.filter_append,
    hnone first hfirst, hnone rest hrest, filter_isTurn_map, List.nil_append, List.append_nil]

theorem keepsTurnOrder_of_largestFirst (hcounted : CountsTurns counter turns)
    (hchronological : turns.Pairwise (fun a b => a.createdAtUtc ≤ b.createdAtUtc))
    (hlargest : LargestFirst counter turns) : KeepsTurnOrder allocator counter turns := by
  intro before after totalBudget context hothers h
  rw [getBlocks_turns hcounted] at h
  obtain ⟨aggregated, normalized, haggregated, hnormalized, rfl⟩ := assemble_ok h
  obtain rfl := mapM_normalize hnormalized
  obtain ⟨first, rest, hfirst, hrest, rfl⟩ := aggregate_middle haggregated
  apply allocate_keepsNewest hchronological hlargest
  apply filter_isTurn_counted
  · intro block hblock
    obtain ⟨found, hfound, hmem⟩ := mem_aggregate hfirst hblock
    exact hothers found (List.mem_append_left _ hfound) block hmem
  · intro block hblock
    obtain ⟨found, hfound, hmem⟩ := mem_aggregate hrest hblock
    exact hothers found (List.mem_append_right _ hfound) block hmem

/-- A text that is refused fails the provider, so that no turn is kept. -/
theorem keepsTurnOrder_of_refused (hrefused : ¬ CountsTurns counter turns) :
    KeepsTurnOrder allocator counter turns := by
  intro before after totalBudget context hothers h
  refine ⟨[], turns, List.nil_sublist _, List.Perm.refl _, ?_, fun _ hk =>
    absurd hk List.not_mem_nil⟩
  rw [List.map_nil, List.filter_eq_nil_iff]
  intro block hblock
  obtain ⟨found, hfound, given, hgiven, hnormalize⟩ := exists_of_mem_assemble h hblock
  obtain ⟨-, rfl⟩ := normalize_eq_ok.mp hnormalize
  have hother : .ok found ∈ before ++ after := by
    rcases List.mem_append.mp hfound with hbefore | hrest
    · exact List.mem_append_left _ hbefore
    · rcases List.mem_cons.mp hrest with hturns | hafter
      · refine absurd (fun turn hturn => ?_) hrefused
        obtain ⟨_, -, hcounted⟩ := exists_ok_of_mapM hturns.symm hturn
        obtain ⟨n, hn, -⟩ := countedText_eq_ok.mp hcounted
        exact ⟨n, hn⟩
      · exact List.mem_append_right _ hafter
  show ¬ given.isTurn = true
  rw [hothers found hother given hgiven]
  decide

/-! ## Turns out of that order -/

/-- Without other providers the allocator gets the blocks of the turns alone. -/
theorem assemble_alone (hcounted : CountsTurns counter turns) : DefaultContextAssembler.assemble
    ⟨allocator, counter, totalBudget⟩ [RecentTurnsProvider.getBlocks counter turns] = .ok {
      blocks := (allocator.allocate (turns.map (recentTurnBlock counter)) totalBudget).selected
      totalTokens :=
        ((allocator.allocate (turns.map (recentTurnBlock counter)) totalBudget).selected.map
        (·.tokenCount)).sum
      droppedBlockCount :=
        (allocator.allocate (turns.map (recentTurnBlock counter)) totalBudget).dropped } := by
  have hnormalized : (turns.map (recentTurnBlock counter)).mapM
      (DefaultContextAssembler.normalize ⟨allocator, counter, totalBudget⟩) =
        .ok (turns.map (recentTurnBlock counter)) := by
    conv_rhs => rw [← List.map_id (turns.map (recentTurnBlock counter))]
    apply mapM_eq_ok_map
    intro block hblock
    obtain ⟨turn, hturn, rfl⟩ := List.mem_map.mp hblock
    exact normalize_eq_ok.mpr ⟨fun _ => hcounted turn hturn,
      (countedBlock_recentTurnBlock turn).symm⟩
  rw [getBlocks_turns hcounted]
  unfold DefaultContextAssembler.assemble DefaultContextAssembler.aggregate
    DefaultContextAssembler.aggregate
  simp only [bind, Except.bind, pure, Except.pure, List.append_nil, hnormalized]

theorem KeepsTurnOrder.alone (h : KeepsTurnOrder allocator counter turns)
    (hcounted : CountsTurns counter turns) (totalBudget : Int) :
    ∃ kept dropped, KeepsNewest counter turns
      (allocator.allocate (turns.map (recentTurnBlock counter)) totalBudget).selected kept
        dropped := by
  apply h [] [] totalBudget _ _ (assemble_alone hcounted)
  intro blocks hblocks
  cases hblocks

/-- With a budget for all of them, the turns are in the order of their texts. -/
theorem KeepsTurnOrder.descending (h : KeepsTurnOrder allocator counter turns)
    (hcounted : CountsTurns counter turns) :
    turns.Pairwise (fun a b => turnText b ≤ turnText a) := by
  let blocks := turns.map (recentTurnBlock counter)
  have hselected : (allocator.allocate blocks (total blockTokens blocks)).selected =
      allocator.ordered blocks := by
    rw [selected_eq, firstFit_eq_self blockTokens_nonneg]
    rw [total_perm ordered_perm, zero_add]
  obtain ⟨kept, dropped, hkeeps⟩ := h.alone hcounted (total blockTokens blocks)
  have hblocks := hkeeps.blocks_eq
  have hperm : (allocator.ordered blocks).Perm blocks := ordered_perm
  have hall : (allocator.ordered blocks).filter ContextBlock.isTurn = allocator.ordered blocks := by
    rw [List.filter_eq_self]
    intro block hblock
    obtain ⟨turn, -, rfl⟩ := List.mem_map.mp (hperm.subset hblock)
    rfl
  rw [show turns.map (recentTurnBlock counter) = blocks from rfl, hselected, hall] at hblocks
  have hkept : kept = turns := by
    apply hkeeps.sublist.eq_of_length
    have hlength := hperm.length_eq
    rw [hblocks, List.length_map, List.length_map] at hlength
    exact hlength
  have hpairwise :
      (allocator.ordered blocks).Pairwise (fun a b => allocator.notBefore a b = true) :=
    ordered_pairwise
  rw [hblocks, hkept, List.pairwise_map] at hpairwise
  exact hpairwise.imp notBefore_recentTurnBlock.mp

/-- A budget for the turns with a text or a larger one keeps these. -/
theorem selected_upTo (hdescending : turns.Pairwise (fun a b => turnText b ≤ turnText a))
    (text : String) : (allocator.allocate (turns.map (recentTurnBlock counter))
      (total (turnTokens counter) (turns.filter (fun turn => text ≤ turnText turn)))).selected =
    (turns.filter (fun turn => text ≤ turnText turn)).map (recentTurnBlock counter) := by
  have hordered : allocator.ordered (turns.map (recentTurnBlock counter)) =
      turns.map (recentTurnBlock counter) := by
    apply List.mergeSort_of_pairwise
    rw [List.pairwise_map]
    exact hdescending.imp notBefore_recentTurnBlock.mpr
  have hsplit :=
    eq_filter_append_filter (p := fun turn => decide (text ≤ turnText turn)) hdescending
    (fun a b hle hb => decide_eq_true ((of_decide_eq_true hb).trans hle))
  have htotal : ∀ l : List ConversationTurn,
      total blockTokens (l.map (recentTurnBlock counter)) = total (turnTokens counter) l := by
    intro l
    unfold total
    rw [List.map_map]
    rfl
  rw [selected_eq, hordered]
  conv_lhs => rw [hsplit, List.map_append]
  rw [firstFit_append blockTokens_nonneg, firstFit_eq_nil, List.append_nil]
  · intro block _
    have := blockTokens_pos block
    rw [htotal, ← hsplit]
    omega
  · rw [htotal, ← hsplit]
    omega

theorem KeepsTurnOrder.largestFirst (h : KeepsTurnOrder allocator counter turns)
    (hcounted : CountsTurns counter turns) : LargestFirst counter turns := by
  have hdescending := h.descending hcounted
  unfold LargestFirst
  rw [List.pairwise_and_iff]
  refine ⟨hdescending, ?_⟩
  rw [List.pairwise_iff_forall_sublist]
  intro a b hsub holder
  by_contra hnone
  push Not at hnone
  obtain ⟨htext, hsize⟩ := hnone
  have ha : a ∈ turns := hsub.subset List.mem_cons_self
  have hb : b ∈ turns := hsub.subset (List.mem_cons_of_mem _ List.mem_cons_self)
  have hless : turnText b < turnText a :=
    lt_of_le_of_ne (List.pairwise_iff_forall_sublist.mp hdescending hsub) (Ne.symm htext)
  obtain ⟨kept, dropped, hkeeps⟩ :=
    h.alone hcounted
      (total (turnTokens counter) (turns.filter (fun turn => turnText a ≤ turnText turn)))
  have hblocks := hkeeps.blocks_eq
  rw [selected_upTo hdescending, filter_isTurn_map] at hblocks
  have hlarge : ∀ k ∈ kept, turnText a ≤ turnText k := by
    intro k hk
    have hmem := List.mem_map_of_mem (f := recentTurnBlock counter) hk
    rw [← hblocks] at hmem
    obtain ⟨turn, hturn, heq⟩ := List.mem_map.mp hmem
    have hsame : turnText turn = turnText k := congrArg ContextBlock.content heq
    rw [← hsame]
    exact of_decide_eq_true (List.mem_filter.mp hturn).2
  have hbdropped : b ∈ dropped := by
    rcases List.mem_append.mp (hkeeps.perm.mem_iff.mpr hb) with hkept | hdropped
    · exact absurd (hlarge b hkept) (not_le.mpr hless)
    · exact hdropped
  have hakept : a ∈ kept := by
    rcases List.mem_append.mp (hkeeps.perm.mem_iff.mpr ha) with hkept | hdropped
    · exact hkept
    · -- as many are kept as have this text or a larger one
      exfalso
      have hlength := congrArg List.length hblocks
      rw [List.length_map, List.length_map, ← List.countP_eq_length_filter,
        ← hkeeps.perm.countP_eq, List.countP_append,
        List.countP_eq_length.mpr (fun k hk => decide_eq_true (hlarge k hk))] at hlength
      have hpos : 0 < dropped.countP (fun turn => decide (turnText a ≤ turnText turn)) :=
        List.countP_pos_iff.mpr ⟨a, hdropped, decide_eq_true (le_refl _)⟩
      omega
  exact absurd (hkeeps.newest a hakept b hbdropped hsize) (not_le.mpr holder)

/-- The turns of a chronological list are in order and the newest of them survive, whatever else the
context holds, exactly when they come largest first, or the counter refuses one and none is kept. -/
theorem keepsTurnOrder_iff
    (hchronological : turns.Pairwise (fun a b => a.createdAtUtc ≤ b.createdAtUtc)) :
    KeepsTurnOrder allocator counter turns ↔
      LargestFirst counter turns ∨ ¬ CountsTurns counter turns := by
  constructor
  · intro h
    by_cases hcounted : CountsTurns counter turns
    · exact .inl (h.largestFirst hcounted)
    · exact .inr hcounted
  · intro h
    by_cases hcounted : CountsTurns counter turns
    · exact keepsTurnOrder_of_largestFirst hcounted hchronological
        (h.resolve_right (not_not_intro hcounted))
    · exact keepsTurnOrder_of_refused hcounted

end

/-! ## A dialogue -/

/-- A question after a greeting. -/
def greetedTurns : List ConversationTurn := [
  { role := "user", content := "Hi", createdAtUtc := 0 },
  { role := "assistant", content := "Hello there.", createdAtUtc := 1 },
  { role := "user", content := "Which pump runs?", createdAtUtc := 2 }]

/-- A counter of characters, which counts every text. -/
def characters : TokenCounter := fun text => .ok text.length

/-- The answer of the assistant comes after both turns of the user. -/
theorem not_keepsTurnOrder : ¬ ∀ (allocator : TokenBudgetAllocator) (counter : TokenCounter)
    (turns : List ConversationTurn), turns.Pairwise (fun a b => a.createdAtUtc ≤ b.createdAtUtc) →
    KeepsTurnOrder allocator counter turns := by
  intro hall
  have hchronological : greetedTurns.Pairwise (fun a b => a.createdAtUtc ≤ b.createdAtUtc) := by
    decide
  have hcounted : CountsTurns characters greetedTurns := fun turn _ => ⟨_, rfl⟩
  have hdescending := (hall {} characters greetedTurns hchronological).descending hcounted
  revert hdescending
  decide

/-- The greeting and its answer alone are in order. -/
theorem keepsTurnOrder_greeting :
    KeepsTurnOrder {} characters (greetedTurns.take 2) := by
  have hchronological :
      (greetedTurns.take 2).Pairwise (fun a b => a.createdAtUtc ≤ b.createdAtUtc) := by
    decide
  refine (keepsTurnOrder_iff hchronological).mpr (.inl ?_)
  unfold LargestFirst
  decide

end HotAirBalloon.Context
