import HotAirBalloon.Context.TurnOrder

/-!
# Texts that the counter refuses

`tiktoken` refuses to encode a text with a special token in it. A turn with such a text fails the
provider of all turns, and such a block with no count fails the assembler itself. With no such text
every turn and every block that was returned reaches the context (`keepsAll_iff`).
-/

namespace HotAirBalloon.Context

open Python Memory Library TokenBudgetAllocator

/-! ## The counter -/

/-- An encoding of `tiktoken`: it encodes ordinary text and refuses any other. -/
structure TiktokenEncoding where
  specialTokens : List String
  encode : String → Except PyError (List Nat)
  encode_ordinary : ∀ text, (∀ special ∈ specialTokens, ¬ special.toList <:+: text.toList) →
    ∃ tokens, encode text = .ok tokens
  encode_special : ∀ text, ∀ special ∈ specialTokens, special.toList <:+: text.toList →
    ∃ message, encode text = .error ⟨"ValueError", message, true⟩

/-- `TiktokenCounter.count`. -/
def TiktokenCounter.count (encoding : TiktokenEncoding) : TokenCounter := fun text =>
  if text = "" then return 0
  else do
    let tokens ← encoding.encode text
    return tokens.length

/-- A text that is empty or has no special token in it. -/
def TiktokenEncoding.Ordinary (encoding : TiktokenEncoding) (text : String) : Prop :=
  text = "" ∨ ∀ special ∈ encoding.specialTokens, ¬ special.toList <:+: text.toList

/-- The count of a text, if it has one. -/
def TiktokenEncoding.tokens (encoding : TiktokenEncoding) : String → Int :=
  (TiktokenCounter.count encoding).tokens

/-! ## The context -/

/-- A block without its count. -/
def ContextBlock.uncounted (block : ContextBlock) : ContextBlock := { block with tokenCount := 0 }

/-- The block of a turn, without its count. -/
def turnBlock (turn : ConversationTurn) : ContextBlock where
  kind := .recentTurn
  content := turnText turn
  source := "recent_turns"

/-- What a block costs. -/
def TiktokenEncoding.cost (encoding : TiktokenEncoding) (block : ContextBlock) : Int :=
  blockTokens (countedBlock encoding.tokens block)

/-- With a budget for everything the context holds a block for every turn and every block that was
returned. -/
def KeepsAll (encoding : TiktokenEncoding) (allocator : TokenBudgetAllocator)
    (turns : List ConversationTurn)
    (before after : List (Except PyError (List ContextBlock))) : Prop :=
  ∀ totalBudget : Int,
    total encoding.cost (turns.map turnBlock) + total encoding.cost (returned (before ++ after)) ≤
      totalBudget →
    ∃ context,
      DefaultContextAssembler.assemble ⟨allocator, TiktokenCounter.count encoding, totalBudget⟩
        (before ++ RecentTurnsProvider.getBlocks (TiktokenCounter.count encoding) turns :: after) =
          .ok context ∧
      (turns.map turnBlock ++ (returned (before ++ after)).map ContextBlock.uncounted).Subperm
        (context.blocks.map ContextBlock.uncounted)

section

variable {encoding : TiktokenEncoding} {allocator : TokenBudgetAllocator}
  {turns : List ConversationTurn} {before after results : List (Except PyError (List ContextBlock))}
  {blocks : List ContextBlock} {totalBudget : Int}

/-! ## Counting -/

theorem count_ordinary {text : String} (h : encoding.Ordinary text) :
    TiktokenCounter.count encoding text = .ok (encoding.tokens text) := by
  have hcounts : ∃ n, TiktokenCounter.count encoding text = .ok n := by
    unfold TiktokenCounter.count
    by_cases hempty : text = ""
    · exact ⟨0, by rw [if_pos hempty]; rfl⟩
    · obtain ⟨tokens, htokens⟩ := encoding.encode_ordinary text (h.resolve_left hempty)
      exact ⟨tokens.length, by rw [if_neg hempty, htokens]; rfl⟩
  obtain ⟨n, hn⟩ := hcounts
  unfold TiktokenEncoding.tokens TokenCounter.tokens
  rw [hn]
  rfl

theorem count_special {text : String} (h : ¬ encoding.Ordinary text) :
    ∃ message, TiktokenCounter.count encoding text = .error ⟨"ValueError", message, true⟩ := by
  unfold TiktokenEncoding.Ordinary at h
  push Not at h
  obtain ⟨hsome, special, hspecial, hinfix⟩ := h
  obtain ⟨message, hmessage⟩ := encoding.encode_special text special hspecial hinfix
  refine ⟨message, ?_⟩
  unfold TiktokenCounter.count
  rw [if_neg hsome, hmessage]
  rfl

/-- Without special tokens the provider returns the blocks of the turns. -/
theorem getBlocks_ordinary (h : ∀ turn ∈ turns, encoding.Ordinary (turnText turn)) :
    RecentTurnsProvider.getBlocks (TiktokenCounter.count encoding) turns =
      .ok (turns.map (recentTurnBlock (TiktokenCounter.count encoding))) :=
  getBlocks_turns (fun turn hturn => ⟨_, count_ordinary (h turn hturn)⟩)

/-- One turn with a special token fails the provider of all turns. -/
theorem getBlocks_special {turn : ConversationTurn} (hturn : turn ∈ turns)
    (h : ¬ encoding.Ordinary (turnText turn)) : ∃ message,
    RecentTurnsProvider.getBlocks (TiktokenCounter.count encoding) turns =
      .error ⟨"ValueError", message, true⟩ := by
  cases hblocks : RecentTurnsProvider.getBlocks (TiktokenCounter.count encoding) turns with
  | ok blocks =>
    obtain ⟨block, -, hblock⟩ := exists_ok_of_mapM hblocks hturn
    obtain ⟨message, hmessage⟩ := count_special h
    unfold countedText at hblock
    rw [hmessage] at hblock
    cases hblock
  | error e =>
    obtain ⟨refused, -, hrefused⟩ := exists_of_mapM_error hblocks
    by_cases hordinary : encoding.Ordinary (turnText refused)
    · unfold countedText at hrefused
      rw [count_ordinary hordinary] at hrefused
      cases hrefused
    · obtain ⟨message, hmessage⟩ := count_special hordinary
      unfold countedText at hrefused
      rw [hmessage] at hrefused
      cases hrefused
      exact ⟨message, rfl⟩

/-! ## Assembling -/

/-- A block with no count needs one, so it must not have a special token. -/
def Countable (encoding : TiktokenEncoding) (block : ContextBlock) : Prop :=
  block.tokenCount = 0 → encoding.Ordinary block.content

theorem normalize_countable {block : ContextBlock} (h : Countable encoding block) :
    DefaultContextAssembler.normalize ⟨allocator, TiktokenCounter.count encoding,
      totalBudget⟩ block =
      .ok (countedBlock encoding.tokens block) :=
  normalize_eq_ok.mpr ⟨fun hzero => ⟨_, count_ordinary (h hzero)⟩, rfl⟩

theorem countable_of_normalize {block block' : ContextBlock}
    (h : DefaultContextAssembler.normalize ⟨allocator, TiktokenCounter.count encoding,
      totalBudget⟩ block = .ok block') : Countable encoding block := by
  intro hzero
  obtain ⟨n, hn⟩ := (normalize_eq_ok.mp h).1 hzero
  by_contra hspecial
  obtain ⟨message, hmessage⟩ := count_special hspecial
  dsimp only at hn
  rw [hmessage] at hn
  cases hn

/-- Countable blocks with room for all of them are all in the context. -/
theorem assemble_all (hcancelled : NotCancelled results)
    (hcountable : ∀ block ∈ returned results, Countable encoding block)
    (hbudget : total encoding.cost (returned results) ≤ totalBudget) :
    ∃ context,
      DefaultContextAssembler.assemble ⟨allocator, TiktokenCounter.count encoding, totalBudget⟩
        results = .ok context ∧
      (context.blocks.map ContextBlock.uncounted).Perm
        ((returned results).map ContextBlock.uncounted) := by
  have hfits :
      total blockTokens ((returned results).map (countedBlock encoding.tokens)) ≤ totalBudget := by
    unfold total
    rw [List.map_map]
    exact hbudget
  obtain ⟨context, hcontext, hperm⟩ := @assemble_of_le
    ⟨allocator, TiktokenCounter.count encoding, totalBudget⟩ results _ hcancelled
    (fun block hblock => normalize_countable (hcountable block hblock)) hfits
  refine ⟨context, hcontext, ?_⟩
  have huncounted := hperm.map ContextBlock.uncounted
  rw [List.map_map] at huncounted
  exact huncounted

/-- A context is of blocks that were returned, all of them countable. -/
theorem of_assemble_ok {context : AssembledContext} (hcancelled : NotCancelled results)
    (h : DefaultContextAssembler.assemble ⟨allocator, TiktokenCounter.count encoding,
      totalBudget⟩ results = .ok context) :
    context.blocks.length ≤ (returned results).length ∧
      ∀ block ∈ returned results, Countable encoding block := by
  obtain ⟨aggregated, normalized, haggregated, hnormalized, rfl⟩ := assemble_ok h
  rw [aggregate_returned hcancelled] at haggregated
  cases haggregated
  constructor
  · rw [length_eq_of_mapM hnormalized]
    have hlength := (@selected_append_leftOver allocator normalized totalBudget).length_eq
    rw [List.length_append] at hlength
    show (allocator.allocate normalized totalBudget).selected.length ≤ _
    omega
  · intro block hblock
    obtain ⟨block', -, hblock'⟩ := exists_ok_of_mapM hnormalized hblock
    exact countable_of_normalize hblock'

/-! ## Nothing is lost -/

theorem keepsAll_of_ordinary (hcancelled : NotCancelled (before ++ after))
    (hturns : ∀ turn ∈ turns, encoding.Ordinary (turnText turn))
    (hothers : ∀ block ∈ returned (before ++ after), Countable encoding block) :
    KeepsAll encoding allocator turns before after := by
  intro totalBudget hbudget
  rw [getBlocks_ordinary hturns]
  have hreturned :
      (returned (before ++
        .ok (turns.map (recentTurnBlock (TiktokenCounter.count encoding))) :: after)).Perm
      (turns.map (recentTurnBlock (TiktokenCounter.count encoding)) ++
          returned (before ++ after)) := by
    rw [returned_append, returned_append]
    exact List.perm_append_comm_assoc _ _ _
  have hcost : total encoding.cost (turns.map (recentTurnBlock (TiktokenCounter.count encoding))) =
      total encoding.cost (turns.map turnBlock) := by
    unfold total
    rw [List.map_map, List.map_map]
    congr 1
    apply List.map_congr_left
    intro turn _
    show blockTokens
      (countedBlock (TiktokenCounter.count encoding).tokens (recentTurnBlock _ turn)) =
      blockTokens (countedBlock _ (turnBlock turn))
    rw [countedBlock_recentTurnBlock]
    rfl
  have hcountable : ∀ block ∈ returned
      (before ++ .ok (turns.map (recentTurnBlock (TiktokenCounter.count encoding))) :: after),
      Countable encoding block := by
    intro block hblock
    rcases List.mem_append.mp (hreturned.subset hblock) with hturn | hother
    · obtain ⟨turn, hmem, rfl⟩ := List.mem_map.mp hturn
      exact fun _ => hturns turn hmem
    · exact hothers block hother
  rw [← hcost, ← total_append, ← total_perm hreturned] at hbudget
  obtain ⟨context, hcontext, hperm⟩ :=
    assemble_all (hcancelled.insert (fun e he => by cases he)) hcountable hbudget
  refine ⟨context, hcontext, ?_⟩
  have huncounted := hperm.trans (hreturned.map ContextBlock.uncounted)
  rw [List.map_append, List.map_map] at huncounted
  exact huncounted.symm.subperm

theorem KeepsAll.ordinary (hcancelled : NotCancelled (before ++ after))
    (h : KeepsAll encoding allocator turns before after) :
    ∀ turn ∈ turns, encoding.Ordinary (turnText turn) := by
  intro turn hturn
  by_contra hspecial
  obtain ⟨message, hmessage⟩ := getBlocks_special hturn hspecial
  obtain ⟨context, hcontext, hsubperm⟩ := h _ (le_refl _)
  rw [hmessage] at hcontext
  have hlength := (of_assemble_ok (hcancelled.insert (fun e he => by cases he; simp)) hcontext).1
  have hall := hsubperm.length_le
  rw [returned_append] at hlength
  have hreturned : returned (.error ⟨"ValueError", message, true⟩ :: after) = returned after := rfl
  rw [hreturned, ← returned_append] at hlength
  rw [List.length_append, List.length_map, List.length_map, List.length_map] at hall
  have hpos : 0 < turns.length := List.length_pos_of_mem hturn
  omega

theorem KeepsAll.countable (hcancelled : NotCancelled (before ++ after))
    (h : KeepsAll encoding allocator turns before after) :
    ∀ block ∈ returned (before ++ after), Countable encoding block := by
  intro block hblock
  have hturns := h.ordinary hcancelled
  obtain ⟨context, hcontext, -⟩ := h _ (le_refl _)
  rw [getBlocks_ordinary hturns] at hcontext
  refine (of_assemble_ok (hcancelled.insert (fun e he => by cases he)) hcontext).2 block ?_
  rw [returned_append] at hblock ⊢
  rcases List.mem_append.mp hblock with hbefore | hafter
  · exact List.mem_append_left _ hbefore
  · exact List.mem_append_right _ (List.mem_append_right _ hafter)

/-- Every turn and every block that was returned reaches the context, with a budget for them,
exactly when no turn has a special token in its text, and no block without a count. -/
theorem keepsAll_iff (hcancelled : NotCancelled (before ++ after)) :
    KeepsAll encoding allocator turns before after ↔
      (∀ turn ∈ turns, encoding.Ordinary (turnText turn)) ∧
      ∀ block ∈ returned (before ++ after), block.tokenCount = 0 →
        encoding.Ordinary block.content :=
  ⟨fun h => ⟨h.ordinary hcancelled, h.countable hcancelled⟩,
    fun h => keepsAll_of_ordinary hcancelled h.1 h.2⟩

end

/-! ## One special token -/

/-- An encoding with a token for each character, and one special token. -/
def endOfTextEncoding : TiktokenEncoding where
  specialTokens := ["<|endoftext|>"]
  encode text :=
    if "<|endoftext|>".toList <:+: text.toList then
      .error ⟨"ValueError", "Encountered text corresponding to disallowed special token", true⟩
    else .ok (text.toList.map Char.toNat)
  encode_ordinary := by
    intro text h
    rw [if_neg (h _ List.mem_cons_self)]
    exact ⟨_, rfl⟩
  encode_special := by
    intro text special hspecial hinfix
    cases List.mem_singleton.mp hspecial
    rw [if_pos hinfix]
    exact ⟨_, rfl⟩

/-- A user asks for the token, and is answered. -/
def endOfTextTurns : List ConversationTurn := [
  { role := "user", content := "What is <|endoftext|>?", createdAtUtc := 0 },
  { role := "assistant", content := "A separator.", createdAtUtc := 1 }]

theorem not_keepsAll : ¬ ∀ (encoding : TiktokenEncoding) (allocator : TokenBudgetAllocator)
    (turns : List ConversationTurn) (before after : List (Except PyError (List ContextBlock))),
    NotCancelled (before ++ after) → KeepsAll encoding allocator turns before after := by
  intro hall
  have hcancelled : NotCancelled ([] ++ []) := fun e he => by cases he
  have hkeeps := hall endOfTextEncoding {} endOfTextTurns [] [] hcancelled
  have hordinary := hkeeps.ordinary hcancelled _ List.mem_cons_self
  revert hordinary
  unfold TiktokenEncoding.Ordinary
  decide

/-- The answer alone is kept, beside a provider that fails and one that returns a directive. -/
theorem keepsAll_answer : KeepsAll endOfTextEncoding {} (endOfTextTurns.drop 1)
    [.error ⟨"RuntimeError", "boom", true⟩]
    [.ok [{ kind := .systemDirective, content := "You are helpful.", source := "system" }]] := by
  refine (keepsAll_iff ?_).mpr ⟨?_, ?_⟩
  · intro e he
    rcases List.mem_cons.mp he with heq | hrest
    · cases heq
      simp
    · cases List.mem_singleton.mp hrest
  · intro turn hturn
    cases List.mem_singleton.mp hturn
    unfold TiktokenEncoding.Ordinary
    decide
  · intro block hblock _
    cases List.mem_singleton.mp hblock
    unfold TiktokenEncoding.Ordinary
    decide

end HotAirBalloon.Context
