import HotAirBalloon.Context.Budget
import HotAirBalloon.Library.Traverse

/-!
# The assembler over any providers

What `DefaultContextAssembler` makes of whatever its providers return or raise, and the text that
`render` makes of a context.
-/

namespace HotAirBalloon.Context

open Python Library TokenBudgetAllocator

/-! ## The text of a context -/

/-- `kind.value`. -/
def ContextKind.value : ContextKind → String
  | systemDirective => "system_directive"
  | conversationSummary => "conversation_summary"
  | recentTurn => "recent_turn"
  | retrievedDocument => "retrieved_document"
  | userMemory => "user_memory"
  | toolResult => "tool_result"

/-- `str.title()` on ASCII text: a letter after a letter is lower case, another is upper case. -/
def asciiTitle (afterLetter : Bool) : List Char → List Char
  | [] => []
  | c :: rest => (if afterLetter then asciiLower c else asciiUpper c) :: asciiTitle c.isAlpha rest

/-- `kind.value.replace("_", " ").title()`. -/
def ContextKind.title (kind : ContextKind) : String :=
  String.ofList (asciiTitle false (kind.value.toList.map fun c => if c = '_' then ' ' else c))

/-- What `render` puts before the content of a block. -/
def ContextBlock.heading (block : ContextBlock) : String := "[" ++ block.kind.title ++ "] "

def ContextBlock.render (block : ContextBlock) : String := block.heading ++ block.content

def AssembledContext.render (context : AssembledContext) : String :=
  if context.blocks.isEmpty then "" else "\n\n".intercalate (context.blocks.map ContextBlock.render)

example : ContextKind.title .recentTurn = "Recent Turn" := by decide

/-! ## Runs of the assembler -/

/-- What the providers that did not raise have returned. -/
def returned (results : List (Except PyError (List ContextBlock))) : List ContextBlock :=
  results.flatMap fun result => result.toOption.getD []

/-- No provider was cancelled. -/
def NotCancelled (results : List (Except PyError (List ContextBlock))) : Prop :=
  ∀ e, .error e ∈ results → e.kind ≠ "CancelledError"

section

variable {assembler : DefaultContextAssembler} {blocks : List ContextBlock}
  {before after results : List (Except PyError (List ContextBlock))}

theorem mem_aggregate {results : List (Except PyError (List ContextBlock))}
    (h : DefaultContextAssembler.aggregate results = .ok blocks) {block : ContextBlock}
    (hblock : block ∈ blocks) : ∃ found, .ok found ∈ results ∧ block ∈ found := by
  induction results generalizing blocks with
  | nil =>
    cases h
    cases hblock
  | cons result rest ih =>
    cases result with
    | error e =>
      unfold DefaultContextAssembler.aggregate at h
      split at h
      · cases h
      · obtain ⟨found, hfound, hmem⟩ := ih h hblock
        exact ⟨found, List.mem_cons_of_mem _ hfound, hmem⟩
    | ok first =>
      unfold DefaultContextAssembler.aggregate at h
      cases hrest : DefaultContextAssembler.aggregate rest with
      | error e =>
        rw [hrest] at h
        cases h
      | ok more =>
        rw [hrest] at h
        cases h
        rcases List.mem_append.mp hblock with hfirst | hmore
        · exact ⟨first, List.mem_cons_self, hfirst⟩
        · obtain ⟨found, hfound, hmem⟩ := ih hrest hmore
          exact ⟨found, List.mem_cons_of_mem _ hfound, hmem⟩

theorem aggregate_returned (h : NotCancelled results) :
    DefaultContextAssembler.aggregate results = .ok (returned results) := by
  induction results with
  | nil => rfl
  | cons result rest ih =>
    have hrest := ih (fun e he => h e (List.mem_cons_of_mem _ he))
    cases result with
    | error e =>
      rw [DefaultContextAssembler.aggregate, if_neg (h e List.mem_cons_self), hrest]
      rfl
    | ok found =>
      rw [DefaultContextAssembler.aggregate, hrest]
      rfl

/-- A cancelled provider cancels the assembly. -/
theorem aggregate_cancelled {e : PyError} (he : .error e ∈ results)
    (hkind : e.kind = "CancelledError") :
    DefaultContextAssembler.aggregate results ≠ .ok blocks := by
  induction results generalizing blocks with
  | nil => cases he
  | cons result rest ih =>
    intro h
    cases result with
    | error e' =>
      unfold DefaultContextAssembler.aggregate at h
      split at h
      · cases h
      · rename_i hother
        rcases List.mem_cons.mp he with heq | hrest
        · cases heq
          exact hother hkind
        · exact ih hrest h
    | ok first =>
      unfold DefaultContextAssembler.aggregate at h
      cases hrest : DefaultContextAssembler.aggregate rest with
      | error e' =>
        rw [hrest] at h
        cases h
      | ok more =>
        rcases List.mem_cons.mp he with heq | hmem
        · cases heq
        · exact ih hmem hrest

theorem mem_returned {block : ContextBlock} (h : block ∈ returned results) :
    ∃ found, .ok found ∈ results ∧ block ∈ found := by
  obtain ⟨result, hresult, hblock⟩ := List.mem_flatMap.mp h
  cases result with
  | error e => cases hblock
  | ok found => exact ⟨found, hresult, hblock⟩

theorem returned_append : returned (before ++ after) = returned before ++ returned after := by
  unfold returned
  rw [List.flatMap_append]

theorem NotCancelled.insert (h : NotCancelled (before ++ after))
    {result : Except PyError (List ContextBlock)}
    (hresult : ∀ e, result = .error e → e.kind ≠ "CancelledError") :
    NotCancelled (before ++ result :: after) := by
  intro e he
  rcases List.mem_append.mp he with hbefore | hrest
  · exact h e (List.mem_append_left _ hbefore)
  · rcases List.mem_cons.mp hrest with heq | hafter
    · exact hresult e heq.symm
    · exact h e (List.mem_append_right _ hafter)

/-- What stands around the blocks of one provider. -/
theorem aggregate_middle {before after : List (Except PyError (List ContextBlock))}
    {all : List ContextBlock}
    (h : DefaultContextAssembler.aggregate (before ++ .ok blocks :: after) = .ok all) :
    ∃ first rest, DefaultContextAssembler.aggregate before = .ok first ∧
      DefaultContextAssembler.aggregate after = .ok rest ∧ all = first ++ (blocks ++ rest) := by
  induction before generalizing all with
  | nil =>
    rw [List.nil_append, DefaultContextAssembler.aggregate] at h
    cases hafter : DefaultContextAssembler.aggregate after with
    | error e =>
      rw [hafter] at h
      cases h
    | ok rest =>
      rw [hafter] at h
      cases h
      exact ⟨[], rest, rfl, rfl, rfl⟩
  | cons result others ih =>
    cases result with
    | error e =>
      rw [List.cons_append, DefaultContextAssembler.aggregate] at h
      rw [DefaultContextAssembler.aggregate]
      split at h
      · cases h
      · rename_i hother
        rw [if_neg hother]
        exact ih h
    | ok found =>
      rw [List.cons_append, DefaultContextAssembler.aggregate] at h
      cases hothers : DefaultContextAssembler.aggregate (others ++ .ok blocks :: after) with
      | error e =>
        rw [hothers] at h
        cases h
      | ok more =>
        rw [hothers] at h
        cases h
        obtain ⟨first, rest, hfirst, hrest, rfl⟩ := ih hothers
        refine ⟨found ++ first, rest, ?_, hrest, (List.append_assoc _ _ _).symm⟩
        rw [DefaultContextAssembler.aggregate, hfirst]
        rfl

/-- The count of a text, if it has one. -/
def TokenCounter.tokens (counter : TokenCounter) (text : String) : Int :=
  (counter text).toOption.getD 0

/-- A block with its tokens counted, if its text has a count. -/
def countedBlock (count : String → Int) (block : ContextBlock) : ContextBlock :=
  { block with tokenCount := if block.tokenCount = 0 then count block.content
    else block.tokenCount }

/-- A block is normalized when it has a count, or its text has one. -/
theorem normalize_eq_ok {block block' : ContextBlock} : assembler.normalize block = .ok block' ↔
    (block.tokenCount = 0 → ∃ n, assembler.tokenCounter block.content = .ok n) ∧
      block' = countedBlock (TokenCounter.tokens assembler.tokenCounter) block := by
  unfold DefaultContextAssembler.normalize countedBlock TokenCounter.tokens
  by_cases hzero : block.tokenCount = 0
  · rw [if_pos hzero, if_pos hzero]
    cases hcount : assembler.tokenCounter block.content with
    | error e =>
      constructor
      · intro h
        cases h
      · rintro ⟨hcounted, -⟩
        obtain ⟨n, hn⟩ := hcounted hzero
        cases hn
    | ok n =>
      constructor
      · intro h
        cases h
        exact ⟨fun _ => ⟨n, rfl⟩, rfl⟩
      · rintro ⟨-, rfl⟩
        rfl
  · rw [if_neg hzero, if_neg hzero]
    constructor
    · intro h
      cases h
      exact ⟨fun heq => absurd heq hzero, rfl⟩
    · rintro ⟨-, rfl⟩
      rfl

theorem mapM_normalize {normalized : List ContextBlock}
    (h : blocks.mapM assembler.normalize = .ok normalized) :
    normalized = blocks.map (countedBlock (TokenCounter.tokens assembler.tokenCounter)) :=
  eq_map_of_mapM h (fun _ _ _ hblock => (normalize_eq_ok.mp hblock).2)

theorem assemble_ok {results : List (Except PyError (List ContextBlock))}
    {context : AssembledContext} (h : assembler.assemble results = .ok context) :
    ∃ aggregated normalized, DefaultContextAssembler.aggregate results = .ok aggregated ∧
      aggregated.mapM assembler.normalize = .ok normalized ∧ context = {
        blocks := (assembler.allocator.allocate normalized assembler.totalBudget).selected
        totalTokens := ((assembler.allocator.allocate normalized assembler.totalBudget).selected.map
          (·.tokenCount)).sum
        droppedBlockCount :=
          (assembler.allocator.allocate normalized assembler.totalBudget).dropped } := by
  unfold DefaultContextAssembler.assemble at h
  cases haggregated : DefaultContextAssembler.aggregate results with
  | error e =>
    rw [haggregated] at h
    cases h
  | ok aggregated =>
    rw [haggregated] at h
    cases hnormalized : aggregated.mapM assembler.normalize with
    | error e =>
      simp only [bind, Except.bind, hnormalized] at h
      cases h
    | ok normalized =>
      simp only [bind, Except.bind, hnormalized] at h
      cases h
      exact ⟨aggregated, normalized, rfl, hnormalized, rfl⟩

/-- A block of a context is what a provider returned, counted. -/
theorem exists_of_mem_assemble {context : AssembledContext}
    (h : assembler.assemble results = .ok context) {block : ContextBlock}
    (hblock : block ∈ context.blocks) : ∃ found, .ok found ∈ results ∧ ∃ given ∈ found,
      assembler.normalize given = .ok block := by
  obtain ⟨aggregated, normalized, haggregated, hnormalized, rfl⟩ := assemble_ok h
  obtain ⟨given, hgiven, hnormalize⟩ := exists_of_mem_mapM hnormalized (mem_of_mem_allocate hblock)
  obtain ⟨found, hfound, hmem⟩ := mem_aggregate haggregated hgiven
  exact ⟨found, hfound, given, hmem, hnormalize⟩

/-- Blocks that can be counted are all in the context, when there is room for all of them. -/
theorem assemble_of_le {counted : ContextBlock → ContextBlock} (hcancelled : NotCancelled results)
    (hnormalize : ∀ block ∈ returned results, assembler.normalize block = .ok (counted block))
    (hbudget : total blockTokens ((returned results).map counted) ≤ assembler.totalBudget) :
    ∃ context, assembler.assemble results = .ok context ∧
      context.blocks.Perm ((returned results).map counted) := by
  have hnormalized : (returned results).mapM assembler.normalize =
      .ok ((returned results).map counted) := mapM_eq_ok_map hnormalize
  unfold DefaultContextAssembler.assemble
  rw [aggregate_returned hcancelled]
  simp only [bind, Except.bind, hnormalized]
  exact ⟨_, rfl, selected_perm_of_le hbudget⟩

/-- What a counter makes of a text. -/
theorem countedText_eq_ok {counter : TokenCounter} {kind : ContextKind} {source content : String}
    {block : ContextBlock} : countedText counter kind source content = .ok block ↔
      ∃ n, counter content = .ok n ∧ block = ⟨kind, content, source, n⟩ := by
  unfold countedText
  cases counter content with
  | error e =>
    constructor
    · intro h
      cases h
    · rintro ⟨n, hn, -⟩
      cases hn
  | ok n =>
    constructor
    · intro h
      cases h
      exact ⟨n, rfl, rfl⟩
    · rintro ⟨m, hm, rfl⟩
      cases hm
      rfl

/-- A block of a provider with the assembler's counter stays as it is. -/
theorem normalize_countedText {kind : ContextKind} {source content : String} {block : ContextBlock}
    (h : countedText assembler.tokenCounter kind source content = .ok block) :
    assembler.normalize block = .ok block := by
  obtain ⟨n, hn, rfl⟩ := countedText_eq_ok.mp h
  refine normalize_eq_ok.mpr ⟨fun _ => ⟨n, hn⟩, ?_⟩
  unfold countedBlock TokenCounter.tokens
  dsimp only
  rw [hn]
  by_cases hzero : n = 0
  · rw [if_pos hzero]
    rfl
  · rw [if_neg hzero]

/-- The counts that the context adds up are not more than the effective ones. -/
theorem totalTokens_le {results : List (Except PyError (List ContextBlock))}
    {context : AssembledContext} (h : assembler.assemble results = .ok context) :
    context.totalTokens ≤ max assembler.totalBudget 0 := by
  obtain ⟨aggregated, normalized, -, -, rfl⟩ := assemble_ok h
  have hsum : ∀ l : List ContextBlock, (l.map (·.tokenCount)).sum ≤ total blockTokens l := by
    intro l
    exact List.sum_le_sum (fun block _ => tokenCount_le_blockTokens block)
  exact (hsum _).trans total_selected_le

end

/-! ## What the allocator promises -/

/-- A selection within the budget, and the blocks it leaves out, none of which would fit. -/
structure Maximal (totalBudget : Int) (blocks : List ContextBlock) (a : Allocation)
    (left : List ContextBlock) : Prop where
  perm : (a.selected ++ left).Perm blocks
  within : total blockTokens a.selected ≤ max totalBudget 0
  dropped : a.dropped = left.length
  maximal : ∀ block ∈ left, totalBudget - total blockTokens a.selected < blockTokens block

/-- An allocation is within the budget and maximal; what it selects does not depend on the order of
the blocks, when blocks with one key have one count; and the assembler's total is within the
budget. -/
theorem allocate_maximal (allocator : TokenBudgetAllocator) (blocks : List ContextBlock)
    (totalBudget : Int) :
    (∃ left, Maximal totalBudget blocks (allocator.allocate blocks totalBudget) left) ∧
    (∀ blocks', blocks'.Perm blocks → allocator.CountedByKey blocks →
      (allocator.allocate blocks' totalBudget).selected.map allocator.key =
        (allocator.allocate blocks totalBudget).selected.map allocator.key) ∧
    ∀ (tokenCounter : String → Except PyError Int)
      (results : List (Except PyError (List ContextBlock))) (context : AssembledContext),
      DefaultContextAssembler.assemble ⟨allocator, tokenCounter, totalBudget⟩ results =
        .ok context →
        context.totalTokens ≤ max totalBudget 0 := by
  refine ⟨⟨_, selected_append_leftOver, total_selected_le, by rw [allocate_eq], ?_⟩, ?_, ?_⟩
  · intro block hblock
    have hbudget := lt_of_mem_leftOver blockTokens_nonneg hblock
    rw [selected_eq]
    omega
  · exact fun blocks' hperm hcounted => map_key_selected hperm hcounted
  · exact fun tokenCounter results context h => totalTokens_le h

end HotAirBalloon.Context
