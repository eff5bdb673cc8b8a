import HotAirBalloon.Context.Assembler

/-!
# The rendered context and the budget

The budget is one of contents: the providers count the text of a block, and `render` adds a title to
each and a blank line between them. So the text can count more than the budget
(`not_renderedWithin`), by no more than its titles and separators (`rendered_within`).
-/

namespace HotAirBalloon.Context

open Python Library TokenBudgetAllocator

/-! ## Counters -/

/-- A text of ASCII letters and brackets counts at least one for each of its words. -/
def CountsWords (tokenCounter : TokenCounter) : Prop :=
  ∀ text n, tokenCounter text = .ok n →
    (∀ word ∈ splitWords text, ∀ c ∈ word.toList, c.isAlpha = true ∨ c = '[' ∨ c = ']') →
    (splitWords text).length ≤ n

/-- `len(text.split())`. -/
def wordCounter : TokenCounter := fun text => .ok (splitWords text).length

theorem countsWords_wordCounter : CountsWords wordCounter := by
  intro text n h _
  cases h
  exact le_refl _

/-- What a counter finds in the titles and separators of some blocks. -/
def overhead (count : String → Int) (blocks : List ContextBlock) : Int :=
  total (fun block => count block.heading) blocks + ((blocks.length - 1 : Nat) : Int) * count "\n\n"

/-- A joined text that has a count counts at most as much as its parts, which have one too. -/
structure Subadditive (tokenCounter : TokenCounter) : Prop where
  empty : tokenCounter "" = .ok 0
  append : ∀ a b n, tokenCounter (a ++ b) = .ok n →
    ∃ m k, tokenCounter a = .ok m ∧ tokenCounter b = .ok k ∧ n ≤ m + k

/-- The providers have counted their blocks with the counter, or have left them uncounted. -/
def CountedBy (tokenCounter : TokenCounter) (results : List (Except PyError (List ContextBlock))) :
    Prop :=
  ∀ blocks, .ok blocks ∈ results → ∀ block ∈ blocks,
    block.tokenCount = 0 ∨ tokenCounter block.content = .ok block.tokenCount

/-! ## The text -/

section

variable {assembler : DefaultContextAssembler} {counter : TokenCounter} {blocks : List ContextBlock}

theorem tokens_eq {text : String} {n : Int} (h : counter text = .ok n) :
    counter.tokens text = n := by
  unfold TokenCounter.tokens
  rw [h]
  rfl

/-- A block that was counted with the counter counts its content effectively at least so. -/
theorem tokens_content_le {block block' : ContextBlock}
    (hcounted : block.tokenCount = 0 ∨
      assembler.tokenCounter block.content = .ok block.tokenCount)
    (h : assembler.normalize block = .ok block') :
    assembler.tokenCounter.tokens block'.content ≤ blockTokens block' := by
  obtain ⟨-, rfl⟩ := normalize_eq_ok.mp h
  refine le_trans ?_ (tokenCount_le_blockTokens _)
  unfold countedBlock
  dsimp only
  by_cases hzero : block.tokenCount = 0
  · rw [if_pos hzero]
  · rw [if_neg hzero, tokens_eq (hcounted.resolve_left hzero)]

/-- The parts of a joined text have counts, which it does not exceed by more than its separators. -/
theorem count_intercalate_le (hcounter : Subadditive counter) {separator : String}
    {texts : List String} {n : Int} (h : counter (separator.intercalate texts) = .ok n) :
    (∀ text ∈ texts, ∃ m, counter text = .ok m) ∧
      n ≤ total counter.tokens texts +
        ((texts.length - 1 : Nat) : Int) * counter.tokens separator := by
  induction texts generalizing n with
  | nil =>
    rw [String.intercalate_nil, hcounter.empty] at h
    cases h
    simp
  | cons text rest ih =>
    cases rest with
    | nil =>
      rw [String.intercalate_singleton] at h
      refine ⟨?_, ?_⟩
      · intro other hother
        obtain rfl := List.mem_singleton.mp hother
        exact ⟨n, h⟩
      · rw [total_cons, tokens_eq h]
        simp
    | cons next rest =>
      rw [String.intercalate_cons_cons] at h
      obtain ⟨first, others, hfirst, hothers, hle⟩ := hcounter.append _ _ _ h
      obtain ⟨own, between, hown, hbetween, hle'⟩ := hcounter.append _ _ _ hfirst
      obtain ⟨hcounted, hrest⟩ := ih hothers
      refine ⟨List.forall_mem_cons.mpr ⟨⟨own, hown⟩, hcounted⟩, ?_⟩
      have hlength : (((text :: next :: rest).length - 1 : Nat) : Int) =
          (((next :: rest).length - 1 : Nat) : Int) + 1 := by
        simp
      rw [total_cons, hlength, add_mul, one_mul, tokens_eq hown, tokens_eq hbetween]
      rw [tokens_eq hbetween] at hrest
      omega

theorem total_map {α β : Type} {cost : β → Int} {f : α → β} (items : List α) :
    total cost (items.map f) = total (fun a => cost (f a)) items := by
  unfold total
  rw [List.map_map]
  rfl

/-- The text of a context counts at most the contents, the titles and the separators. -/
theorem count_render_le {context : AssembledContext} (hcounter : Subadditive counter)
    (hcontents : ∀ block ∈ context.blocks, counter.tokens block.content ≤ blockTokens block)
    {n : Int} (h : counter context.render = .ok n) :
    n ≤ total blockTokens context.blocks + overhead counter.tokens context.blocks := by
  have hrender : context.render = "\n\n".intercalate (context.blocks.map ContextBlock.render) := by
    unfold AssembledContext.render
    split
    · rename_i hnone
      rw [List.isEmpty_iff.mp hnone]
      rfl
    · rfl
  rw [hrender] at h
  obtain ⟨hcounted, hjoined⟩ := count_intercalate_le hcounter h
  have hblock : ∀ block ∈ context.blocks,
      counter.tokens block.render ≤ blockTokens block + counter.tokens block.heading := by
    intro block hmem
    obtain ⟨own, hown⟩ := hcounted _ (List.mem_map_of_mem hmem)
    obtain ⟨heading, content, hheading, hcontent, hle⟩ := hcounter.append _ _ _ hown
    have hwithin := hcontents block hmem
    rw [tokens_eq hcontent] at hwithin
    rw [tokens_eq hown, tokens_eq hheading]
    omega
  have hblocks : total (fun block => counter.tokens block.render) context.blocks ≤
      total blockTokens context.blocks +
        total (fun block => counter.tokens block.heading) context.blocks := by
    have hsum := List.sum_le_sum hblock
    rw [List.sum_map_add] at hsum
    exact hsum
  rw [List.length_map, total_map] at hjoined
  unfold overhead
  omega

/-- Every block costs something. -/
theorem length_le_total : (blocks.length : Int) ≤ total blockTokens blocks := by
  induction blocks with
  | nil => simp
  | cons block rest ih =>
    have := blockTokens_pos block
    rw [total_cons, List.length_cons]
    push_cast
    omega

/-- The contents of a context fit the budget. Its text, when it has a count, counts at most the
titles and the separators more, under a counter that counts a joined text at most as its parts. -/
theorem rendered_within {results : List (Except PyError (List ContextBlock))}
    {context : AssembledContext} (h : assembler.assemble results = .ok context) :
    total blockTokens context.blocks ≤ max assembler.totalBudget 0 ∧
    (context.blocks.length : Int) ≤ max assembler.totalBudget 0 ∧
    (Subadditive assembler.tokenCounter → CountedBy assembler.tokenCounter results →
      ∀ n, assembler.tokenCounter context.render = .ok n →
        n ≤ max assembler.totalBudget 0 +
          overhead assembler.tokenCounter.tokens context.blocks) := by
  obtain ⟨aggregated, normalized, haggregated, hnormalized, rfl⟩ := assemble_ok h
  have hwithin : total blockTokens (assembler.allocator.allocate normalized
      assembler.totalBudget).selected ≤ max assembler.totalBudget 0 := total_selected_le
  refine ⟨hwithin, length_le_total.trans hwithin, ?_⟩
  intro hcounter hcounted n hn
  have hcontents : ∀ block ∈ (assembler.allocator.allocate normalized
      assembler.totalBudget).selected,
        assembler.tokenCounter.tokens block.content ≤ blockTokens block := by
    intro block hblock
    obtain ⟨given, hgiven, hnormalize⟩ :=
      exists_of_mem_mapM hnormalized (mem_of_mem_allocate hblock)
    obtain ⟨found, hfound, hmem⟩ := mem_aggregate haggregated hgiven
    exact tokens_content_le (hcounted found hfound given hmem) hnormalize
  refine (count_render_le hcounter hcontents hn).trans ?_
  exact Int.add_le_add_right hwithin _

end

/-! ## One word -/

/-- An assembler that counts words, for one token. -/
def oneWordAssembler : DefaultContextAssembler where
  tokenCounter := wordCounter
  totalBudget := 1

def oneWordResults : List (Except PyError (List ContextBlock)) :=
  [.ok [{ kind := .systemDirective, content := "hello", source := "system" }]]

/-- A word fits, and its text counts three words. -/
theorem oneWord_renders : (oneWordAssembler.assemble oneWordResults).toOption.any (fun context =>
    context.render = "[System Directive] hello" && (splitWords context.render).length = 3) =
      true := by
  decide +kernel

theorem not_renderedWithin : ¬ ∀ (assembler : DefaultContextAssembler)
    (results : List (Except PyError (List ContextBlock))) (context : AssembledContext) (n : Int),
    CountsWords assembler.tokenCounter → assembler.assemble results = .ok context →
    assembler.tokenCounter context.render = .ok n → n ≤ max assembler.totalBudget 0 := by
  intro hall
  have hrenders := oneWord_renders
  cases hassemble : oneWordAssembler.assemble oneWordResults with
  | error e =>
    rw [hassemble] at hrenders
    cases hrenders
  | ok context =>
    rw [hassemble] at hrenders
    have hwords : (splitWords context.render).length = 3 :=
      of_decide_eq_true (Bool.and_eq_true_iff.mp hrenders).2
    have hwithin := hall oneWordAssembler oneWordResults context 3 countsWords_wordCounter hassemble
      (congrArg (fun n : Nat => (.ok (n : Int) : Except PyError Int)) hwords)
    revert hwithin
    decide

/-- An assembler that counts characters. -/
def characterAssembler : DefaultContextAssembler where
  tokenCounter text := .ok text.length
  totalBudget := 5

theorem subadditive_characters : Subadditive characterAssembler.tokenCounter := by
  refine ⟨rfl, ?_⟩
  intro a b n h
  cases h
  refine ⟨_, _, rfl, rfl, ?_⟩
  rw [String.length_append]
  push_cast
  exact le_refl _

theorem rendered_within_characters : ∃ context,
    characterAssembler.assemble oneWordResults = .ok context ∧
    (context.render.length : Int) ≤
      5 + overhead characterAssembler.tokenCounter.tokens context.blocks := by
  have hrun : (characterAssembler.assemble oneWordResults).toOption.isSome = true := by decide
  cases hassemble : characterAssembler.assemble oneWordResults with
  | error e =>
    rw [hassemble] at hrun
    cases hrun
  | ok context =>
    refine ⟨context, rfl, ?_⟩
    refine (rendered_within hassemble).2.2 subadditive_characters ?_ _ rfl
    intro blocks hblocks block hblock
    cases List.mem_singleton.mp hblocks
    cases List.mem_singleton.mp hblock
    exact Or.inl rfl

end HotAirBalloon.Context
