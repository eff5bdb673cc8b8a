import HotAirBalloon.Context.Assembler
import HotAirBalloon.Library.StableSort

/-!
# The scope of recall

Which rows the two recall paths may show to an actor. Both select by owner, kind and deletion; the
permissions that a summary requires are not compared with those of the actor, and neither path looks
at the expiry of a row. So recall is in scope exactly where the rows that are selected have not
lapsed, or where the counter refuses one of them, for then none is shown: `recallScoped_iff`.
-/

namespace HotAirBalloon.Context

open Python Library Memory User

/-! ## Scope -/

/-- The row has not expired. -/
def isCurrent (now : DateTime) (row : AssistantMemoryRecord) : Bool := row.expiresAt.all (now ≤ ·)

/-- A user memory that an actor may be shown. -/
structure ScopedMemory (ctx : AuthorizationContext) (now : DateTime) (row : AssistantMemoryRecord) :
    Prop where
  owned : row.ownerUserId = some ctx.userId
  permitted : permitted ctx row = true
  live : isLive row = true
  current : isCurrent now row = true

/-- A document chunk that an actor may be shown. -/
structure ScopedChunk (ctx : AuthorizationContext) (now : DateTime) (row : AssistantMemoryRecord) :
    Prop where
  readable : ctx.can .documentsRead row.siteCode = true
  permitted : permitted ctx row = true
  live : isLive row = true
  current : isCurrent now row = true

section

variable {Vector : Type} (assembler : ContextAssembler Vector) (t : Tables)
  (request : ContextRequest) (now : DateTime)

/-- The rows that the document provider reads. -/
def documentRows (order : RowOrder) : List AssistantMemoryRecord :=
  match assembler.documentReader.vectorIds request.userQuery request.authorizationContext
    assembler.documentLimit with
  | .ok vectorIds => documentChunks order t vectorIds request.authorizationContext
  | .error _ => []

/-- The block that the provider makes of a row of user memory. -/
def memoryBlockOf (row : AssistantMemoryRecord) : Except PyError ContextBlock :=
  countedText assembler.counter .userMemory "user_memory" row.content

def chunkBlockOf (row : AssistantMemoryRecord) : Except PyError ContextBlock :=
  countedText assembler.counter .retrievedDocument "document_recall" row.content

/-- Every block of one kind comes from rows that are all in scope. -/
def BlocksScoped (kind : ContextKind) (rows : List AssistantMemoryRecord)
    (blockOf : AssistantMemoryRecord → Except PyError ContextBlock)
    (inScope : AssistantMemoryRecord → Prop) (blocks : List ContextBlock) : Prop :=
  ∀ block ∈ blocks, block.kind = kind →
    (∃ row ∈ rows, blockOf row = .ok block) ∧ ∀ row ∈ rows, blockOf row = .ok block → inScope row

/-- Whatever the order in which rows are returned and whatever the budget, the memories and the
documents of the context come from rows in scope. -/
def RecallScoped : Prop :=
  ∀ (newest : NewestFirst) (order : RowOrder) (totalBudget : Int) (context : AssembledContext),
    { assembler with totalBudget := totalBudget }.assemble newest order t request = .ok context →
    BlocksScoped .userMemory
      (recentUserMemories newest t request.authorizationContext.userId assembler.userMemoryLimit)
      (memoryBlockOf assembler) (ScopedMemory request.authorizationContext now) context.blocks ∧
    BlocksScoped .retrievedDocument (documentRows assembler t request order)
      (chunkBlockOf assembler) (ScopedChunk request.authorizationContext now) context.blocks

end

/-! ## Lapsed and refused rows -/

section

variable (counter : TokenCounter) (t : Tables) (now : DateTime)

/-- The counter counts the content of the row. -/
def isCounted (row : AssistantMemoryRecord) : Bool := (counter row.content).isOk

/-- The active summaries of a user that are newer than a row. -/
def newerSummaries (ownerUserId : Uuid) (row : AssistantMemoryRecord) :
    List AssistantMemoryRecord :=
  t.memories.rows.filter (fun other =>
    isSummaryOf ownerUserId other && row.createdAt < other.createdAt)

/-- The active summaries of a user that are newer than a row, or of its time and counted. -/
def summariesBefore (ownerUserId : Uuid) (row : AssistantMemoryRecord) :
    List AssistantMemoryRecord :=
  t.memories.rows.filter fun other => isSummaryOf ownerUserId other &&
    (row.createdAt < other.createdAt || other.createdAt = row.createdAt && isCounted counter other)

/-- In every order a summary is selected that the counter refuses. -/
def memoriesRefused (ctx : AuthorizationContext) (limit : Int) : Prop :=
  ∃ row ∈ t.memories, isSummaryOf ctx.userId row = true ∧ isCounted counter row = false ∧
    ((summariesBefore counter t ctx.userId row).length : Int) < limit

/-- None of the newest summaries of the actor has expired or requires a permission that the actor
lacks, or one of them is refused. -/
def memoriesCurrent (ctx : AuthorizationContext) (limit : Int) : Prop :=
  memoriesRefused counter t ctx limit ∨
    ∀ row ∈ t.memories, isSummaryOf ctx.userId row = true → isCounted counter row = true →
      ((newerSummaries t ctx.userId row).length : Int) < limit →
      permitted ctx row = true ∧ isCurrent now row = true

/-- A chunk that the actor may read, of a vector that the index names. -/
def isReadable (ctx : AuthorizationContext) (vectorIds : List String)
    (row : AssistantMemoryRecord) : Bool :=
  isChunkOf vectorIds row && permitted ctx row && ctx.can .documentsRead row.siteCode

/-- The counter refuses every chunk of some vector. -/
def chunksRefused (ctx : AuthorizationContext) (vectorIds : List String) : Prop :=
  ∃ row ∈ t.memories, isReadable ctx vectorIds row = true ∧ ∀ other ∈ t.memories,
    isReadable ctx vectorIds other = true → other.vectorId = row.vectorId →
      isCounted counter other = false

/-- No chunk that the actor may read has expired, or one of them is refused. -/
def chunksCurrent (ctx : AuthorizationContext) (vectorIds : List String) : Prop :=
  chunksRefused counter t ctx vectorIds ∨
    ∀ row ∈ t.memories, isReadable ctx vectorIds row = true → isCounted counter row = true →
      isCurrent now row = true

end

/-- No row that recall selects has lapsed, or the provider of the row is dropped, as the counter
refuses a text. A cancelled query to the index cancels the assembly. -/
def RecallCurrent {Vector : Type} (assembler : ContextAssembler Vector) (t : Tables)
    (request : ContextRequest) (now : DateTime) : Prop :=
  match assembler.documentReader.vectorIds request.userQuery request.authorizationContext
    assembler.documentLimit with
  | .ok vectorIds =>
    memoriesCurrent assembler.counter t now request.authorizationContext
        assembler.userMemoryLimit ∧
      chunksCurrent assembler.counter t now request.authorizationContext vectorIds
  | .error e => e.kind = "CancelledError" ∨
    memoriesCurrent assembler.counter t now request.authorizationContext assembler.userMemoryLimit

/-! ## The selects -/

section

variable {counter : TokenCounter} {t : Tables} {ctx : AuthorizationContext} {now : DateTime}
  {row : AssistantMemoryRecord} {newest : NewestFirst} {order : RowOrder} {ownerUserId : Uuid}
  {limit : Int} {vectorIds : List String}

/-- The summaries among which the first are selected. -/
theorem mem_recentUserMemories : row ∈ recentUserMemories newest t ownerUserId limit ↔
    row ∈ (newest.rows (t.memories.rows.filter (isSummaryOf ownerUserId))).take limit.toNat := by
  unfold recentUserMemories
  split
  · rename_i hnone
    rw [Int.toNat_of_nonpos hnone, List.take_zero]
  · exact List.mem_reverse

theorem mem_summaries : row ∈ newest.rows (t.memories.rows.filter (isSummaryOf ownerUserId)) ↔
    row ∈ t.memories ∧ isSummaryOf ownerUserId row = true :=
  (newest.perm _).mem_iff.trans List.mem_filter

/-- How many summaries have a property, in any order. -/
theorem countP_summaries (newest : NewestFirst) (t : Tables) (ownerUserId : Uuid)
    (p : AssistantMemoryRecord → Bool) :
    (newest.rows (t.memories.rows.filter (isSummaryOf ownerUserId))).countP p =
      (t.memories.rows.filter (fun other => isSummaryOf ownerUserId other && p other)).length := by
  rw [(newest.perm _).countP_eq, List.countP_filter, List.countP_eq_length_filter]
  congr 1
  exact List.filter_congr (fun other _ => Bool.and_comm _ _)

/-- A summary that is selected is active, and fewer than the limit are newer. -/
theorem selected_summary (h : row ∈ recentUserMemories newest t ownerUserId limit) :
    row ∈ t.memories ∧ isSummaryOf ownerUserId row = true ∧
      ((newerSummaries t ownerUserId row).length : Int) < limit := by
  have htake := mem_recentUserMemories.mp h
  obtain ⟨hrow, hsummary⟩ := mem_summaries.mp (List.mem_of_mem_take htake)
  have hfew : (newest.rows (t.memories.rows.filter (isSummaryOf ownerUserId))).countP
      (fun other => row.createdAt < other.createdAt) < limit.toNat := by
    refine countP_lt_of_mem_take (newest.sorted _) htake ?_
    intro other hother
    rw [decide_eq_false_iff_not, not_lt]
    rcases hother with rfl | hle
    · exact le_refl _
    · exact hle
  rw [countP_summaries] at hfew
  refine ⟨hrow, hsummary, ?_⟩
  unfold newerSummaries
  omega

/-- A refused summary is selected, whatever the order. -/
theorem refused_selected (h : memoriesRefused counter t ctx limit) (newest : NewestFirst) :
    ∃ row ∈ recentUserMemories newest t ctx.userId limit, isCounted counter row = false := by
  obtain ⟨refused, hrow, hsummary, hrefused, hfew⟩ := h
  by_contra hnone
  push Not at hnone
  have hcounted : ∀ other ∈ (newest.rows (t.memories.rows.filter (isSummaryOf ctx.userId))).take
      limit.toNat, isCounted counter other = true :=
    fun other hother => by simpa using hnone other (mem_recentUserMemories.mpr hother)
  have hmany : limit.toNat ≤ (newest.rows (t.memories.rows.filter
      (isSummaryOf ctx.userId))).countP (fun other => refused.createdAt < other.createdAt ||
        other.createdAt = refused.createdAt && isCounted counter other) := by
    refine le_countP_of_not_mem_take (newest.sorted _) (mem_summaries.mpr ⟨hrow, hsummary⟩) ?_ ?_
    · intro hselected
      rw [hcounted refused hselected] at hrefused
      cases hrefused
    · intro other hother hle
      rw [hcounted other hother]
      rcases lt_or_eq_of_le hle with hless | heq
      · simp [hless]
      · simp [heq]
  rw [countP_summaries] at hmany
  unfold summariesBefore at hfew
  omega

/-- A given row before the others of its time, and of these the refused ones last. -/
def placeOf (counter : TokenCounter) (row other : AssistantMemoryRecord) : Nat :=
  if other = row then 0 else if isCounted counter other then 1 else 2

/-- The newest rows first, and those of one time by their places. -/
def comesBefore (counter : TokenCounter) (row a b : AssistantMemoryRecord) : Prop :=
  b.createdAt < a.createdAt ∨
    (b.createdAt = a.createdAt ∧ placeOf counter row a ≤ placeOf counter row b)

instance (counter : TokenCounter) (row a b : AssistantMemoryRecord) :
    Decidable (comesBefore counter row a b) := by
  unfold comesBefore
  infer_instance

theorem pairwise_comesBefore (counter : TokenCounter) (row : AssistantMemoryRecord)
    (records : List AssistantMemoryRecord) :
    (records.mergeSort (fun a b => decide (comesBefore counter row a b))).Pairwise
      (comesBefore counter row) := by
  refine (List.pairwise_mergeSort ?_ ?_ records).imp (fun h => of_decide_eq_true h)
  · intro a b c hab hbc
    refine decide_eq_true ?_
    rcases of_decide_eq_true hab with hab | ⟨hab, hplace⟩ <;>
      rcases of_decide_eq_true hbc with hbc | ⟨hbc, hplace'⟩
    · exact .inl (hbc.trans hab)
    · exact .inl (hbc.trans_lt hab)
    · exact .inl (hbc.trans_eq hab)
    · exact .inr ⟨hbc.trans hab, hplace.trans hplace'⟩
  · intro a b
    rw [Bool.or_eq_true, decide_eq_true_eq, decide_eq_true_eq]
    unfold comesBefore
    rcases lt_trichotomy a.createdAt b.createdAt with hless | heq | hless
    · exact .inr (.inl hless)
    · rcases le_total (placeOf counter row a) (placeOf counter row b) with hle | hle
      · exact .inl (.inr ⟨heq.symm, hle⟩)
      · exact .inr (.inr ⟨heq, hle⟩)
    · exact .inl (.inl hless)

/-- A server order in which a given row comes as early as its time allows, and refused rows as late
as theirs. -/
def NewestFirst.favouring (counter : TokenCounter) (row : AssistantMemoryRecord) : NewestFirst where
  rows records := records.mergeSort (fun a b => decide (comesBefore counter row a b))
  perm _ := List.mergeSort_perm _ _
  sorted records := (pairwise_comesBefore counter row records).imp
    (fun h => h.elim le_of_lt (fun h => h.1.le))

theorem selected_favouring (hrow : row ∈ t.memories) (hsummary : isSummaryOf ownerUserId row = true)
    (hfew : ((newerSummaries t ownerUserId row).length : Int) < limit) :
    row ∈ recentUserMemories (.favouring counter row) t ownerUserId limit := by
  rw [mem_recentUserMemories]
  by_contra hnot
  have hlisted : row ∈ (NewestFirst.favouring counter row).rows
      (t.memories.rows.filter (isSummaryOf ownerUserId)) := mem_summaries.mpr ⟨hrow, hsummary⟩
  have hmany := le_countP_of_not_mem_take
    (p := fun other => decide (row.createdAt < other.createdAt))
    (pairwise_comesBefore counter row _) hlisted hnot ?_
  · have hcount := countP_summaries (.favouring counter row) t ownerUserId
      (fun other => row.createdAt < other.createdAt)
    unfold newerSummaries at hfew
    change limit.toNat ≤ List.countP _ ((NewestFirst.favouring counter row).rows _) at hmany
    rw [hcount] at hmany
    omega
  · intro other hother hbefore
    refine decide_eq_true ?_
    rcases hbefore with hless | ⟨-, hplace⟩
    · exact hless
    · exfalso
      apply hnot
      have hsame : other = row := by
        by_contra hne
        unfold placeOf at hplace
        rw [if_neg hne, if_pos rfl] at hplace
        split at hplace <;> omega
      rw [hsame] at hother
      exact hother

/-- Of its time only refused rows come after a refused one. -/
theorem refused_of_placeOf_le {other third : AssistantMemoryRecord} (hne : other ≠ row)
    (hrefused : isCounted counter other = false)
    (h : placeOf counter row other ≤ placeOf counter row third) :
    isCounted counter third = false := by
  unfold placeOf at h
  rw [if_neg hne, if_neg (by rw [hrefused]; decide)] at h
  cases hthird : isCounted counter third with
  | false => rfl
  | true =>
    rw [hthird] at h
    split at h
    · omega
    · simp at h

/-- Where no order selects a refused summary for certain, that one selects none. -/
theorem counted_favouring (hrefused : ¬ memoriesRefused counter t ctx limit)
    (hcounted : isCounted counter row = true) {other : AssistantMemoryRecord}
    (h : other ∈ recentUserMemories (.favouring counter row) t ctx.userId limit) :
    isCounted counter other = true := by
  obtain ⟨hother, hsummary, -⟩ := selected_summary h
  cases hnot : isCounted counter other with
  | true => rfl
  | false =>
    exfalso
    apply hrefused
    refine ⟨other, hother, hsummary, hnot, ?_⟩
    have hne : other ≠ row := by
      rintro rfl
      rw [hcounted] at hnot
      cases hnot
    have hfew := countP_lt_of_mem_take
      (p := fun third => decide (other.createdAt < third.createdAt) ||
        (decide (third.createdAt = other.createdAt) && isCounted counter third))
      (pairwise_comesBefore counter row _) (mem_recentUserMemories.mp h) ?_
    · have hcount := countP_summaries (.favouring counter row) t ctx.userId
        (fun third => decide (other.createdAt < third.createdAt) ||
          (decide (third.createdAt = other.createdAt) && isCounted counter third))
      unfold summariesBefore
      change List.countP _ ((NewestFirst.favouring counter row).rows _) < _ at hfew
      rw [hcount] at hfew
      omega
    · rintro third (rfl | hless | ⟨heq, hplace⟩)
      · simp [hnot]
      · simp [hless.le, hless.ne]
      · simp [heq, refused_of_placeOf_le hne hnot hplace]

/-- A chunk that is shown is one that the actor may read. -/
theorem readable_of_mem_documentChunks (h : row ∈ documentChunks order t vectorIds ctx) :
    row ∈ t.memories ∧ isReadable ctx vectorIds row = true := by
  unfold documentChunks at h
  split at h
  · cases h
  obtain ⟨vectorId, -, hallowed⟩ := List.mem_filterMap.mp h
  have hfilter := List.mem_reverse.mp (List.mem_of_find?_eq_some hallowed)
  obtain ⟨horder, hpermitted⟩ := List.mem_filter.mp hfilter
  obtain ⟨hrow, hchunk⟩ := List.mem_filter.mp ((order.perm _).mem_iff.mp horder)
  refine ⟨hrow, ?_⟩
  unfold isReadable
  rw [Bool.and_assoc, hchunk, hpermitted]
  rfl

/-- Of the chunks that the actor may read the last one of each vector is shown. -/
theorem mem_documentChunks_iff : row ∈ documentChunks order t vectorIds ctx ↔
    row ∈ t.memories ∧ isReadable ctx vectorIds row = true ∧
      allowedRow? ctx (order.rows (t.memories.rows.filter (isChunkOf vectorIds))) row.vectorId =
        some row := by
  constructor
  · intro h
    obtain ⟨hrow, hreadable⟩ := readable_of_mem_documentChunks h
    refine ⟨hrow, hreadable, ?_⟩
    unfold documentChunks at h
    split at h
    · cases h
    obtain ⟨vectorId, -, hallowed⟩ := List.mem_filterMap.mp h
    have hvector : row.vectorId = vectorId := by
      simpa using List.find?_some hallowed
    rw [hvector]
    exact hallowed
  · rintro ⟨-, hreadable, hallowed⟩
    unfold isReadable at hreadable
    rw [Bool.and_eq_true, Bool.and_eq_true] at hreadable
    obtain ⟨⟨hchunk, -⟩, hcan⟩ := hreadable
    have hvector : row.vectorId ∈ vectorIds := by
      unfold isChunkOf at hchunk
      exact (of_decide_eq_true hchunk).2.1
    have hread : ctx.can .documentsRead none = true := by
      unfold AuthorizationContext.can at hcan ⊢
      split at hcan
      · cases hcan
      · rename_i hmem
        rw [if_neg hmem]
    unfold documentChunks
    rw [if_neg (by simp [hread, List.ne_nil_of_mem hvector])]
    exact List.mem_filterMap.mpr ⟨row.vectorId, hvector, hallowed⟩

/-- Every vector with a chunk that the actor may read has one that is shown. -/
theorem exists_shown (order : RowOrder) (hrow : row ∈ t.memories)
    (hreadable : isReadable ctx vectorIds row = true) :
    ∃ shown ∈ documentChunks order t vectorIds ctx, shown.vectorId = row.vectorId := by
  have hcandidate : row ∈ ((order.rows (t.memories.rows.filter (isChunkOf vectorIds))).filter
      (fun row => permitted ctx row && ctx.can .documentsRead row.siteCode)).reverse := by
    unfold isReadable at hreadable
    rw [Bool.and_assoc, Bool.and_eq_true] at hreadable
    rw [List.mem_reverse, List.mem_filter, (order.perm _).mem_iff, List.mem_filter]
    exact ⟨⟨hrow, hreadable.1⟩, hreadable.2⟩
  cases hallowed : allowedRow? ctx (order.rows (t.memories.rows.filter (isChunkOf vectorIds)))
      row.vectorId with
  | none =>
    have hnone := List.find?_eq_none.mp hallowed row hcandidate
    simp at hnone
  | some shown =>
    have hvector : shown.vectorId = row.vectorId := by
      simpa using List.find?_some hallowed
    obtain ⟨horder, hpermitted⟩ := List.mem_filter.mp
      (List.mem_reverse.mp (List.mem_of_find?_eq_some hallowed))
    obtain ⟨hshown, hchunk⟩ := List.mem_filter.mp ((order.perm _).mem_iff.mp horder)
    refine ⟨shown, mem_documentChunks_iff.mpr ⟨hshown, ?_, by rw [hvector]; exact hallowed⟩,
      hvector⟩
    unfold isReadable
    rw [Bool.and_assoc, hchunk, hpermitted]
    rfl

/-- A refused chunk is shown, whatever the order. -/
theorem refused_shown (h : chunksRefused counter t ctx vectorIds) (order : RowOrder) :
    ∃ row ∈ documentChunks order t vectorIds ctx, isCounted counter row = false := by
  obtain ⟨row, hrow, hreadable, hall⟩ := h
  obtain ⟨shown, hshown, hvector⟩ := exists_shown order hrow hreadable
  obtain ⟨hmem, hreadable', -⟩ := mem_documentChunks_iff.mp hshown
  exact ⟨shown, hshown, hall shown hmem hreadable' hvector⟩

/-- A server order in which a given row comes last, and refused rows first. -/
def RowOrder.last (counter : TokenCounter) (row : AssistantMemoryRecord) : RowOrder where
  rows records := records.mergeSort
    (fun a b => decide (placeOf counter row b ≤ placeOf counter row a))
  perm _ := List.mergeSort_perm _ _

/-- The chunk that it shows for a vector comes last of those of the vector. -/
theorem place_le_of_shown {other : AssistantMemoryRecord}
    (h : row ∈ documentChunks (.last counter other) t vectorIds ctx)
    {third : AssistantMemoryRecord} (hthird : third ∈ t.memories)
    (hreadable : isReadable ctx vectorIds third = true) (hvector : third.vectorId = row.vectorId) :
    placeOf counter other row ≤ placeOf counter other third := by
  obtain ⟨-, -, hallowed⟩ := mem_documentChunks_iff.mp h
  have hsorted : ((((RowOrder.last counter other).rows (t.memories.rows.filter
      (isChunkOf vectorIds))).filter (fun row => permitted ctx row &&
        ctx.can .documentsRead row.siteCode)).reverse).Pairwise
      (fun a b => placeOf counter other a ≤ placeOf counter other b) := by
    rw [List.pairwise_reverse]
    refine List.Pairwise.filter _ ((List.pairwise_mergeSort ?_ ?_ _).imp of_decide_eq_true)
    · intro a b c hab hbc
      exact decide_eq_true ((of_decide_eq_true hbc).trans (of_decide_eq_true hab))
    · intro a b
      simpa using le_total (placeOf counter other b) (placeOf counter other a)
  unfold isReadable at hreadable
  rw [Bool.and_assoc, Bool.and_eq_true] at hreadable
  have hcandidate : third ∈ (((RowOrder.last counter other).rows (t.memories.rows.filter
      (isChunkOf vectorIds))).filter (fun row => permitted ctx row &&
        ctx.can .documentsRead row.siteCode)).reverse := by
    rw [List.mem_reverse, List.mem_filter, ((RowOrder.last counter other).perm _).mem_iff,
      List.mem_filter]
    exact ⟨⟨hthird, hreadable.1⟩, hreadable.2⟩
  rcases rel_of_find? hsorted hallowed hcandidate (decide_eq_true hvector) with rfl | hle
  · exact le_refl _
  · exact hle

theorem shown_last (hrow : row ∈ t.memories) (hreadable : isReadable ctx vectorIds row = true) :
    row ∈ documentChunks (.last counter row) t vectorIds ctx := by
  obtain ⟨shown, hshown, hvector⟩ := exists_shown (.last counter row) hrow hreadable
  have hplace := place_le_of_shown hshown hrow hreadable hvector.symm
  have hsame : shown = row := by
    by_contra hne
    unfold placeOf at hplace
    rw [if_neg hne, if_pos rfl] at hplace
    split at hplace <;> omega
  rw [← hsame]
  rw [← hsame] at hshown
  exact hshown

/-- Where every vector has a chunk that is counted, that order shows only such chunks. -/
theorem counted_last (hrefused : ¬ chunksRefused counter t ctx vectorIds)
    (hcounted : isCounted counter row = true) {other : AssistantMemoryRecord}
    (h : other ∈ documentChunks (.last counter row) t vectorIds ctx) :
    isCounted counter other = true := by
  obtain ⟨hother, hreadable, -⟩ := mem_documentChunks_iff.mp h
  cases hnot : isCounted counter other with
  | true => rfl
  | false =>
    exfalso
    apply hrefused
    refine ⟨other, hother, hreadable, ?_⟩
    intro third hthird hreadable' hvector
    have hplace := place_le_of_shown h hthird hreadable' hvector
    have hne : other ≠ row := by
      rintro rfl
      rw [hcounted] at hnot
      cases hnot
    cases hcase : isCounted counter third with
    | false => rfl
    | true =>
      unfold placeOf at hplace
      rw [if_neg hne, if_neg (by rw [hnot]; decide), hcase] at hplace
      split at hplace
      · omega
      · simp at hplace

end

/-! ## The blocks of the context -/

section

variable {Vector : Type} {assembler : ContextAssembler Vector} {t : Tables}
  {request : ContextRequest}
  {now : DateTime} {newest : NewestFirst} {order : RowOrder} {totalBudget : Int}

open DefaultContextAssembler TokenBudgetAllocator

/-- The query to the index was cancelled. -/
def Cancelled (assembler : ContextAssembler Vector) (request : ContextRequest) : Prop :=
  ∃ e, assembler.documentReader.vectorIds request.userQuery request.authorizationContext
    assembler.documentLimit = .error e ∧ e.kind = "CancelledError"

theorem vectorIds_of_not_can
    (h : request.authorizationContext.can .documentsRead none = false) :
    assembler.documentReader.vectorIds request.userQuery request.authorizationContext
      assembler.documentLimit = .ok [] := by
  unfold DocumentMemoryReader.vectorIds
  rw [if_pos (by simp [h])]
  rfl

/-- What the document provider makes of what the index answers. -/
def documentResult (assembler : ContextAssembler Vector) (t : Tables) (request : ContextRequest)
    (order : RowOrder) : Except PyError (List ContextBlock) :=
  match assembler.documentReader.vectorIds request.userQuery request.authorizationContext
    assembler.documentLimit with
  | .ok _ => (documentRows assembler t request order).mapM (chunkBlockOf assembler)
  | .error e => .error e

theorem getBlocks_documents : DocumentRecallProvider.getBlocks assembler.counter
    request.authorizationContext (assembler.documentReader.readDocumentChunks order t
      request.userQuery request.authorizationContext assembler.documentLimit) =
    documentResult assembler t request order := by
  unfold DocumentRecallProvider.getBlocks documentResult documentRows
  cases hcan : request.authorizationContext.can .documentsRead none with
  | false =>
    have hnone : documentChunks order t [] request.authorizationContext = [] := by
      unfold documentChunks
      rfl
    rw [vectorIds_of_not_can hcan]
    dsimp only
    rw [hnone]
    rfl
  | true =>
    rw [if_neg (by decide)]
    unfold DocumentMemoryReader.readDocumentChunks
    cases assembler.documentReader.vectorIds request.userQuery request.authorizationContext
      assembler.documentLimit with
    | error e => rfl
    | ok vectorIds =>
      change ((documentChunks order t vectorIds request.authorizationContext).map
        (·.content)).mapM _ = _
      rw [List.mapM_map]
      rfl

/-- What the providers return or raise. -/
theorem results_eq : assembler.results newest order t request = [
    RecentTurnsProvider.getBlocks assembler.counter request.recentTurns,
    (recentUserMemories newest t request.authorizationContext.userId
      assembler.userMemoryLimit).mapM (memoryBlockOf assembler),
    documentResult assembler t request order] := by
  have hmemories : UserMemoryProvider.getBlocks assembler.counter (readRecentUserMemories newest t
      request.authorizationContext.userId assembler.userMemoryLimit) =
        (recentUserMemories newest t request.authorizationContext.userId
          assembler.userMemoryLimit).mapM (memoryBlockOf assembler) := by
    unfold UserMemoryProvider.getBlocks readRecentUserMemories
    rw [List.mapM_map]
    rfl
  unfold ContextAssembler.results
  rw [getBlocks_documents, hmemories]

/-- The providers, but for the query to the index, are not cancelled. -/
theorem notCancelled_results (hcancelled : ¬ Cancelled assembler request) :
    NotCancelled (assembler.results newest order t request) := by
  have hcounted : ∀ kind source content e,
      countedText assembler.counter kind source content = .error e → e.kind ≠ "CancelledError" := by
    intro kind source content e h
    unfold countedText at h
    cases hcount : assembler.counter content with
    | error e' =>
      rw [hcount] at h
      cases h
      exact assembler.notCancelled content _ hcount
    | ok n =>
      rw [hcount] at h
      cases h
  intro e he
  rw [results_eq, List.mem_cons, List.mem_cons, List.mem_singleton] at he
  rcases he with hturns | hmemories | hdocuments
  · obtain ⟨turn, -, hturn⟩ := exists_of_mapM_error hturns.symm
    exact hcounted _ _ _ e hturn
  · obtain ⟨row, -, hrow⟩ := exists_of_mapM_error hmemories.symm
    exact hcounted _ _ _ e hrow
  · unfold documentResult at hdocuments
    cases hids : assembler.documentReader.vectorIds request.userQuery request.authorizationContext
      assembler.documentLimit with
    | error e' =>
      rw [hids] at hdocuments
      cases hdocuments
      exact fun hkind => hcancelled ⟨e, hids, hkind⟩
    | ok vectorIds =>
      rw [hids] at hdocuments
      obtain ⟨row, -, hrow⟩ := exists_of_mapM_error hdocuments.symm
      exact hcounted _ _ _ e hrow

/-- A block that a provider has returned stays as it is. -/
theorem normalize_result {found : List ContextBlock}
    (hfound : .ok found ∈ assembler.results newest order t request) {block : ContextBlock}
    (hblock : block ∈ found) (allocator : TokenBudgetAllocator) (totalBudget : Int) :
    normalize ⟨allocator, assembler.counter, totalBudget⟩ block = .ok block := by
  rw [results_eq, List.mem_cons, List.mem_cons, List.mem_singleton] at hfound
  rcases hfound with hturns | hmemories | hdocuments
  · obtain ⟨turn, -, hturn⟩ := exists_of_mem_mapM hturns.symm hblock
    exact normalize_countedText hturn
  · obtain ⟨row, -, hrow⟩ := exists_of_mem_mapM hmemories.symm hblock
    exact normalize_countedText hrow
  · unfold documentResult at hdocuments
    split at hdocuments
    · obtain ⟨row, -, hrow⟩ := exists_of_mem_mapM hdocuments.symm hblock
      exact normalize_countedText hrow
    · cases hdocuments

/-- The rows from which the blocks of the context come, all of which are counted. -/
theorem context_cases {context : AssembledContext}
    (h : assembler.assemble newest order t request = .ok context) {block : ContextBlock}
    (hblock : block ∈ context.blocks) :
    block.kind = .recentTurn ∨
    (block.kind = .userMemory ∧ ∃ found, (recentUserMemories newest t
      request.authorizationContext.userId assembler.userMemoryLimit).mapM
        (memoryBlockOf assembler) = .ok found ∧ block ∈ found) ∨
    (block.kind = .retrievedDocument ∧ ∃ found,
      documentResult assembler t request order = .ok found ∧ block ∈ found) := by
  obtain ⟨found, hfound, given, hgiven, hnormalize⟩ := exists_of_mem_assemble h hblock
  have hsame := normalize_result hfound hgiven assembler.allocator assembler.totalBudget
  obtain rfl : given = block := Except.ok.inj (hsame.symm.trans hnormalize)
  rw [results_eq, List.mem_cons, List.mem_cons, List.mem_singleton] at hfound
  rcases hfound with hturns | hmemories | hdocuments
  · obtain ⟨turn, -, hturn⟩ := exists_of_mem_mapM hturns.symm hgiven
    obtain ⟨n, -, rfl⟩ := countedText_eq_ok.mp hturn
    exact .inl rfl
  · obtain ⟨row, -, hrow⟩ := exists_of_mem_mapM hmemories.symm hgiven
    obtain ⟨n, -, rfl⟩ := countedText_eq_ok.mp hrow
    exact .inr (.inl ⟨rfl, found, hmemories.symm, hgiven⟩)
  · refine .inr (.inr ⟨?_, found, hdocuments.symm, hgiven⟩)
    unfold documentResult at hdocuments
    split at hdocuments
    · obtain ⟨row, -, hrow⟩ := exists_of_mem_mapM hdocuments.symm hgiven
      obtain ⟨n, -, rfl⟩ := countedText_eq_ok.mp hrow
      rfl
    · cases hdocuments

/-- A cancelled assembly gives no context. -/
theorem not_cancelled_of_ok {context : AssembledContext}
    (h : assembler.assemble newest order t request = .ok context) :
    ¬ Cancelled assembler request := by
  rintro ⟨e, hids, hkind⟩
  obtain ⟨aggregated, -, haggregated, -, -⟩ := assemble_ok h
  have hdocuments : documentResult assembler t request order = .error e := by
    unfold documentResult
    rw [hids]
  rw [results_eq, hdocuments] at haggregated
  refine aggregate_cancelled ?_ hkind haggregated
  exact List.mem_cons_of_mem _ (List.mem_cons_of_mem _ List.mem_cons_self)

/-- The blocks that the providers return are all in a context with room for them. -/
theorem exists_context (hcancelled : ¬ Cancelled assembler request) (newest : NewestFirst)
    (order : RowOrder) : ∃ totalBudget context,
      { assembler with totalBudget := totalBudget }.assemble newest order t request = .ok context ∧
      ∀ found, .ok found ∈ assembler.results newest order t request →
        ∀ block ∈ found, block ∈ context.blocks := by
  let blocks := returned (assembler.results newest order t request)
  have hself : ∀ block ∈ blocks, normalize
      ⟨assembler.allocator, assembler.counter, total blockTokens blocks⟩ block = .ok block := by
    intro block hblock
    obtain ⟨found, hfound, hmem⟩ := mem_returned hblock
    exact normalize_result hfound hmem _ _
  have hbudget :
      total blockTokens (blocks.map (fun block => block)) ≤ total blockTokens blocks := by
    rw [List.map_id']
  obtain ⟨context, hcontext, hperm⟩ :=
    assemble_of_le (notCancelled_results hcancelled) hself hbudget
  refine ⟨total blockTokens blocks, context, hcontext, ?_⟩
  intro found hfound block hblock
  rw [hperm.mem_iff, List.map_id']
  exact List.mem_flatMap.mpr ⟨.ok found, hfound, hblock⟩

/-- Rows that are all counted. -/
theorem exists_blocks (blockOf : AssistantMemoryRecord → Except PyError ContextBlock)
    {kind : ContextKind} {source : String}
    (hblockOf : ∀ row, blockOf row = countedText assembler.counter kind source row.content)
    {rows : List AssistantMemoryRecord}
    (hcounted : ∀ row ∈ rows, isCounted assembler.counter row = true) :
    ∃ found, rows.mapM blockOf = .ok found := by
  cases hfound : rows.mapM blockOf with
  | ok found => exact ⟨found, rfl⟩
  | error e =>
    obtain ⟨row, hrow, herror⟩ := exists_of_mapM_error hfound
    have hcount := hcounted row hrow
    rw [hblockOf] at herror
    unfold countedText at herror
    unfold isCounted at hcount
    cases hcase : assembler.counter row.content with
    | ok n =>
      rw [hcase] at herror
      cases herror
    | error e' =>
      rw [hcase] at hcount
      cases hcount

/-- A row with a block is counted. -/
theorem counted_of_block {kind : ContextKind} {source : String} {row : AssistantMemoryRecord}
    {block : ContextBlock} (h : countedText assembler.counter kind source row.content = .ok block) :
    isCounted assembler.counter row = true := by
  obtain ⟨n, hn, -⟩ := countedText_eq_ok.mp h
  unfold isCounted
  rw [hn]
  rfl

/-! ## Memories -/

/-- Where the summaries have not lapsed, the memories of a context are in scope. -/
theorem memoriesScoped (hcurrent : memoriesCurrent assembler.counter t now
      request.authorizationContext assembler.userMemoryLimit) {context : AssembledContext}
    (h : assembler.assemble newest order t request = .ok context) :
    BlocksScoped .userMemory
      (recentUserMemories newest t request.authorizationContext.userId assembler.userMemoryLimit)
      (memoryBlockOf assembler) (ScopedMemory request.authorizationContext now) context.blocks := by
  intro block hblock hkind
  rcases context_cases h hblock with hturn | ⟨-, found, hfound, hmem⟩ | ⟨hdocument, -⟩
  · rw [hturn] at hkind
    cases hkind
  · refine ⟨exists_of_mem_mapM hfound hmem, ?_⟩
    intro row hrow hrowBlock
    obtain ⟨hlisted, hsummary, hfew⟩ := selected_summary hrow
    have hlapsed := hcurrent.resolve_left (fun hrefused => ?_)
    · obtain ⟨hpermitted, hcurrent⟩ :=
        hlapsed row hlisted hsummary (counted_of_block hrowBlock) hfew
      unfold isSummaryOf at hsummary
      obtain ⟨howned, -, hlive⟩ := of_decide_eq_true hsummary
      exact ⟨howned, hpermitted, hlive, hcurrent⟩
    · -- a refused summary would have failed the provider
      obtain ⟨refused, hselected, hnot⟩ := refused_selected hrefused newest
      obtain ⟨refusedBlock, -, hrefusedBlock⟩ := exists_ok_of_mapM hfound hselected
      rw [counted_of_block hrefusedBlock] at hnot
      cases hnot
  · rw [hdocument] at hkind
    cases hkind

/-- Where recall is in scope, no summary that it selects has lapsed. -/
theorem memoriesCurrent_of_scoped (h : RecallScoped assembler t request now)
    (hcancelled : ¬ Cancelled assembler request) : memoriesCurrent assembler.counter t now
      request.authorizationContext assembler.userMemoryLimit := by
  by_cases hrefused : memoriesRefused assembler.counter t request.authorizationContext
    assembler.userMemoryLimit
  · exact .inl hrefused
  · refine .inr (fun row hrow hsummary hcounted hfew => ?_)
    have hselected := @selected_favouring assembler.counter t row _ _ hrow hsummary hfew
    obtain ⟨found, hfound⟩ := exists_blocks (memoryBlockOf assembler) (fun _ => rfl)
      (fun other hother => counted_favouring hrefused hcounted hother)
    obtain ⟨block, hblock, hrowBlock⟩ := exists_ok_of_mapM hfound hselected
    obtain ⟨totalBudget, context, hcontext, hall⟩ :=
      exists_context (t := t) hcancelled (.favouring assembler.counter row)
        (.last assembler.counter row)
    have hmem : block ∈ context.blocks := by
      refine hall found ?_ block hblock
      rw [results_eq, hfound]
      exact List.mem_cons_of_mem _ List.mem_cons_self
    obtain ⟨n, -, rfl⟩ := countedText_eq_ok.mp hrowBlock
    have hscoped := ((h _ _ _ context hcontext).1 _ hmem rfl).2 row hselected hrowBlock
    exact ⟨hscoped.permitted, hscoped.current⟩

/-! ## Chunks -/

/-- Where the chunks have not expired, the documents of a context are in scope. -/
theorem chunksScoped {vectorIds : List String}
    (hids : assembler.documentReader.vectorIds request.userQuery request.authorizationContext
      assembler.documentLimit = .ok vectorIds)
    (hcurrent : chunksCurrent assembler.counter t now request.authorizationContext vectorIds)
    {context : AssembledContext} (h : assembler.assemble newest order t request = .ok context) :
    BlocksScoped .retrievedDocument (documentRows assembler t request order)
      (chunkBlockOf assembler) (ScopedChunk request.authorizationContext now) context.blocks := by
  have hrows : documentRows assembler t request order =
      documentChunks order t vectorIds request.authorizationContext := by
    unfold documentRows
    rw [hids]
  intro block hblock hkind
  rcases context_cases h hblock with hturn | ⟨hmemory, -⟩ | ⟨-, found, hfound, hmem⟩
  · rw [hturn] at hkind
    cases hkind
  · rw [hmemory] at hkind
    cases hkind
  · unfold documentResult at hfound
    rw [hids] at hfound
    dsimp only at hfound
    refine ⟨exists_of_mem_mapM hfound hmem, ?_⟩
    rw [hrows] at hfound ⊢
    intro row hrow hrowBlock
    obtain ⟨hlisted, hreadable⟩ := readable_of_mem_documentChunks hrow
    have hexpired := hcurrent.resolve_left (fun hrefused => ?_)
    · have hcurrent := hexpired row hlisted hreadable (counted_of_block hrowBlock)
      unfold isReadable at hreadable
      rw [Bool.and_eq_true, Bool.and_eq_true] at hreadable
      obtain ⟨⟨hchunk, hpermitted⟩, hcan⟩ := hreadable
      unfold isChunkOf at hchunk
      exact ⟨hcan, hpermitted, (of_decide_eq_true hchunk).2.2.1, hcurrent⟩
    · obtain ⟨refused, hshown, hnot⟩ := refused_shown hrefused order
      obtain ⟨refusedBlock, -, hrefusedBlock⟩ := exists_ok_of_mapM hfound hshown
      rw [counted_of_block hrefusedBlock] at hnot
      cases hnot

/-- Where recall is in scope, no chunk that it shows has expired. -/
theorem chunksCurrent_of_scoped {vectorIds : List String}
    (hids : assembler.documentReader.vectorIds request.userQuery request.authorizationContext
      assembler.documentLimit = .ok vectorIds)
    (h : RecallScoped assembler t request now) (hcancelled : ¬ Cancelled assembler request) :
    chunksCurrent assembler.counter t now request.authorizationContext vectorIds := by
  by_cases hrefused : chunksRefused assembler.counter t request.authorizationContext vectorIds
  · exact .inl hrefused
  · refine .inr (fun row hrow hreadable hcounted => ?_)
    have hrows : documentRows assembler t request (.last assembler.counter row) =
        documentChunks (.last assembler.counter row) t vectorIds request.authorizationContext := by
      unfold documentRows
      rw [hids]
    have hshown := @shown_last assembler.counter t _ row _ hrow hreadable
    obtain ⟨found, hfound⟩ := exists_blocks (chunkBlockOf assembler) (fun _ => rfl)
      (fun other hother => counted_last hrefused hcounted hother)
    obtain ⟨block, hblock, hrowBlock⟩ := exists_ok_of_mapM hfound hshown
    have hresult :
        documentResult assembler t request (.last assembler.counter row) = .ok found := by
      unfold documentResult
      rw [hids]
      dsimp only
      rw [hrows, hfound]
    obtain ⟨totalBudget, context, hcontext, hall⟩ :=
      exists_context (t := t) hcancelled (.favouring assembler.counter row)
        (.last assembler.counter row)
    have hmem : block ∈ context.blocks := by
      refine hall found ?_ block hblock
      rw [results_eq, hresult]
      exact List.mem_cons_of_mem _ (List.mem_cons_of_mem _ List.mem_cons_self)
    obtain ⟨n, -, rfl⟩ := countedText_eq_ok.mp hrowBlock
    rw [← hrows] at hshown
    exact (((h _ _ _ context hcontext).2 _ hmem rfl).2 row hshown hrowBlock).current

/-! ## Recall -/

/-- Recall is in scope exactly when no row that it selects has lapsed, or the counter refuses a text
with it. -/
theorem recallScoped_iff (assembler : ContextAssembler Vector) (t : Tables)
    (request : ContextRequest) (now : DateTime) :
    RecallScoped assembler t request now ↔ RecallCurrent assembler t request now := by
  unfold RecallCurrent
  cases hids : assembler.documentReader.vectorIds request.userQuery request.authorizationContext
      assembler.documentLimit with
  | ok vectorIds =>
    have hcancelled : ¬ Cancelled assembler request := by
      rintro ⟨e, heq, -⟩
      rw [hids] at heq
      cases heq
    constructor
    · intro h
      exact ⟨memoriesCurrent_of_scoped h hcancelled, chunksCurrent_of_scoped hids h hcancelled⟩
    · rintro ⟨hmemories, hchunks⟩ newest order totalBudget context hcontext
      exact ⟨@memoriesScoped Vector { assembler with totalBudget := totalBudget } _ _ _ _ _
          hmemories _ hcontext,
        @chunksScoped Vector { assembler with totalBudget := totalBudget } _ _ _ _ _ _
          hids hchunks _ hcontext⟩
  | error e =>
    constructor
    · intro h
      by_cases hkind : e.kind = "CancelledError"
      · exact .inl hkind
      · refine .inr (memoriesCurrent_of_scoped h ?_)
        rintro ⟨e', heq, hkind'⟩
        rw [hids] at heq
        cases heq
        exact hkind hkind'
    · intro hcurrent newest order totalBudget context hcontext
      have hmemories := hcurrent.resolve_left
        (fun hkind => not_cancelled_of_ok hcontext ⟨e, hids, hkind⟩)
      refine ⟨@memoriesScoped Vector { assembler with totalBudget := totalBudget } _ _ _ _ _
        hmemories _ hcontext, ?_⟩
      intro block hblock hkind
      rcases context_cases hcontext hblock with hturn | ⟨hmemory, -⟩ | ⟨-, found, hfound, -⟩
      · rw [hturn] at hkind
        cases hkind
      · rw [hmemory] at hkind
        cases hkind
      · unfold documentResult at hfound
        dsimp only at hfound
        rw [hids] at hfound
        cases hfound

end

/-! ### A summary of audit logs after a change of role -/

/-- A summary that was learnt through a tool for auditors. -/
def auditSummary : AssistantMemoryRecord where
  id := .ofNat 300
  kind := "conversation_summary"
  ownerUserId := some (.ofNat 10)
  siteCode := none
  requiredPermissions := ["audit_logs:read"]
  content := "The operator reviews the audit log of pump P-7 every week."
  contentSha256 := "6c1f"
  sourceTurnIds := [.ofNat 100]
  sourceDocumentId := none
  vectorNamespace := "user-memory"
  vectorId := (Uuid.ofNat 300).str
  embeddingModel := "text-embedding-3-small"
  createdAt := 5
  expiresAt := none

def auditTables : Tables := ⟨.empty, .empty, .empty, ⟨[auditSummary], by decide⟩, .empty⟩

/-- The owner of the summary, who is a technician now. -/
def technicianRequest : ContextRequest where
  userQuery := "Which pump do I check?"
  authorizationContext := {
    userId := .ofNat 10
    roles := [.maintenanceTechnician]
    siteCodes := ["PLANT-1"] }

def plainAssembler : ContextAssembler Unit where
  counter text := .ok text.length
  notCancelled := nofun
  userMemoryLimit := 5
  documentReader := {
    embed := fun _ => .ok ()
    queryIds := fun _ _ _ _ => .ok []
    vectorNamespace := "documents" }
  documentLimit := 5

/-- The technician is shown the summary. -/
theorem not_recallScoped : ¬ RecallScoped plainAssembler auditTables technicianRequest 6 := by
  intro h
  have hcancelled : ¬ Cancelled plainAssembler technicianRequest := by
    rintro ⟨e, heq, -⟩
    have hok : plainAssembler.documentReader.vectorIds technicianRequest.userQuery
        technicianRequest.authorizationContext plainAssembler.documentLimit = .ok [] := by
      decide
    rw [hok] at heq
    cases heq
  have hcurrent := memoriesCurrent_of_scoped h hcancelled
  have hlapsed := hcurrent.resolve_left (fun ⟨_, _, _, hrefused, _⟩ => by cases hrefused)
  obtain ⟨hpermitted, -⟩ := hlapsed auditSummary (List.mem_singleton_self _) (by decide) rfl
    (by decide)
  have hlacks : permitted technicianRequest.authorizationContext auditSummary = false := by
    decide
  rw [hpermitted] at hlacks
  cases hlacks

end HotAirBalloon.Context
