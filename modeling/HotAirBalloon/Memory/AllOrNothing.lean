import HotAirBalloon.Memory.ConsolidationRounds

/-!
# All or nothing

A run of the worker commits the candidates and the facts of its conversations one by one, each in a
session of its own, and the marks of the whole batch at the end. Whatever calls fail, a marked
conversation has its facts. But a run that breaks off after its first candidate leaves candidates of
conversations that are not marked, and the next run records them again; in runs without such a
failure every conversation is consolidated or untouched.
-/

namespace HotAirBalloon.Memory

open Python Library

/-! ## One more conversation -/

section

variable {outside : Outside Unit} {worker : ConsolidationWorker} {t t' : Tables}
  {row other : AssistantConversationRecord} {done : List AssistantConversationRecord}

theorem mem_sourceTurns {conversationId id : Uuid} :
    id ∈ sourceTurns conversationId t ↔
      ∃ turn ∈ t.turns, turn.conversationId = conversationId ∧ turn.id = id := by
  unfold sourceTurns conversationTurns
  simp only [List.mem_map, List.mem_insertionSort, List.mem_filter, decide_eq_true_eq,
    Table.mem_def, and_assoc]

/-- A turn has one conversation. -/
theorem conversation_eq_of_mem_sourceTurns {conversationId conversationId' id : Uuid}
    (h : id ∈ sourceTurns conversationId t) (h' : id ∈ sourceTurns conversationId' t) :
    conversationId = conversationId' := by
  obtain ⟨turn, hturn, rfl, rfl⟩ := mem_sourceTurns.mp h
  obtain ⟨turn', hturn', rfl, hid⟩ := mem_sourceTurns.mp h'
  rw [Table.eq_of_key_eq hturn hturn' hid.symm]

theorem sourceTurns_congr (hturns : t'.turns = t.turns) (conversationId : Uuid) :
    sourceTurns conversationId t' = sourceTurns conversationId t := by
  unfold sourceTurns conversationTurns
  rw [hturns]

theorem extractedFacts_congr (hturns : t'.turns = t.turns) (conversationId : Uuid) :
    extractedFacts outside conversationId t' = extractedFacts outside conversationId t := by
  unfold extractedFacts conversationTurns
  rw [hturns]

variable (h : Advanced worker row (sourceTurns row.id t) (extractedFacts outside row.id t) t t')
include h

theorem Advanced.filter_other (hother : other.id ≠ row.id) :
    (t'.candidates.rows.filter fun candidate => candidate.conversationId = other.id) =
      t.candidates.rows.filter fun candidate => candidate.conversationId = other.id := by
  obtain ⟨added, -, hadded, hrows⟩ := h.candidates
  have hnone : added.filter (fun candidate => candidate.conversationId = other.id) = [] := by
    rw [List.filter_eq_nil_iff]
    intro candidate hcandidate
    simpa [hadded candidate hcandidate] using Ne.symm hother
  rw [hrows, List.filter_append, hnone, List.append_nil]

theorem Advanced.untouched (hother : other.id ≠ row.id) (huntouched : Untouched other t) :
    Untouched other t' where
  candidates candidate hcandidate heq := by
    have hmem : candidate ∈ t'.candidates.rows.filter fun candidate =>
        candidate.conversationId = other.id := List.mem_filter.mpr ⟨hcandidate, decide_eq_true heq⟩
    rw [h.filter_other hother] at hmem
    exact huntouched.candidates candidate (List.mem_filter.mp hmem).1 heq
  memories record hrecord id hid hsource := by
    rw [sourceTurns_congr h.turns] at hid
    rcases h.memories.lineage record hrecord id hsource with hown | ⟨old, hold, hsource'⟩
    · exact hother (conversation_eq_of_mem_sourceTurns hid hown)
    · exact huntouched.memories old hold id hid hsource'

theorem Advanced.consolidated (hother : other.id ≠ row.id)
    (hconsolidated : Consolidated outside worker other t) :
    Consolidated outside worker other t' := by
  unfold Consolidated at hconsolidated ⊢
  rw [h.filter_other hother, sourceTurns_congr h.turns, extractedFacts_congr h.turns]
  exact hconsolidated.imp (fun _ _ hcandidate => hcandidate.mono h.memories.kept)

/-- The conversation itself is consolidated. -/
theorem Untouched.advanced (huntouched : Untouched row t) : Consolidated outside worker row t' := by
  obtain ⟨added, hfacts, hadded, hrows⟩ := h.candidates
  have hnone :
      t.candidates.rows.filter (fun candidate => candidate.conversationId = row.id) = [] := by
    rw [List.filter_eq_nil_iff]
    intro candidate hcandidate
    simpa using huntouched.candidates candidate hcandidate
  have hall : added.filter (fun candidate => candidate.conversationId = row.id) = added := by
    rw [List.filter_eq_self]
    intro candidate hcandidate
    simpa using hadded candidate hcandidate
  unfold Consolidated
  rw [hrows, List.filter_append, hnone, hall, List.nil_append, sourceTurns_congr h.turns,
    extractedFacts_congr h.turns]
  exact hfacts

theorem PartlyDone.advance (hrow : row ∈ t.conversations) (hopen : row.consolidatedAt = none)
    (hnew : ∀ other ∈ done, other.id ≠ row.id) (hdone : PartlyDone outside worker done t) :
    PartlyDone outside worker (done ++ [row]) t' := by
  intro other hother
  rw [h.conversations] at hother
  obtain ⟨huntouched, hconsolidated⟩ := hdone other hother
  by_cases hid : other.id = row.id
  · have heq : other = row := Table.eq_of_key_eq hother hrow hid
    subst heq
    refine ⟨fun _ hnotdone => ?_, fun _ => ?_⟩
    · exact absurd rfl (hnotdone other (by simp))
    · exact (huntouched hopen hnew).advanced h
  · refine ⟨fun hwaiting hnotdone => ?_, fun hmarked => ?_⟩
    · exact h.untouched hid (huntouched hwaiting fun earlier hearlier =>
        hnotdone earlier (List.mem_append_left _ hearlier))
    · refine h.consolidated hid (hconsolidated (hmarked.imp_right ?_))
      rintro ⟨earlier, hearlier, hsame⟩
      rcases List.mem_append.mp hearlier with hold | hlast
      · exact ⟨earlier, hold, hsame⟩
      · rw [List.mem_singleton.mp hlast] at hsame
        exact absurd hsame.symm hid

theorem Advanced.factsKept : FactsKept outside worker row t' := by
  obtain ⟨added, hfacts, hadded, hrows⟩ := h.candidates
  intro fact hfact
  rw [extractedFacts_congr h.turns] at hfact
  obtain ⟨candidate, hcandidate, hof⟩ := exists_of_mem_forall₂ hfacts hfact
  refine ⟨candidate, ?_, hadded candidate hcandidate, ?_⟩
  · rw [Table.mem_def, hrows]
    exact List.mem_append_right _ hcandidate
  · rwa [sourceTurns_congr h.turns]

omit h in
theorem FactsKept.later (hkept : FactsKept outside worker other t) (hlater : Later t t') :
    FactsKept outside worker other t' := by
  intro fact hfact
  rw [extractedFacts_congr hlater.turns] at hfact
  obtain ⟨candidate, hcandidate, hid, hof⟩ := hkept fact hfact
  refine ⟨candidate, hlater.candidates candidate hcandidate ?_, hid, ?_⟩
  · intro haccepted
    obtain ⟨record, -, hrecord, -⟩ := hof.promoted haccepted
    rw [hrecord]
    exact Option.some_ne_none _
  · rw [sourceTurns_congr hlater.turns]
    exact hof.mono hlater.memories

omit h in
theorem NothingLost.later (hlost : NothingLost outside worker t) (hlater : Later t t') :
    NothingLost outside worker t' := by
  intro row hrow hmarked
  rw [hlater.conversations] at hrow
  exact (hlost row hrow hmarked).later hlater

end

theorem allOrNothing_iff {outside : Outside Unit} {worker : ConsolidationWorker} {t : Tables} :
    AllOrNothing outside worker t ↔ PartlyDone outside worker [] t := by
  unfold AllOrNothing PartlyDone
  simp

/-! ## The batch -/

/-- The conversations of a batch: they are there, wait for consolidation, and are different. -/
structure BatchSelected (t : Tables) (batch : List AssistantConversationRecord) : Prop where
  mem : ∀ row ∈ batch, row ∈ t.conversations
  waiting : ∀ row ∈ batch, row.consolidatedAt = none
  distinct : (batch.map (·.id)).Nodup

/-- Some more conversations of a batch are done. -/
structure BatchDone (outside : Outside Unit) (worker : ConsolidationWorker)
    (before after : List AssistantConversationRecord) (t : Tables) (recorded : Bool) (t' : Tables)
    (recorded' : Bool) : Prop where
  unrecorded : recorded' = false → recorded = false ∧ t' = t
  later : Later t t'
  kept : ∀ row ∈ after, FactsKept outside worker row t'
  partlyDone : PartlyDone outside worker before t → PartlyDone outside worker after t'

/-- Some conversations are marked, and nothing else is different. -/
structure Marked (rows : List AssistantConversationRecord) (t t' : Tables) : Prop where
  turns : t'.turns = t.turns
  candidates : t'.candidates = t.candidates
  memories : t'.memories = t.memories
  back : ∀ row' ∈ t'.conversations, ∃ row ∈ t.conversations, row.id = row'.id ∧
    row.ownerUserId = row'.ownerUserId ∧
    (row'.consolidatedAt = none ↔ row.consolidatedAt = none ∧ ∀ other ∈ rows, other.id ≠ row'.id)
  kept : ∀ row ∈ t.conversations, ∃ row' ∈ t'.conversations, row'.id = row.id

section

variable {outside : Outside Unit} {worker : ConsolidationWorker} {t t' : Tables} {recorded : Bool}
  {done rows batch : List AssistantConversationRecord}

theorem selected_of_outcome {locked : LockKey → LockMode → Bool} {cutoff : DateTime}
    {batchSize : Nat}
    {changes : List Change} (h : (selectConversationsForUpdate locked (idleConversations cutoff t)
      batchSize).outcome = .ok (batch, changes)) : BatchSelected t batch ∧ changes = [] := by
  unfold selectConversationsForUpdate at h
  cases h
  have hsub : ((idleConversations cutoff t).filter fun row =>
      !locked (.conversation row.id) .forUpdate).take batchSize |>.Sublist
        (idleConversations cutoff t) :=
    (List.take_sublist _ _).trans List.filter_sublist
  have hidle : ∀ row ∈ idleConversations cutoff t,
      row ∈ t.conversations ∧ row.consolidatedAt = none := by
    intro row hrow
    unfold idleConversations at hrow
    rw [List.mem_insertionSort, List.mem_filter, decide_eq_true_eq] at hrow
    exact ⟨hrow.1, hrow.2.1⟩
  refine ⟨⟨fun row hrow => (hidle row (hsub.subset hrow)).1,
    fun row hrow => (hidle row (hsub.subset hrow)).2, ?_⟩, rfl⟩
  have hdistinct : ((idleConversations cutoff t).map (·.id)).Nodup := by
    unfold idleConversations
    rw [((List.perm_insertionSort _ _).map _).nodup_iff]
    exact t.conversations.keys_nodup.sublist (List.filter_sublist.map _)
  exact hdistinct.sublist (hsub.map _)

theorem BatchSelected.later (h : BatchSelected t batch) (hlater : Later t t') :
    BatchSelected t' batch where
  mem := by
    rw [hlater.conversations]
    exact h.mem
  waiting := h.waiting
  distinct := h.distinct

theorem outline_conversations (draws : ConsolidationDraws)
    (done batch : List AssistantConversationRecord)
    (t : Tables) (recorded : Bool) (processed : Nat) (hselected : BatchSelected t (done ++ batch))
    (hkept : ∀ row ∈ done, FactsKept outside worker row t) :
    Outline (batchRely outside) () (InSession false t [] recorded)
      (Prog.foldEach batch processed fun processed conversation => do
        worker.consolidateConversation draws conversation
        return processed + 1)
      (okOr (fun _ h => ∃ t' recorded',
        BatchDone outside worker done (done ++ batch) t recorded t' recorded' ∧
        InSession false t' [] recorded' h) (Failed false t recorded)) := by
  induction batch generalizing done t recorded processed with
  | nil =>
    refine Outline.pure (fun h _ hin =>
      ⟨t, recorded, ⟨fun hnone => ⟨hnone, rfl⟩, .refl t, ?_, ?_⟩, hin⟩)
    · rwa [List.append_nil]
    · rw [List.append_nil]
      exact id
  | cons row rest ih =>
    have hround : Outline (batchRely outside) () (InSession false t [] recorded) (do
          worker.consolidateConversation draws row
          return processed + 1)
        (okOr (fun _ =>
          AdvancedTo worker row (sourceTurns row.id t) (extractedFacts outside row.id t) t
          recorded) (Failed false t recorded)) :=
      (outline_consolidateConversation draws row).bindOr
        (fun _ => Outline.pure fun _ _ hadvanced => hadvanced)
    refine hround.bindOr (fun processed' => ?_)
    refine Outline.of_exists (fun t₁ => Outline.of_exists (fun recorded₁ => Outline.of_and ?_))
    rintro ⟨hnone, hadvanced⟩
    have hlist : done ++ row :: rest = (done ++ [row]) ++ rest := by simp
    have hnew : ∀ other ∈ done, other.id ≠ row.id := by
      intro other hother heq
      have hdistinct := hselected.distinct
      rw [List.map_append, List.nodup_append] at hdistinct
      exact hdistinct.2.2 other.id (List.mem_map_of_mem hother) row.id (by simp) heq
    have hkept₁ : ∀ other ∈ done ++ [row], FactsKept outside worker other t₁ := by
      intro other hother
      rcases List.mem_append.mp hother with hold | hlast
      · exact (hkept other hold).later hadvanced.later
      · rw [List.mem_singleton.mp hlast]
        exact hadvanced.factsKept
    have hselected₁ : BatchSelected t₁ (done ++ [row] ++ rest) := by
      rw [← hlist]
      exact hselected.later hadvanced.later
    rw [hlist]
    refine (ih (done ++ [row]) t₁ recorded₁ processed' hselected₁ hkept₁).postOr ?_
      (fun _ hfailed => hfailed.after hadvanced.later hnone)
    rintro _ h ⟨t₂, recorded₂, hdone₂, hin⟩
    refine ⟨t₂, recorded₂, ⟨?_, hadvanced.later.trans hdone₂.later, hdone₂.kept, fun hpartly => ?_⟩,
      hin⟩
    · intro hrecorded
      obtain ⟨hrecorded₁, heq⟩ := hdone₂.unrecorded hrecorded
      exact ⟨(hnone hrecorded₁).1, heq.trans (hnone hrecorded₁).2⟩
    · exact hdone₂.partlyDone (hpartly.advance hadvanced (hselected.mem row (by simp))
        (hselected.waiting row (by simp)) hnew)

/-! ### The marks -/

theorem Marked.refl (t : Tables) : Marked [] t t where
  turns := rfl
  candidates := rfl
  memories := rfl
  back row hrow := ⟨row, hrow, rfl, rfl, by simp⟩
  kept row hrow := ⟨row, hrow, rfl⟩

theorem Marked.put {row other : AssistantConversationRecord} (hmarked : Marked rows t t')
    (hrow : row ∈ t'.conversations) (hother : other.id = row.id) (consolidatedAt : DateTime) :
    Marked (rows ++ [other]) t { t' with
      conversations := t'.conversations.put { row with consolidatedAt := some consolidatedAt }
      } where
  turns := hmarked.turns
  candidates := hmarked.candidates
  memories := hmarked.memories
  back row' hrow' := by
    rcases Table.mem_put.mp hrow' with rfl | ⟨hmem, hid⟩
    · obtain ⟨old, hold, hid, howner, -⟩ := hmarked.back row hrow
      refine ⟨old, hold, hid, howner, ?_⟩
      simp [hother]
    · obtain ⟨old, hold, hid', howner, hwaiting⟩ := hmarked.back row' hmem
      refine ⟨old, hold, hid', howner, hwaiting.trans ?_⟩
      have hne : other.id ≠ row'.id := hother ▸ Ne.symm hid
      simp only [List.forall_mem_append, List.forall_mem_singleton, hne, ne_eq, not_false_eq_true,
        and_true]
  kept row' hrow' := by
    obtain ⟨old, hold, hid⟩ := hmarked.kept row' hrow'
    by_cases heq : old.id = row.id
    · exact ⟨_, Table.mem_put.mpr (.inl rfl), heq.symm.trans hid⟩
    · exact ⟨old, Table.mem_put.mpr (.inr ⟨hold, heq⟩), hid⟩

/-- The marks of the conversations that are done. -/
theorem PartlyDone.marked (hdone : PartlyDone outside worker done t) (hmarked : Marked rows t t')
    (hrows : ∀ row, row ∈ rows ↔ row ∈ done) : AllOrNothing outside worker t' := by
  intro row' hrow'
  obtain ⟨row, hrow, hid, howner, hwaiting⟩ := hmarked.back row' hrow'
  obtain ⟨huntouched, hconsolidated⟩ := hdone row hrow
  rw [hid] at huntouched hconsolidated
  have hturns := sourceTurns_congr hmarked.turns row'.id
  simp only [hrows] at hwaiting
  refine ⟨fun hnone => ?_, fun hsome => ?_⟩
  · obtain ⟨hopen, hother⟩ := hwaiting.mp hnone
    obtain ⟨hcandidates, hmemories⟩ := huntouched hopen hother
    refine ⟨?_, ?_⟩
    · rw [hmarked.candidates, ← hid]
      exact hcandidates
    · rw [hmarked.memories, hturns, ← hid]
      exact hmemories
  · have hmarkedRow : row.consolidatedAt ≠ none ∨ ∃ other ∈ done, other.id = row'.id := by
      by_contra hneither
      rw [not_or, not_not] at hneither
      exact hsome (hwaiting.mpr ⟨hneither.1, fun other hother heq =>
        hneither.2 ⟨other, hother, heq⟩⟩)
    have hheld := hconsolidated hmarkedRow
    unfold Consolidated at hheld ⊢
    rw [hmarked.candidates, hturns, extractedFacts_congr hmarked.turns, ← howner, ← hid]
    refine hheld.imp (fun _ _ hcandidate => hcandidate.mono ?_)
    rw [hmarked.memories]
    exact fun record hrecord => ⟨record, hrecord, .refl record⟩

theorem outline_marks (draws : ConsolidationDraws) (before batch : List AssistantConversationRecord)
    (pending : List Change) (hmarked : Marked before t (afterChanges pending t))
    (hbatch : ∀ row ∈ batch, row ∈ t.conversations) :
    Outline (batchRely outside) () (InSession false t pending recorded)
      (Prog.forEach batch fun conversation =>
        inMain (ConsolidationWorker.flushMark draws conversation))
      (okOr (fun _ h => ∃ pending, Marked (before ++ batch) t (afterChanges pending t) ∧
        InSession false t pending recorded h) (Failed false t recorded)) := by
  induction batch generalizing before pending with
  | nil =>
    refine Outline.pure (fun h _ hin => ⟨pending, ?_, hin⟩)
    rwa [List.append_nil]
  | cons row rest ih =>
    have hmark : Outline (batchRely outside) () (InSession false t pending recorded)
        (inMain (ConsolidationWorker.flushMark draws row))
        (okOr (fun _ h => ∃ pending, Marked (before ++ [row]) t (afterChanges pending t) ∧
          InSession false t pending recorded h) (Failed false t recorded)) := by
      refine outline_main (outline_flushIn (outline_statementIn ?_))
      intro locked n changes h houtcome hin
      obtain ⟨kept, hkept, hid⟩ := hmarked.kept row (hbatch row (by simp))
      have hfind : (afterChanges pending t).conversations.find? row.id = some kept :=
        Table.find?_eq_some_iff.mpr ⟨hkept, hid⟩
      change (markConsolidated row.id (draws.markedAt row.id) (afterChanges pending t)).outcome = _
        at houtcome
      unfold markConsolidated at houtcome
      rw [hfind] at houtcome
      cases houtcome
      refine ⟨rfl, _, ?_, hin⟩
      have hput := hmarked.put hkept hid.symm (draws.markedAt row.id)
      have hafter : afterChanges (pending ++ [.conversation (.put { kept with
          consolidatedAt := some (draws.markedAt row.id) })]) t = { afterChanges pending t with
            conversations := (afterChanges pending t).conversations.put { kept with
              consolidatedAt := some (draws.markedAt row.id) } } := List.foldl_append
      rwa [hafter]
    refine hmark.bindOr (fun _ =>
      Outline.of_exists (fun pending' => Outline.of_and (fun hmarked' => ?_)))
    have hrest :=
      ih (before ++ [row]) pending' hmarked' (fun other hother => hbatch other (by simp [hother]))
    rwa [List.append_assoc, List.singleton_append] at hrest

/-- The marked conversations have their facts. -/
theorem NothingLost.marked (hlost : NothingLost outside worker t) (hselected : BatchSelected t done)
    (hkept : ∀ row ∈ done, FactsKept outside worker row t) (hmarked : Marked rows t t')
    (hrows : ∀ row, row ∈ rows ↔ row ∈ done) : NothingLost outside worker t' := by
  intro row' hrow' hsome
  obtain ⟨row, hrow, hid, howner, hwaiting⟩ := hmarked.back row' hrow'
  have hfacts : FactsKept outside worker row t := by
    by_cases hopen : row.consolidatedAt = none
    · have hdone : ¬ ∀ other ∈ rows, other.id ≠ row'.id :=
        fun hnone => hsome (hwaiting.mpr ⟨hopen, hnone⟩)
      push Not at hdone
      obtain ⟨other, hother, hsame⟩ := hdone
      have hin := (hrows other).mp hother
      have heq : other = row :=
        Table.eq_of_key_eq (hselected.mem other hin) hrow (hsame.trans hid.symm)
      exact heq ▸ hkept other hin
    · exact hlost row hrow hopen
  intro fact hfact
  rw [extractedFacts_congr hmarked.turns, ← hid] at hfact
  obtain ⟨candidate, hcandidate, hconversation, hof⟩ := hfacts fact hfact
  refine ⟨candidate, by rwa [hmarked.candidates], hconversation.trans hid, ?_⟩
  rw [sourceTurns_congr hmarked.turns, ← howner, ← hid]
  refine hof.mono (fun record hrecord => ⟨record, ?_, .refl record⟩)
  rwa [hmarked.memories]

/-! ### A run -/

/-- What a run does to the tables, with some changes left in the session of the worker. -/
def Kept (outside : Outside Unit) (worker : ConsolidationWorker) (t : Tables) (h : Batch) : Prop :=
  ∃ t' pending recorded, InSession false t' pending recorded h ∧
    (NothingLost outside worker t → NothingLost outside worker t') ∧
    (h.broken = false → AllOrNothing outside worker t → AllOrNothing outside worker t')

theorem Failed.kept {h : Batch} (hfailed : Failed false t' recorded h)
    (hlost : NothingLost outside worker t → NothingLost outside worker t')
    (hall : recorded = false → AllOrNothing outside worker t → AllOrNothing outside worker t') :
    Kept outside worker t h := by
  obtain ⟨t'', pending, recorded', hin, hlater, hnone⟩ := hfailed
  refine ⟨t'', pending, recorded', hin, fun hstart => (hlost hstart).later hlater, ?_⟩
  intro hunbroken hstart
  obtain ⟨-, hrecorded, rfl⟩ := hnone hunbroken
  exact hall hrecorded hstart

theorem outline_consolidateBatch (draws : ConsolidationDraws) (t : Tables) :
    Outline (batchRely outside) () (InSession false t [] false) (worker.consolidateBatch draws)
      (fun _ => Kept outside worker t) := by
  have hbatch : Outline (batchRely outside) () (InSession false t [] false)
      (worker.consolidateBatch draws)
          (okOr (fun _ => Kept outside worker t) (Kept outside worker t)) := by
    unfold ConsolidationWorker.consolidateBatch
    refine Outline.bindOr (Outline.postOr (outline_main (outline_statementIn (Q := fun batch h =>
      BatchSelected t batch ∧ InSession false t [] false h) ?_)) (fun _ _ hQ => hQ)
        (fun _ hfailed => hfailed.kept id fun _ => id)) (fun batch => ?_)
    · intro locked batch changes h houtcome hin
      obtain ⟨hselected, rfl⟩ := selected_of_outcome houtcome
      exact ⟨hselected, hin⟩
    refine Outline.of_and (fun hselected => ?_)
    refine Outline.bindOr (Outline.postOr (outline_conversations draws [] batch t false 0 hselected
      (fun row hrow => absurd hrow List.not_mem_nil)) (fun _ _ hQ => hQ)
        (fun _ hfailed => hfailed.kept id fun _ => id)) (fun processed => ?_)
    refine Outline.of_exists (fun t₁ => Outline.of_exists (fun recorded₁ => Outline.of_and ?_))
    intro hdone
    have hlost : NothingLost outside worker t → NothingLost outside worker t₁ :=
      fun hstart => hstart.later hdone.later
    have hunrecorded : recorded₁ = false → AllOrNothing outside worker t →
        AllOrNothing outside worker t₁ := by
      intro hrecorded hstart
      rwa [(hdone.unrecorded hrecorded).2]
    have hrows : ∀ row, row ∈ ConsolidationWorker.flushOrder batch ↔ row ∈ batch := by
      intro row
      exact List.mem_insertionSort _
    have hselected₁ : BatchSelected t₁ batch := hselected.later hdone.later
    refine Outline.bindOr
      (Outline.postOr (outline_marks draws [] (ConsolidationWorker.flushOrder batch) []
      (Marked.refl t₁) (fun row hrow => hselected₁.mem row ((hrows row).mp hrow)))
        (fun _ _ hQ => hQ)
        (fun _ hfailed => hfailed.kept hlost hunrecorded)) (fun _ => ?_)
    refine Outline.of_exists (fun pending => Outline.of_and (fun hmarked => ?_))
    have hmarkedLost : NothingLost outside worker t →
        NothingLost outside worker (afterChanges pending t₁) :=
      fun hstart => (hlost hstart).marked hselected₁ hdone.kept hmarked hrows
    have hmarkedAll : AllOrNothing outside worker t →
        AllOrNothing outside worker (afterChanges pending t₁) :=
      fun hstart => (hdone.partlyDone (allOrNothing_iff.mp hstart)).marked hmarked hrows
    refine Outline.bindOr (Outline.postOr (outline_main (outline_commitIn (fun _ hin => hin)))
      (fun _ _ hQ => hQ) ?_)
      (fun _ => Outline.pure fun h _ hin => ⟨_, [], _, hin, hmarkedLost, fun _ => hmarkedAll⟩)
    rintro h (⟨hin, hnone⟩ | ⟨hin, -⟩)
    · exact ⟨t₁, pending, _, hin, hlost, fun hunbroken => hunrecorded (hnone hunbroken)⟩
    · exact ⟨_, [], _, hin, hmarkedLost, fun _ => hmarkedAll⟩
  refine hbatch.post ?_
  intro r h _ hr
  cases r with
  | ok a => exact hr
  | error e => exact hr

/-- What a run leaves, with nothing pending. -/
def Ended (outside : Outside Unit) (worker : ConsolidationWorker) (t : Tables) (h : Batch) : Prop :=
  ∃ t' recorded, InSession false t' [] recorded h ∧
    (NothingLost outside worker t → NothingLost outside worker t') ∧
    (h.broken = false → AllOrNothing outside worker t → AllOrNothing outside worker t')

theorem outline_consolidateOnce (draws : ConsolidationDraws) (t : Tables) :
    Outline (batchRely outside) () (InSession false t [] false) (worker.consolidateOnce draws)
      (fun _ => Ended outside worker t) := by
  unfold ConsolidationWorker.consolidateOnce
  refine (outline_consolidateBatch draws t).attemptOr.bind (fun result => ?_)
    (fun _ _ _ hfalse => hfalse.elim)
  have hrollback :
      Outline (batchRely outside) () (Kept outside worker t) (inMain (send .rollback)).attempt
      (okOr (fun _ => Ended outside worker t) (fun _ => False)) := by
    refine (outline_main (outline_rollbackIn (Q := Ended outside worker t) ?_)).attempt ?_
    · rintro h ⟨t', pending, recorded, hin, hlost, hall⟩
      exact ⟨t', pending, recorded, hin, fun h' hin' hbroken =>
        ⟨t', recorded, hin', hlost, fun hunbroken => hall (hbroken hunbroken)⟩⟩
    · intro reply h _ hended
      cases reply with
      | ok a => exact hended
      | error e => exact hended
  exact hrollback.bind (fun _ => Outline.ofExcept fun _ _ hended => hended)
    (fun _ _ _ hfalse => hfalse.elim)

/-- Nothing is pending in either session of the process. -/
structure Closed (w : World (Unit × Bool)) : Prop where
  main : w.server.changes ((), false) = []
  nested : w.server.changes ((), true) = []

theorem EndOfRun.ended {w : World (Unit × Bool)} {c : BatchSystem}
    (hrun : EndOfRun outside worker w c) (hclosed : Closed w) :
    Closed c.world.world ∧ Ended outside worker w.server.committed c.world := by
  obtain ⟨draws, hsteps⟩ := hrun.steps
  obtain ⟨r, hdone⟩ := hrun.done
  have hcovered : Covered (batchRely outside) (fun _ _ => Ended outside worker w.server.committed)
      (⟨{ world := w }, fun _ => worker.consolidateOnce draws⟩ : BatchSystem) := by
    refine ⟨trivial, fun i =>
      ⟨InSession false w.server.committed [] false, stable_of_subsingleton _,
      ?_, outline_consolidateOnce draws w.server.committed⟩⟩
    exact ⟨rfl, hclosed.main, hclosed.nested, rfl⟩
  obtain ⟨t, recorded, hin, hkept⟩ := (hcovered.steps hsteps).result hdone
  exact ⟨⟨hin.pending, hin.other⟩, t, recorded, hin, hkept⟩

/-- Whatever calls fail in any number of runs, a marked conversation has its facts. -/
theorem consolidationRuns_nothingLost (outside : Outside Unit) (worker : ConsolidationWorker)
    {t : Tables} (x : VectorIndex) (hstart : NothingLost outside worker t) {w : World (Unit × Bool)}
    (hruns : Relation.ReflTransGen (ConsolidationRun outside worker) (World.idle t x) w) :
    NothingLost outside worker w.server.committed := by
  have hkept : Closed w ∧ NothingLost outside worker w.server.committed := by
    induction hruns with
    | refl => exact ⟨⟨rfl, rfl⟩, hstart⟩
    | tail _ hrun ih =>
      obtain ⟨c, hend, rfl⟩ := hrun
      obtain ⟨hclosed, t', recorded, hin, hlost, -⟩ := hend.ended ih.1
      exact ⟨hclosed, hin.committed ▸ hlost ih.2⟩
  exact hkept.2

/-- After any number of runs in which no call failed after the first candidate, every conversation
is consolidated or untouched. -/
theorem consolidationRuns_allOrNothing (outside : Outside Unit) (worker : ConsolidationWorker)
    {t : Tables} (x : VectorIndex) (hstart : AllOrNothing outside worker t)
    {w : World (Unit × Bool)}
    (hruns : Relation.ReflTransGen (UnbrokenRun outside worker) (World.idle t x) w) :
    AllOrNothing outside worker w.server.committed := by
  have hkept : Closed w ∧ AllOrNothing outside worker w.server.committed := by
    induction hruns with
    | refl => exact ⟨⟨rfl, rfl⟩, hstart⟩
    | tail _ hrun ih =>
      obtain ⟨c, hend, hunbroken, rfl⟩ := hrun
      obtain ⟨hclosed, t', recorded, hin, -, hall⟩ := hend.ended ih.1
      exact ⟨hclosed, hin.committed ▸ hall hunbroken ih.2⟩
  exact hkept.2

end

/-! ## A conversation about units -/


/-- One conversation of two turns, which nobody has consolidated. -/
def unitsTables : Tables :=
  { Tables.empty with
    conversations := Table.empty.put ⟨.ofNat 1, .ofNat 10, 0, 0, 2, none, none⟩
    turns := (Table.empty.put
      ⟨.ofNat 100, .ofNat 1, .ofNat 10, "user", "Metric units, please.", 0, none⟩).put
      ⟨.ofNat 101, .ofNat 1, .ofNat 10, "assistant", "Noted.", 1, none⟩ }

def unitsFact : ExtractedFact :=
  ⟨"The operator prefers metric units.", "preference", [.ofNat 100], [], true⟩

def unitsOutside : Outside Unit := ⟨fun _ _ => [unitsFact], fun _ _ => []⟩

def unitsWorker : ConsolidationWorker where
  factPolicy := ⟨.ascii, 500, []⟩
  candidateStore := ⟨.ascii, id, 30⟩
  memoryStore := ⟨.ascii, id, "text-embedding-3-small", "user-memory", "documents"⟩
  toolPermissionsByName := []
  idleMinutes := 30

def unitsDraws : ConsolidationDraws where
  now := ConsolidationWorker.minutes 60
  evaluatedAt := fun _ => ConsolidationWorker.minutes 60
  markedAt := fun _ => ConsolidationWorker.minutes 60
  candidateId := fun _ _ => .ofNat 400
  recordedAt := fun _ _ => ConsolidationWorker.minutes 60
  memoryId := fun _ _ => .ofNat 300
  promotedAt := fun _ _ => ConsolidationWorker.minutes 60

/-- The next run has new ids. -/
def retryDraws : ConsolidationDraws :=
  { unitsDraws with candidateId := fun _ _ => .ofNat 401, memoryId := fun _ _ => .ofNat 301 }

def unitsStart : BatchSystem :=
  ⟨{ world := World.idle unitsTables .empty }, fun _ => unitsWorker.consolidateOnce unitsDraws⟩

theorem allOrNothing_unitsTables : AllOrNothing unitsOutside unitsWorker unitsTables := by
  intro row hrow
  have heq : row = ⟨.ofNat 1, .ofNat 10, 0, 0, 2, none, none⟩ := List.mem_singleton.mp hrow
  subst heq
  refine ⟨fun _ => ⟨?_, ?_⟩, fun hmarked => absurd rfl hmarked⟩
  · exact fun candidate hcandidate => absurd hcandidate List.not_mem_nil
  · exact fun record hrecord => absurd hrecord List.not_mem_nil

theorem nothingLost_unitsTables : NothingLost unitsOutside unitsWorker unitsTables := by
  intro row hrow hmarked
  have heq : row = ⟨.ofNat 1, .ofNat 10, 0, 0, 2, none, none⟩ := List.mem_singleton.mp hrow
  exact absurd (congrArg AssistantConversationRecord.consolidatedAt heq) hmarked

/-- Every call arrives, and the conversation is marked. -/
def unitsRun : Option BatchSystem :=
  runSchedule (watchedExec unitsOutside) always (List.replicate 18 ((), .arrives)) unitsStart

theorem allOrNothing_unitsRun : ∃ w,
    Relation.ReflTransGen (UnbrokenRun unitsOutside unitsWorker) (World.idle unitsTables .empty) w ∧
    AllOrNothing unitsOutside unitsWorker w.server.committed ∧
    ∃ row ∈ w.server.committed.conversations, row.consolidatedAt ≠ none := by
  have hrun :
      unitsRun.any (fun c => decide ((c.programs ()).result? = some 1 ∧ c.world.broken = false) &&
      c.world.world.server.committed.conversations.rows.any (fun row =>
        decide (row.consolidatedAt ≠ none))) = true := by
    decide +kernel
  rw [Option.any_eq_true] at hrun
  obtain ⟨c, hc, hfacts⟩ := hrun
  rw [Bool.and_eq_true] at hfacts
  obtain ⟨hresult, hunbroken⟩ := of_decide_eq_true hfacts.1
  obtain ⟨row, hrow, hmarked⟩ := List.any_eq_true.mp hfacts.2
  have hend : EndOfRun unitsOutside unitsWorker (World.idle unitsTables .empty) c :=
    ⟨⟨unitsDraws, steps_of_runSchedule hc⟩, _, Prog.result?_eq_some.mp hresult⟩
  have hruns : Relation.ReflTransGen (UnbrokenRun unitsOutside unitsWorker)
      (World.idle unitsTables .empty) c.world.world := .single ⟨c, hend, hunbroken, rfl⟩
  exact ⟨_, hruns, consolidationRuns_allOrNothing unitsOutside unitsWorker .empty
    allOrNothing_unitsTables hruns, row, hrow, of_decide_eq_true hmarked⟩

/-- The commit of the marks is lost, and a second run marks the conversation. -/
def retriedRun : Option (BatchSystem × BatchSystem) :=
  (runSchedule (watchedExec unitsOutside) always (List.replicate 16 ((), .arrives) ++
    [((), .lost (.runtimeError "connection closed")), ((), .arrives)]) unitsStart).bind fun c =>
      (runSchedule (watchedExec unitsOutside) always (List.replicate 17 ((), .arrives))
        ⟨{ world := c.world.world }, fun _ => unitsWorker.consolidateOnce retryDraws⟩).map fun c' =>
          (c, c')

/-- After the first run the candidate stays, and the conversation is not marked. After the second it
is marked and has two candidates. -/
theorem nothingLost_retriedRun : ∃ w w',
    ConsolidationRun unitsOutside unitsWorker (World.idle unitsTables .empty) w ∧
    ¬ AllOrNothing unitsOutside unitsWorker w.server.committed ∧
    ConsolidationRun unitsOutside unitsWorker w w' ∧
    NothingLost unitsOutside unitsWorker w'.server.committed ∧
    (∃ row ∈ w'.server.committed.conversations, row.consolidatedAt ≠ none) ∧
    w'.server.committed.candidates.rows.length = 2 := by
  have hrun : retriedRun.any (fun ends => decide ((ends.1.programs ()).error?.isSome ∧
      (ends.2.programs ()).result? = some 1 ∧
        ends.2.world.world.server.committed.candidates.rows.length = 2) &&
      ends.1.world.world.server.committed.conversations.rows.any (fun row =>
        decide (row.consolidatedAt = none ∧
          ∃ candidate ∈ ends.1.world.world.server.committed.candidates.rows,
            candidate.conversationId = row.id)) &&
      ends.2.world.world.server.committed.conversations.rows.any (fun row =>
        decide (row.consolidatedAt ≠ none))) = true := by
    decide +kernel
  rw [Option.any_eq_true] at hrun
  obtain ⟨⟨c, c'⟩, hsome, hfacts⟩ := hrun
  unfold retriedRun at hsome
  rw [Option.bind_eq_some_iff] at hsome
  obtain ⟨c₀, hc, hrest⟩ := hsome
  rw [Option.map_eq_some_iff] at hrest
  obtain ⟨c₁, hc', heq⟩ := hrest
  cases heq
  rw [Bool.and_eq_true, Bool.and_eq_true] at hfacts
  obtain ⟨herror, hresult, htwo⟩ := of_decide_eq_true hfacts.1.1
  obtain ⟨e, he⟩ := Option.isSome_iff_exists.mp herror
  obtain ⟨row, hrow, hleft⟩ := List.any_eq_true.mp hfacts.1.2
  obtain ⟨row', hrow', hmarked⟩ := List.any_eq_true.mp hfacts.2
  obtain ⟨hopen, candidate, hcandidate, hof⟩ := of_decide_eq_true hleft
  have hfirst :
      ConsolidationRun unitsOutside unitsWorker (World.idle unitsTables .empty) c.world.world :=
    ⟨c, ⟨⟨unitsDraws, steps_of_runSchedule hc⟩, _, Prog.error?_eq_some.mp he⟩, rfl⟩
  have hsecond : ConsolidationRun unitsOutside unitsWorker c.world.world c'.world.world :=
    ⟨c', ⟨⟨retryDraws, steps_of_runSchedule hc'⟩, _, Prog.result?_eq_some.mp hresult⟩, rfl⟩
  refine ⟨_, _, hfirst, fun hall =>
    ((hall row hrow).1 hopen).candidates candidate hcandidate hof, hsecond,
    consolidationRuns_nothingLost unitsOutside unitsWorker .empty nothingLost_unitsTables
      (.tail (.single hfirst) hsecond), ⟨row', hrow', of_decide_eq_true hmarked⟩, htwo⟩

end HotAirBalloon.Memory
