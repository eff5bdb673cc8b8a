import HotAirBalloon.Agent.Queries

/-!
# Follow-up questions

An answer of the agent leaves its evidence with the conversation. The next question of the same user
in the same conversation is answered from that evidence, by the reference resolver and without the
agent, when it parses to a request that the evidence resolves (`followUp_answered`).
-/

namespace HotAirBalloon.Agent

open Python Library Kernel Evidence Memory User Context

/-! ## Conversations -/

def StoreOp.conversationId : StoreOp → Uuid
  | claimOrValidate conversationId .. => conversationId
  | readRecent conversationId .. => conversationId
  | readRecentEvidence conversationId .. => conversationId
  | appendCompletedExchange conversationId .. => conversationId

/-- The store is asked for one conversation only. -/
def QueryOp.Within (conversationId : Uuid) : QueryOp → Prop
  | store op => op.conversationId = conversationId
  | agent _ => True

variable {A : Type} {agents : AgentPorts A} {memory memory' : InMemoryConversationStore} {a a' : A}
  {conversationId ownerUserId : Uuid}

/-! ## Queries over the in-memory store -/

section

variable {α : Type} {op : StoreOp} {f : op.Reply → Query α}

/-- A query that returns goes on with what the store replies. -/
theorem returned_askStore {r : α}
    (h : ((askStore op >>= f).answered (inMemoryPorts agents) (memory, a)).1 = .ok r) :
    ∃ reply memory', inMemoryStore op memory = (.ok reply, memory') ∧
      (askStore op >>= f).answered (inMemoryPorts agents) (memory, a) =
        (f reply).answered (inMemoryPorts agents) (memory', a) ∧
      (askStore op >>= f).asked (inMemoryPorts agents) (memory, a) =
        .store op :: (f reply).asked (inMemoryPorts agents) (memory', a) := by
  obtain ⟨reply, hreply⟩ := Prog.exists_reply h
  have hfirst : (inMemoryStore op memory).1 = .ok reply := congrArg Prod.fst hreply
  exact ⟨reply, (inMemoryStore op memory).2, Prod.ext hfirst rfl, Prog.answered_perform hreply,
    Prog.asked_perform hreply⟩

/-- A reply of the store, in a query. -/
theorem goesOn_askStore {reply : op.Reply} (h : inMemoryStore op memory = (.ok reply, memory')) :
    (askStore op >>= f).answered (inMemoryPorts agents) (memory, a) =
        (f reply).answered (inMemoryPorts agents) (memory', a) ∧
      (askStore op >>= f).asked (inMemoryPorts agents) (memory, a) =
        .store op :: (f reply).asked (inMemoryPorts agents) (memory', a) := by
  have hreply : inMemoryPorts agents (.store op) (memory, a) = (.ok reply, (memory', a)) := by
    unfold inMemoryPorts
    dsimp only
    rw [h]
    rfl
  exact ⟨Prog.answered_perform hreply, Prog.asked_perform hreply⟩

end

/-- A query that returns goes on with what a port of the agent replies; the store stays as it is. -/
theorem returned_askAgent {α : Type} {op : AgentOp} {f : op.Reply → Query α} {r : α}
    (h : ((askAgent op >>= f).answered (inMemoryPorts agents) (memory, a)).1 = .ok r) :
    ∃ reply a', (askAgent op >>= f).answered (inMemoryPorts agents) (memory, a) =
        (f reply).answered (inMemoryPorts agents) (memory, a') ∧
      (askAgent op >>= f).asked (inMemoryPorts agents) (memory, a) =
        .agent op :: (f reply).asked (inMemoryPorts agents) (memory, a') := by
  obtain ⟨reply, hreply⟩ := Prog.exists_reply h
  exact ⟨reply, (agents op a).2, Prog.answered_perform hreply, Prog.asked_perform hreply⟩

/-- The conversation is the owner's, with some more evidence. -/
structure Grown (conversationId ownerUserId : Uuid) (more : List ConversationEvidenceSnapshot)
    (memory memory' : InMemoryConversationStore) : Prop where
  owned : memory'.owners conversationId = some ownerUserId
  evidence : memory'.evidence conversationId = memory.evidence conversationId ++ more

/-- Claiming a conversation adds no evidence. -/
theorem grown_claim {claimed : InMemoryConversationStore}
    (h : memory.claimOrValidateIn conversationId ownerUserId = .ok claimed) :
    Grown conversationId ownerUserId [] memory claimed := by
  unfold InMemoryConversationStore.claimOrValidateIn at h
  split at h
  · cases h
    exact ⟨Function.update_self .., (List.append_nil _).symm⟩
  · split at h
    · cases h
    · rename_i existing hfind hsame
      cases h
      rw [not_not] at hsame
      exact ⟨by rw [hfind, hsame], (List.append_nil _).symm⟩

/-- An append adds the evidence that comes with it. -/
theorem grown_append {userTurn assistantTurn : ConversationTurn}
    {evidence : Option ConversationEvidenceSnapshot}
    (h : memory.appendCompletedExchange conversationId ownerUserId userTurn assistantTurn evidence =
      .ok memory') : Grown conversationId ownerUserId evidence.toList memory memory' := by
  unfold InMemoryConversationStore.appendCompletedExchange at h
  split at h
  · cases h
  obtain ⟨claimed, hclaimed, happended⟩ := except_bind_eq_ok.mp h
  obtain ⟨howned, hevidence⟩ := grown_claim hclaimed
  rw [InMemoryConversationStore.trim_extendTurns] at happended
  cases evidence with
  | none =>
    cases happended
    exact ⟨howned, hevidence⟩
  | some snapshot =>
    cases happended
    refine ⟨howned, ?_⟩
    rw [List.append_nil] at hevidence
    exact (Function.update_self ..).trans (congrArg (· ++ [snapshot]) hevidence)

/-- The conversation is the owner's already. -/
theorem claim_of_owned (howned : memory.owners conversationId = some ownerUserId) :
    memory.claimOrValidateIn conversationId ownerUserId = .ok memory := by
  unfold InMemoryConversationStore.claimOrValidateIn
  rw [howned]
  exact if_neg (not_not.mpr rfl)

/-- The owner may append an exchange to the conversation. -/
theorem append_of_owned (howned : memory.owners conversationId = some ownerUserId)
    (userTurn assistantTurn : ConversationTurn) (huser : userTurn.role = "user")
    (hassistant : assistantTurn.role = "assistant")
    (evidence : Option ConversationEvidenceSnapshot) :
    ∃ after,
      memory.appendCompletedExchange conversationId ownerUserId userTurn assistantTurn evidence =
      .ok after := by
  unfold InMemoryConversationStore.appendCompletedExchange
  rw [if_neg (by simp [huser, hassistant]), claim_of_owned howned]
  cases evidence with
  | none => exact ⟨_, rfl⟩
  | some snapshot => exact ⟨_, rfl⟩

theorem keeping_eq_ok {operation : Except PyError InMemoryConversationStore}
    (h : keeping memory operation = (.ok (), memory')) : operation = .ok memory' := by
  cases operation with
  | error e => cases h
  | ok after =>
    cases h
    rfl

section

variable {useCase : OrchestrateAssistantQuery} {command : AssistantQueryCommand}
  {exchange : Exchange} {response : AssistantQueryResponse}

/-- What a query that returns has done to its conversation. -/
def Grows (agents : AgentPorts A) (exchange : Exchange)
    (program : Query AssistantQueryResponse) : Prop :=
  ∀ memory a response, (program.answered (inMemoryPorts agents) (memory, a)).1 = .ok response →
    Grown exchange.conversationId exchange.ownerUserId
      (appendedSnapshots (program.asked (inMemoryPorts agents) (memory, a))) memory
      (program.answered (inMemoryPorts agents) (memory, a)).2.1

/-- An exchange that is appended adds its evidence. -/
theorem grows_append (answer : String) (evidence : Option ConversationEvidenceSnapshot) :
    Grows agents exchange
      (OrchestrateAssistantQuery.appendExchange exchange answer evidence >>= fun _ =>
        pure response) := by
  intro memory a _ h
  let op := StoreOp.appendCompletedExchange exchange.conversationId exchange.ownerUserId
    exchange.userTurn ⟨"assistant", answer, exchange.answeredAt⟩ evidence exchange.userTurnId
    exchange.assistantTurnId exchange.evidenceId
  obtain ⟨_, memory', hreply, hanswered, hasked⟩ := returned_askStore h
  have hgrown := grown_append (keeping_eq_ok hreply)
  have hends : (OrchestrateAssistantQuery.appendExchange exchange answer evidence >>= fun _ =>
      pure response).answered (inMemoryPorts agents) (memory, a) =
        (.ok response, (memory', a)) := hanswered
  have hasks : (OrchestrateAssistantQuery.appendExchange exchange answer evidence >>= fun _ =>
      (pure response : Query _)).asked (inMemoryPorts agents) (memory, a) = [.store op] := hasked
  rw [hends, hasks]
  cases evidence with
  | none => exact hgrown
  | some snapshot => exact hgrown

/-- An operation that reads the store comes before. -/
theorem grows_read {op : StoreOp} {f : op.Reply → Query AssistantQueryResponse}
    (hsnapshots : op.drawn.1.snapshots op.drawn.2 = [])
    (hreads : ∀ memory, (inMemoryStore op memory).2 = memory)
    (hf : ∀ reply, Grows agents exchange (f reply)) :
    Grows agents exchange (askStore op >>= f) := by
  intro memory a response h
  obtain ⟨reply, memory', hreply, hanswered, hasked⟩ := returned_askStore h
  obtain rfl : memory' = memory := by
    rw [← hreads memory, hreply]
  rw [hanswered] at h ⊢
  rw [hasked]
  have happended :
      appendedSnapshots (.store op :: (f reply).asked (inMemoryPorts agents) (memory', a)) =
      appendedSnapshots ((f reply).asked (inMemoryPorts agents) (memory', a)) := by
    change List.map Prod.snd (op.drawn.1.snapshots op.drawn.2 ++ _) = _
    rw [hsnapshots]
    rfl
  rw [happended]
  exact hf reply memory' a response h

/-- An operation of the agent's ports comes before. -/
theorem grows_askAgent {op : AgentOp} {f : op.Reply → Query AssistantQueryResponse}
    (hf : ∀ reply, Grows agents exchange (f reply)) :
    Grows agents exchange (askAgent op >>= f) := by
  intro memory a response h
  obtain ⟨reply, a', hanswered, hasked⟩ := returned_askAgent h
  rw [hanswered] at h ⊢
  rw [hasked]
  exact hf reply memory a' response h

/-- The agent does not touch the store. -/
theorem store_runAgent (context : AssembledContext) :
    ((useCase.runAgent command exchange context).answered (inMemoryPorts agents) (memory, a)).2.1 =
      memory := by
  unfold OrchestrateAssistantQuery.runAgent
  have hrun :
      ∀ (reply : Except PyError (List ToolDescriptor)) (f : List ToolDescriptor → AgentRequest) a',
      (((Prog.done reply : Query _) >>= fun tools => askAgent (.run (f tools))).answered
        (inMemoryPorts agents) (memory, a')).2.1 = memory := by
    intro reply f a'
    cases reply with
    | error e => rfl
    | ok tools => rfl
  exact hrun (agents (.listTools command.authorizationContext) a).1 _ _

/-- A run of the agent comes before. -/
theorem grows_runAgent (context : AssembledContext)
    {f : Except PyError AgentRunResult → Query AssistantQueryResponse}
    (hf : ∀ r, Grows agents exchange (f r)) :
    Grows agents exchange ((useCase.runAgent command exchange context).attempt >>= f) := by
  intro memory a response h
  have hcalls : storeCalls ((useCase.runAgent command exchange context).asked (inMemoryPorts agents)
      (memory, a)) = [] := storeCalls_runAgent useCase command context
  have hstore : ((useCase.runAgent command exchange context).answered (inMemoryPorts agents)
      (memory, a)).2.1 = memory := store_runAgent context
  rw [Prog.answered_bind_ok Prog.answered_attempt] at h ⊢
  rw [Prog.asked_bind_ok Prog.answered_attempt, Prog.asked_attempt]
  unfold appendedSnapshots
  rw [storeCalls_append, hcalls, List.nil_append]
  revert h hstore
  rcases (useCase.runAgent command exchange context).answered (inMemoryPorts agents)
    (memory, a) with
    ⟨r, memory', a'⟩
  rintro h rfl
  exact hf r memory' a' response h

theorem grows_answerReference (reference : ResolvedReference)
    (formatters : FieldValueFormatterRegistry) : Grows agents exchange
      (OrchestrateAssistantQuery.answerReference exchange reference formatters) := by
  unfold OrchestrateAssistantQuery.answerReference
  cases formatters.format (FieldQueryExecutor.execute reference) with
  | error e => exact fun _ _ _ h => by cases h
  | ok answer => exact grows_append answer none

theorem grows_answerByAgent (history : List ConversationTurn)
    (recentEvidence : List ConversationEvidenceSnapshot) :
    Grows agents exchange (useCase.answerByAgent command exchange history recentEvidence) := by
  unfold OrchestrateAssistantQuery.answerByAgent
  refine grows_askAgent (fun context => grows_runAgent context ?_)
  intro r
  cases r with
  | error e => exact fun _ _ _ h => by cases h
  | ok run => exact grows_append run.answer _

theorem grows_answerClaimed (useCase : OrchestrateAssistantQuery) (command : AssistantQueryCommand)
    (draws : QueryDraws) :
    Grows agents (useCase.exchange command draws) (useCase.answerClaimed command draws) := by
  unfold OrchestrateAssistantQuery.answerClaimed
  refine grows_read rfl (fun _ => rfl) (fun history => grows_read rfl (fun _ => rfl) ?_)
  intro recentEvidence
  cases useCase.reference command.query recentEvidence with
  | error e => exact fun _ _ _ h => by cases h
  | ok reference =>
    cases reference with
    | none => exact grows_answerByAgent history recentEvidence
    | some reference => exact grows_answerReference reference.1 reference.2

/-- A query that returns has its conversation, and has added the evidence that it appends. -/
theorem grows_execute (useCase : OrchestrateAssistantQuery) (command : AssistantQueryCommand)
    (draws : QueryDraws) :
    Grows agents (useCase.exchange command draws) (useCase.execute command draws) := by
  intro memory a response h
  unfold OrchestrateAssistantQuery.execute at h ⊢
  obtain ⟨_, claimed, hclaim, hanswered, hasked⟩ := returned_askStore h
  obtain ⟨-, hevidence⟩ := grown_claim (keeping_eq_ok hclaim)
  rw [hanswered] at h ⊢
  rw [hasked]
  obtain ⟨howned, hgrown⟩ := grows_answerClaimed useCase command draws claimed a response h
  rw [hevidence, List.append_nil] at hgrown
  exact ⟨howned, hgrown⟩

end

/-! ## Other conversations -/

/-- What a store has of a conversation: its owner and its evidence. -/
def kept (conversationId : Uuid) (memory : InMemoryConversationStore) :
    Option Uuid × List ConversationEvidenceSnapshot :=
  (memory.owners conversationId, memory.evidence conversationId)

theorem kept_claim {other : Uuid} (h : other ≠ conversationId)
    (hclaim : memory.claimOrValidateIn conversationId ownerUserId = .ok memory') :
    kept other memory' = kept other memory := by
  unfold InMemoryConversationStore.claimOrValidateIn at hclaim
  split at hclaim
  · cases hclaim
    exact Prod.ext (Function.update_of_ne h ..) rfl
  · split at hclaim
    · cases hclaim
    · cases hclaim
      rfl

theorem kept_append {other : Uuid} {userTurn assistantTurn : ConversationTurn}
    {evidence : Option ConversationEvidenceSnapshot} (h : other ≠ conversationId)
    (happend : memory.appendCompletedExchange conversationId ownerUserId userTurn
      assistantTurn evidence = .ok memory') : kept other memory' = kept other memory := by
  unfold InMemoryConversationStore.appendCompletedExchange at happend
  split at happend
  · cases happend
  obtain ⟨claimed, hclaimed, happended⟩ := except_bind_eq_ok.mp happend
  rw [InMemoryConversationStore.trim_extendTurns] at happended
  rw [← kept_claim h hclaimed]
  cases evidence with
  | none =>
    cases happended
    rfl
  | some snapshot =>
    cases happended
    exact Prod.ext rfl (Function.update_of_ne h ..)

theorem kept_keeping {other : Uuid} {operation : Except PyError InMemoryConversationStore}
    (h : ∀ after, operation = .ok after → kept other after = kept other memory) :
    kept other (keeping memory operation).2 = kept other memory := by
  cases operation with
  | error e => rfl
  | ok after => exact h after rfl

/-- An operation in one conversation leaves the others as they are. -/
theorem kept_inMemoryPorts {other : Uuid} (h : other ≠ conversationId) {op : QueryOp}
    (hop : op.Within conversationId) (s : InMemoryConversationStore × A) :
    kept other (inMemoryPorts agents op s).2.1 = kept other s.1 := by
  cases op with
  | agent op => rfl
  | store op =>
    obtain rfl : op.conversationId = conversationId := hop
    cases op with
    | claimOrValidate conversationId ownerUserId observedAtUtc =>
      exact kept_keeping (fun _ => kept_claim h)
    | readRecent conversationId ownerUserId limit => rfl
    | readRecentEvidence conversationId ownerUserId limit now => rfl
    | appendCompletedExchange conversationId ownerUserId userTurn assistantTurn evidence userTurnId
        assistantTurnId evidenceId =>
      exact kept_keeping (fun _ => kept_append h)

/-- A query asks the store for its conversation only. -/
theorem execute_within (useCase : OrchestrateAssistantQuery) (command : AssistantQueryCommand)
    (draws : QueryDraws) : (useCase.execute command draws).Calls
      (QueryOp.Within (useCase.exchange command draws).conversationId) := by
  have happend : ∀ answer evidence response, (OrchestrateAssistantQuery.appendExchange
      (useCase.exchange command draws) answer evidence >>= fun _ => pure response : Query
        AssistantQueryResponse).Calls
          (QueryOp.Within (useCase.exchange command draws).conversationId) :=
    fun _ _ _ => .bind (.perform rfl) (fun _ => .pure _)
  unfold OrchestrateAssistantQuery.execute
  refine .bind (.perform rfl) (fun _ => ?_)
  unfold OrchestrateAssistantQuery.answerClaimed
  refine .bind (.perform rfl) (fun history => .bind (.perform rfl) (fun recentEvidence =>
    .bind (.ofExcept _) (fun reference => ?_)))
  cases reference with
  | some reference => exact .bind (.ofExcept _) (fun answer => happend answer none _)
  | none =>
    refine .bind (.perform trivial) (fun context => .bind (.attempt ?_) (fun r => ?_))
    · exact .bind (.perform trivial) (fun tools => .perform trivial)
    · cases r with
      | error e => exact .raise _
      | ok run => exact happend run.answer _ _

/-- Queries in other conversations leave a conversation as it is. -/
theorem kept_programs (agents : AgentPorts A) {useCase : OrchestrateAssistantQuery} {other : Uuid}
    (queries : List (AssistantQueryCommand × QueryDraws))
    (h : ∀ query ∈ queries, (useCase.exchange query.1 query.2).conversationId ≠ other)
    (s : InMemoryConversationStore × A) :
    kept other (Prog.answeredEach (inMemoryPorts agents) (useCase.programs queries) s).2.1 =
      kept other s.1 := by
  refine Prog.answeredEach_keeps (P := fun op : QueryOp => ∃ c, c ≠ other ∧ op.Within c)
    (I := fun s' : InMemoryConversationStore × A => kept other s'.1 = kept other s.1) ?_ _ ?_ rfl
  · rintro op s' ⟨c, hc, hwithin⟩ hs'
    rw [kept_inMemoryPorts hc.symm hwithin, hs']
  · intro program hprogram
    obtain ⟨query, hquery, rfl⟩ := List.mem_map.mp hprogram
    exact (execute_within useCase query.1 query.2).mono (fun op hop => ⟨_, h query hquery, hop⟩)

/-! ## The follow-up -/

theorem latestCollection_append (before : List ConversationEvidenceSnapshot)
    (snapshot : ConversationEvidenceSnapshot) : latestCollection (before ++ [snapshot]) =
      (latestCollection [snapshot]).or (latestCollection before) := by
  rw [latestCollection_eq, List.reverse_append, List.findSome?_append]
  rfl

/-- What the last snapshot resolves, it resolves after any others. -/
theorem resolve_append {resolver : ReferenceResolver} {query : String}
    {reference : ResolvedReference} {snapshot : ConversationEvidenceSnapshot}
    (h : resolver.resolve query [snapshot] = .ok ⟨.resolved, some reference⟩)
    (before : List ConversationEvidenceSnapshot) :
    resolver.resolve query (before ++ [snapshot]) = .ok ⟨.resolved, some reference⟩ := by
  obtain ⟨parsed, hparsed, hrest⟩ := except_bind_eq_ok.mp h
  cases parsed with
  | none => cases hrest
  | some request =>
    have hresolved : resolver.resolveRequest request [snapshot] = ⟨.resolved, some reference⟩ :=
      Except.ok.inj hrest
    have hlatest : latestCollection (before ++ [snapshot]) = latestCollection [snapshot] := by
      rw [latestCollection_append]
      cases hcollection : latestCollection [snapshot] with
      | some collection => rfl
      | none =>
        unfold ReferenceResolver.resolveRequest at hresolved
        rw [hcollection] at hresolved
        cases hresolved
    unfold ReferenceResolver.resolve
    rw [hparsed]
    refine congrArg Except.ok (Eq.trans ?_ hresolved)
    unfold ReferenceResolver.resolveRequest
    rw [hlatest]

section

variable {useCase : OrchestrateAssistantQuery} {command : AssistantQueryCommand}
  {draws : QueryDraws} {resolver : ReferenceResolver} {formatters : FieldValueFormatterRegistry}
  {reference : ResolvedReference} {answer : String} {before : List ConversationEvidenceSnapshot}
  {snapshot : ConversationEvidenceSnapshot}

theorem requireOwner_of_owned (howned : memory.owners conversationId = some ownerUserId) :
    memory.requireOwner conversationId ownerUserId = .ok () := by
  unfold InMemoryConversationStore.requireOwner
  exact if_neg (not_not.mpr howned)

/-- The evidence that a query reads ends with the last of its conversation. -/
theorem readRecentEvidence_of_owned (howned : memory.owners conversationId = some ownerUserId)
    (hevidence : memory.evidence conversationId = before ++ [snapshot]) :
    memory.readRecentEvidence conversationId ownerUserId 12 =
      .ok (before.rtake 11 ++ [snapshot]) := by
  unfold InMemoryConversationStore.readRecentEvidence
  rw [requireOwner_of_owned howned, hevidence]
  exact congrArg Except.ok (List.rtake_concat_succ before 11 snapshot)

/-- The response with an answer from evidence. -/
def referenceResponse (conversationId : Uuid) (answer : String) : AssistantQueryResponse where
  answer := answer
  conversationId := conversationId
  agentName := "assistant.reference-resolver"
  modelName := "deterministic"
  finishReason := "completed"
  toolCalls := []

theorem answered_answerReference {exchange : Exchange}
    (howned : memory.owners exchange.conversationId = some exchange.ownerUserId)
    (hanswer : formatters.format (FieldQueryExecutor.execute reference) = .ok answer) :
    ∃ memory', (OrchestrateAssistantQuery.answerReference exchange reference formatters).answered
      (inMemoryPorts agents) (memory, a) =
        (.ok (referenceResponse exchange.conversationId answer), (memory', a)) := by
  obtain ⟨memory', happend⟩ := append_of_owned howned exchange.userTurn
    ⟨"assistant", answer, exchange.answeredAt⟩ rfl rfl none
  have hreply : inMemoryStore (.appendCompletedExchange exchange.conversationId exchange.ownerUserId
      exchange.userTurn ⟨"assistant", answer, exchange.answeredAt⟩ none exchange.userTurnId
      exchange.assistantTurnId exchange.evidenceId) memory = (.ok (), memory') := by
    unfold inMemoryStore
    dsimp only
    rw [happend]
    rfl
  unfold OrchestrateAssistantQuery.answerReference
  rw [hanswer]
  exact ⟨memory', (goesOn_askStore hreply).1⟩

/-- A query that the last evidence of its conversation resolves is answered without the agent. -/
theorem answered_followUp
    (howned : memory.owners (useCase.exchange command draws).conversationId =
      some (useCase.exchange command draws).ownerUserId)
    (hevidence : memory.evidence (useCase.exchange command draws).conversationId =
      before ++ [snapshot])
    (hresolver : useCase.referenceResolver = some resolver)
    (hexecutor : useCase.hasFieldQueryExecutor = true)
    (hformatters : useCase.fieldValueFormatters = some formatters)
    (hresolved : resolver.resolve command.query [snapshot] = .ok ⟨.resolved, some reference⟩)
    (hanswer : formatters.format (FieldQueryExecutor.execute reference) = .ok answer) :
    ∃ memory', (useCase.execute command draws).answered (inMemoryPorts agents) (memory, a) =
      (.ok (referenceResponse (useCase.exchange command draws).conversationId answer),
        (memory', a)) := by
  have hclaim : inMemoryStore (useCase.claim command draws) memory = (.ok (), memory) := by
    unfold OrchestrateAssistantQuery.claim inMemoryStore
    exact congrArg (keeping memory) (claim_of_owned howned)
  have hread : inMemoryStore (.readRecent (useCase.exchange command draws).conversationId
      (useCase.exchange command draws).ownerUserId 12) memory = (.ok
        ((memory.state (useCase.exchange command draws).conversationId).rtake 12), memory) := by
    unfold inMemoryStore InMemoryConversationStore.readRecent
    dsimp only
    rw [requireOwner_of_owned howned]
    rfl
  have hreadEvidence :
      inMemoryStore (.readRecentEvidence (useCase.exchange command draws).conversationId
      (useCase.exchange command draws).ownerUserId 12 draws.evidenceReadAt) memory =
        (.ok (before.rtake 11 ++ [snapshot]), memory) :=
    Prod.ext (readRecentEvidence_of_owned howned hevidence) rfl
  have hreference : useCase.reference command.query (before.rtake 11 ++ [snapshot]) =
      .ok (some (reference, formatters)) := by
    unfold OrchestrateAssistantQuery.reference
    rw [hresolver]
    dsimp only
    rw [resolve_append hresolved, hexecutor, hformatters]
    rfl
  unfold OrchestrateAssistantQuery.execute
  rw [(goesOn_askStore hclaim).1]
  unfold OrchestrateAssistantQuery.answerClaimed
  dsimp only
  rw [(goesOn_askStore hread).1, (goesOn_askStore hreadEvidence).1, hreference]
  exact answered_answerReference howned hanswer

end

/-- What a conversation has after a query in it that leaves evidence, and queries in others. -/
theorem kept_first (agents : AgentPorts A) {useCase : OrchestrateAssistantQuery}
    {first : AssistantQueryCommand × QueryDraws}
    {others : List (AssistantQueryCommand × QueryDraws)}
    {s : InMemoryConversationStore × A} {response : AssistantQueryResponse}
    {snapshot : ConversationEvidenceSnapshot}
    (hfirst : ((useCase.execute first.1 first.2).answered (inMemoryPorts agents) s).1 =
      .ok response)
    (hsnapshot : appendedSnapshots
      ((useCase.execute first.1 first.2).asked (inMemoryPorts agents) s) = [snapshot])
    (hothers : ∀ query ∈ others, (useCase.exchange query.1 query.2).conversationId ≠
      (useCase.exchange first.1 first.2).conversationId) :
    kept (useCase.exchange first.1 first.2).conversationId
        (Prog.answeredEach (inMemoryPorts agents) (useCase.programs (first :: others)) s).2.1 =
      (some (useCase.exchange first.1 first.2).ownerUserId,
        s.1.evidence (useCase.exchange first.1 first.2).conversationId ++ [snapshot]) := by
  obtain ⟨howned, hevidence⟩ := grows_execute useCase first.1 first.2 s.1 s.2 response hfirst
  have hkept := kept_programs agents others hothers
    ((useCase.execute first.1 first.2).answered (inMemoryPorts agents) s).2
  refine hkept.trans (Prod.ext howned (hevidence.trans ?_))
  exact congrArg (s.1.evidence _ ++ ·) hsnapshot

/-- After an answer of the agent that left evidence, and any queries in other conversations, a
question of the same user in the same conversation that the evidence resolves is answered from it
over PostgreSQL. No port of the agent is asked. -/
theorem followUp_answered (store : ConversationStore) {maxTurns : Int} (hlimit : 12 ≤ maxTurns)
    (useCase : OrchestrateAssistantQuery)
    (earlier others : List (AssistantQueryCommand × QueryDraws))
    (first followUp : AssistantQueryCommand × QueryDraws)
    (horderly : OrderlyDraws useCase ((earlier ++ first :: others ++ [followUp]).map Prod.snd))
    (agents : AgentPorts A) (a : A) {s : InMemoryConversationStore × A}
    (hs : s = (Prog.answeredEach (inMemoryPorts agents) (useCase.programs earlier)
      ({ maxTurnsPerConversation := maxTurns }, a)).2)
    (hroundTrips : ∀ snapshot ∈ appendedSnapshots (Prog.askedEach (inMemoryPorts agents)
      (useCase.programs (earlier ++ first :: others ++ [followUp]))
        ({ maxTurnsPerConversation := maxTurns }, a)), RoundTrips store snapshot)
    {response : AssistantQueryResponse} {snapshot : ConversationEvidenceSnapshot}
    (hfirst : ((useCase.execute first.1 first.2).answered (inMemoryPorts agents) s).1 =
      .ok response)
    (hsnapshot : appendedSnapshots
      ((useCase.execute first.1 first.2).asked (inMemoryPorts agents) s) = [snapshot])
    (hothers : ∀ query ∈ others, (useCase.exchange query.1 query.2).conversationId ≠
      (useCase.exchange first.1 first.2).conversationId)
    (hconversation : followUp.1.conversationId =
      some (useCase.exchange first.1 first.2).conversationId)
    (howner : followUp.1.authorizationContext.userId = first.1.authorizationContext.userId)
    {resolver : ReferenceResolver} (hresolver : useCase.referenceResolver = some resolver)
    (hexecutor : useCase.hasFieldQueryExecutor = true) {formatters : FieldValueFormatterRegistry}
    (hformatters : useCase.fieldValueFormatters = some formatters) {reference : ResolvedReference}
    (hresolved : resolver.resolve followUp.1.query [snapshot] = .ok ⟨.resolved, some reference⟩)
    {answer : String}
    (hanswer : formatters.format (FieldQueryExecutor.execute reference) = .ok answer) :
    ∃ results t t' a', CarriedEachOnly (PostgresCarries store agents)
        (useCase.programs (earlier ++ first :: others)) (.empty, a) results (t, a') ∧
      CarriedOnly (PostgresCarries store agents) (useCase.execute followUp.1 followUp.2) (t, a')
        (.ok (referenceResponse (useCase.exchange first.1 first.2).conversationId answer))
          (t', a') := by
  have hprograms : useCase.programs (earlier ++ first :: others ++ [followUp]) =
      useCase.programs (earlier ++ first :: others) ++ [useCase.execute followUp.1 followUp.2] :=
    List.map_append
  have hend :
      (Prog.answeredEach (inMemoryPorts agents) (useCase.programs (earlier ++ first :: others))
      ({ maxTurnsPerConversation := maxTurns }, a)).2 =
        (Prog.answeredEach (inMemoryPorts agents) (useCase.programs (first :: others)) s).2 := by
    unfold OrchestrateAssistantQuery.programs at hs ⊢
    rw [List.map_append, Prog.answeredEach_append, ← hs]
  have hkept := kept_first agents hfirst hsnapshot hothers
  rw [← hend] at hkept
  have htied := tied_empty store hlimit horderly hroundTrips
  rw [hprograms, Prog.askedEach_append, List.append_assoc] at htied
  obtain ⟨⟨t, a'⟩, hcarried, htied'⟩ :=
    CarriedEach.of_answered (postgres_carriesOut store agents maxTurns) _ _ htied
  rw [Prog.askedEach, Prog.askedEach, List.append_nil] at htied'
  obtain ⟨⟨t', a''⟩, hfollows, hdone⟩ :=
    Carried.of_answered (postgres_carriesOut store agents maxTurns)
    (useCase.execute followUp.1 followUp.2) [] htied'
  have hagents : _ = a' := htied'.agents
  have hlater : _ = a'' := hdone.agents
  have hconversationId : (useCase.exchange followUp.1 followUp.2).conversationId =
      (useCase.exchange first.1 first.2).conversationId :=
    congrArg (fun id : Option Uuid => id.getD followUp.2.conversationId) hconversation
  have howned := (congrArg Prod.fst hkept).trans (congrArg some howner.symm)
  have hevidence := congrArg Prod.snd hkept
  unfold kept at howned hevidence
  dsimp only at howned hevidence
  rw [← hconversationId] at howned hevidence
  obtain ⟨memory', hanswered⟩ :=
    answered_followUp howned hevidence hresolver hexecutor hformatters hresolved hanswer
  rw [hanswered] at hfollows hlater
  obtain rfl := hlater
  rw [hagents, hconversationId] at hfollows
  exact ⟨_, t, t', a', hcarried.only (postgres_carriesUniquely store agents),
    hfollows.only (postgres_carriesUniquely store agents)⟩

/-- A question, another user's question elsewhere, and a follow-up. -/
def dueSession : List (AssistantQueryCommand × QueryDraws) :=
  [questionOf 7 1 1 "Which work orders are open?", questionOf 8 2 2 "Which work orders are open?",
    questionOf 7 1 3 "When are they due?"]

theorem orderly_dueSession : OrderlyDraws ordersUseCase (dueSession.map Prod.snd) where
  turnIds := by decide +kernel
  turnTimes := by decide +kernel
  evidenceIds := by decide +kernel
  exchangeIds := by decide +kernel
  unexpired := by decide +kernel

theorem appended_dueSession : appendedSnapshots (Prog.askedEach (inMemoryPorts ordersAgents)
    (ordersUseCase.programs dueSession) ({ maxTurnsPerConversation := 20 }, 0)) =
      [ordersSnapshot 7 1 1, ordersSnapshot 8 2 2] := by
  decide +kernel

theorem followUp_answered_due :
    ∃ results t t' a',
      CarriedEachOnly (PostgresCarries { py := .ascii, jsonColumn := id } ordersAgents)
        (ordersUseCase.programs (dueSession.take 2)) (.empty, 0) results (t, a') ∧
      CarriedOnly (PostgresCarries { py := .ascii, jsonColumn := id } ordersAgents)
        (ordersUseCase.execute dueSession[2].1 dueSession[2].2) (t, a')
        (.ok (referenceResponse (Uuid.ofNat 1) "WO-1 is due on 2026-05-01.")) (t', a') := by
  have hroundTrips : ∀ snapshot ∈ appendedSnapshots (Prog.askedEach (inMemoryPorts ordersAgents)
      (ordersUseCase.programs dueSession) ({ maxTurnsPerConversation := 20 }, 0)),
      RoundTrips { py := .ascii, jsonColumn := id } snapshot := by
    intro snapshot hsnapshot
    rw [appended_dueSession] at hsnapshot
    rcases List.mem_pair.mp hsnapshot with rfl | rfl
    · exact roundTrips_ordersSnapshot 7 1 1 (by decide +kernel)
    · exact roundTrips_ordersSnapshot 8 2 2 (by decide +kernel)
  have hsnapshot : appendedSnapshots ((ordersUseCase.execute dueSession[0].1 dueSession[0].2).asked
      (inMemoryPorts ordersAgents) ({ maxTurnsPerConversation := 20 }, 0)) =
          [ordersSnapshot 7 1 1] := by
    decide +kernel
  exact followUp_answered _ (by decide) ordersUseCase [] [dueSession[1]] dueSession[0] dueSession[2]
    orderly_dueSession ordersAgents 0 rfl hroundTrips rfl hsnapshot
      (by decide +kernel) rfl rfl rfl rfl rfl
    rfl rfl

end HotAirBalloon.Agent
