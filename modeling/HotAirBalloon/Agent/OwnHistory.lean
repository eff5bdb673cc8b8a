import HotAirBalloon.Agent.FollowUps

/-!
# What the agent is given

A query shows the agent the history of its conversation. The turns in it are those of queries that
came before, by the same user in the same conversation: what this user asked, and what these queries
returned. The evidence is that of the runs that answered them. A store that knows whose a
conversation is holds nothing else in it, and a query reads only what is its user's own
(`agent_givenOwn`).
-/

namespace HotAirBalloon.Agent

open Python Library Kernel Evidence Memory User Context

variable {A : Type}

/-! ## Own history -/

/-- A query that is over: what it returned or raised, and its calls of the agent's ports. -/
structure PastQuery where
  query : AssistantQueryCommand × QueryDraws
  result : Except PyError AssistantQueryResponse
  calls : List AgentCall

def PastQuery.exchange (past : PastQuery) (useCase : OrchestrateAssistantQuery) : Exchange :=
  useCase.exchange past.query.1 past.query.2

/-- A query of a user in a conversation. -/
structure PastQuery.IsOf (past : PastQuery) (useCase : OrchestrateAssistantQuery)
    (conversationId ownerUserId : Uuid) : Prop where
  conversationId : (past.exchange useCase).conversationId = conversationId
  ownerUserId : (past.exchange useCase).ownerUserId = ownerUserId

section

variable (useCase : OrchestrateAssistantQuery) (before : List PastQuery)
  (conversationId ownerUserId : Uuid)

/-- A turn of a query that was answered, of a user in a conversation: what was asked, or the answer
that the query returned. -/
def TurnOf (turn : ConversationTurn) : Prop :=
  ∃ past ∈ before, past.IsOf useCase conversationId ownerUserId ∧
    ∃ response, past.result = .ok response ∧
      (turn = (past.exchange useCase).userTurn ∨
        turn = ⟨"assistant", response.answer, (past.exchange useCase).answeredAt⟩)

/-- The evidence of a run that answered a query, of a user in a conversation. -/
def EvidenceOf (snapshot : ConversationEvidenceSnapshot) : Prop :=
  ∃ past ∈ before, past.IsOf useCase conversationId ownerUserId ∧
    ∃ request run, ⟨.run request, .ok run⟩ ∈ past.calls ∧
      past.result = .ok ((past.exchange useCase).response run) ∧
      (past.exchange useCase).snapshot run = some snapshot

end

/-- What a query asks of the ports is for its user in its conversation, and what it shows them is of
queries before it, by this user in this conversation. -/
def GivenOwn (useCase : OrchestrateAssistantQuery) (before : List PastQuery)
    (query : AssistantQueryCommand × QueryDraws) : AgentOp → Prop
  | .assemble conversationId request recentEvidence =>
    conversationId = (useCase.exchange query.1 query.2).conversationId ∧
      request.authorizationContext = query.1.authorizationContext ∧
      request.userQuery = query.1.query ∧
      (∀ turn ∈ request.recentTurns,
        TurnOf useCase before conversationId query.1.authorizationContext.userId turn) ∧
      ∀ snapshot ∈ recentEvidence,
        EvidenceOf useCase before conversationId query.1.authorizationContext.userId snapshot
  | .listTools authorizationContext => authorizationContext = query.1.authorizationContext
  | .run request =>
    request.conversationId = (useCase.exchange query.1 query.2).conversationId ∧
      request.authorizationContext = query.1.authorizationContext ∧
      request.userQuery = query.1.query

/-- The same for queries one after another, with the result and the calls of each. -/
inductive GivenEach (useCase : OrchestrateAssistantQuery) :
    List PastQuery → List (AssistantQueryCommand × QueryDraws) →
      List (Except PyError AssistantQueryResponse) → List (List AgentCall) → Prop where
  | nil (before : List PastQuery) : GivenEach useCase before [] [] []
  | cons {before : List PastQuery} {query : AssistantQueryCommand × QueryDraws}
      {result : Except PyError AssistantQueryResponse} {calls : List AgentCall}
      {queries : List (AssistantQueryCommand × QueryDraws)}
      {results : List (Except PyError AssistantQueryResponse)} {more : List (List AgentCall)}
      (hcalls : ∀ call ∈ calls, GivenOwn useCase before query call.op)
      (hrest : GivenEach useCase (before ++ [⟨query, result, calls⟩]) queries results more) :
      GivenEach useCase before (query :: queries) (result :: results) (calls :: more)

/-! ## What the store holds -/

/-- The store holds, in a conversation, what queries of its owner have left. -/
structure HoldsOwn (useCase : OrchestrateAssistantQuery) (before : List PastQuery)
    (memory : InMemoryConversationStore) : Prop where
  turns : ∀ conversationId, ∀ turn ∈ memory.state conversationId, ∃ ownerUserId,
    memory.owners conversationId = some ownerUserId ∧
      TurnOf useCase before conversationId ownerUserId turn
  evidence : ∀ conversationId, ∀ snapshot ∈ memory.evidence conversationId, ∃ ownerUserId,
    memory.owners conversationId = some ownerUserId ∧
      EvidenceOf useCase before conversationId ownerUserId snapshot

section

variable {useCase : OrchestrateAssistantQuery} {before : List PastQuery}
  {memory memory' : InMemoryConversationStore} {conversationId ownerUserId : Uuid}

theorem holdsOwn_empty (maxTurns : Int) :
    HoldsOwn useCase [] { maxTurnsPerConversation := maxTurns } :=
  ⟨fun _ _ h => absurd h List.not_mem_nil, fun _ _ h => absurd h List.not_mem_nil⟩

/-- What the store holds of some queries it holds of more. -/
theorem HoldsOwn.mono {more : List PastQuery} (h : HoldsOwn useCase before memory)
    (hsubset : before ⊆ more) : HoldsOwn useCase more memory := by
  constructor
  · intro conversationId turn hturn
    obtain ⟨ownerUserId, howner, past, hmem, hturnOf⟩ := h.turns conversationId turn hturn
    exact ⟨ownerUserId, howner, past, hsubset hmem, hturnOf⟩
  · intro conversationId snapshot hsnapshot
    obtain ⟨ownerUserId, howner, past, hmem, hevidenceOf⟩ :=
      h.evidence conversationId snapshot hsnapshot
    exact ⟨ownerUserId, howner, past, hsubset hmem, hevidenceOf⟩

/-- A claim gives the conversation to its owner, and changes nothing else. -/
theorem claim_eq_ok (h : memory.claimOrValidateIn conversationId ownerUserId = .ok memory') :
    memory'.owners conversationId = some ownerUserId ∧ memory'.state = memory.state ∧
      memory'.evidence = memory.evidence ∧
      ∀ other owner, memory.owners other = some owner → memory'.owners other = some owner := by
  unfold InMemoryConversationStore.claimOrValidateIn at h
  split at h
  · rename_i hnone
    cases h
    refine ⟨Function.update_self .., rfl, rfl, ?_⟩
    intro other owner howner
    have hne : other ≠ conversationId := by
      rintro rfl
      rw [hnone] at howner
      cases howner
    exact (Function.update_of_ne hne ..).trans howner
  · split at h
    · cases h
    · rename_i existing hfind hsame
      cases h
      rw [not_not] at hsame
      exact ⟨by rw [hfind, hsame], rfl, rfl, fun _ _ howner => howner⟩

theorem HoldsOwn.claim (h : HoldsOwn useCase before memory)
    (hclaim : memory.claimOrValidateIn conversationId ownerUserId = .ok memory') :
    HoldsOwn useCase before memory' := by
  obtain ⟨-, hstate, hevidence, howners⟩ := claim_eq_ok hclaim
  constructor
  · intro other turn hturn
    rw [hstate] at hturn
    obtain ⟨owner, howner, hamong⟩ := h.turns other turn hturn
    exact ⟨owner, howners other owner howner, hamong⟩
  · intro other snapshot hsnapshot
    rw [hevidence] at hsnapshot
    obtain ⟨owner, howner, hamong⟩ := h.evidence other snapshot hsnapshot
    exact ⟨owner, howners other owner howner, hamong⟩

theorem HoldsOwn.append (h : HoldsOwn useCase before memory)
    {userTurn assistantTurn : ConversationTurn} {evidence : Option ConversationEvidenceSnapshot}
    (hturns : ∀ turn ∈ [userTurn, assistantTurn],
      TurnOf useCase before conversationId ownerUserId turn)
    (hevidence : ∀ snapshot ∈ evidence,
      EvidenceOf useCase before conversationId ownerUserId snapshot)
    (happend : memory.appendCompletedExchange conversationId ownerUserId userTurn assistantTurn
      evidence = .ok memory') : HoldsOwn useCase before memory' := by
  unfold InMemoryConversationStore.appendCompletedExchange at happend
  split at happend
  · cases happend
  obtain ⟨claimed, hclaimed, happended⟩ := except_bind_eq_ok.mp happend
  obtain ⟨howned, -⟩ := claim_eq_ok hclaimed
  obtain ⟨hstate, hsnapshots⟩ := h.claim hclaimed
  rw [InMemoryConversationStore.trim_extendTurns] at happended
  have hextended : ∀ other, ∀ turn ∈ Function.update claimed.state conversationId
      ((claimed.state conversationId ++ [userTurn, assistantTurn]).rtake
        claimed.maxTurnsPerConversation.toNat) other, ∃ owner, claimed.owners other = some owner ∧
          TurnOf useCase before other owner turn := by
    intro other turn hturn
    by_cases hother : other = conversationId
    · subst hother
      rw [Function.update_self] at hturn
      rcases List.mem_append.mp (List.mem_of_mem_drop hturn) with hturn | hturn
      · exact hstate other turn hturn
      · exact ⟨ownerUserId, howned, hturns turn hturn⟩
    · rw [Function.update_of_ne hother] at hturn
      exact hstate other turn hturn
  cases evidence with
  | none =>
    cases happended
    exact ⟨hextended, hsnapshots⟩
  | some snapshot =>
    cases happended
    refine ⟨hextended, ?_⟩
    intro other found hfound
    by_cases hother : other = conversationId
    · subst hother
      change found ∈ Function.update claimed.evidence other _ other at hfound
      rw [Function.update_self] at hfound
      rcases List.mem_append.mp hfound with hfound | hfound
      · exact hsnapshots other found hfound
      · obtain rfl := List.mem_singleton.mp hfound
        exact ⟨ownerUserId, howned, hevidence found rfl⟩
    · change found ∈ Function.update claimed.evidence conversationId _ other at hfound
      rw [Function.update_of_ne hother] at hfound
      exact hsnapshots other found hfound

end

/-! ## A query -/

section

variable {useCase : OrchestrateAssistantQuery} {before : List PastQuery}
  {query : AssistantQueryCommand × QueryDraws} {agents : AgentPorts A} {log : List AgentCall}
  {s : InMemoryConversationStore × A × List AgentCall}

/-- The calls of a query, after those in the log, are as they should be. -/
structure GivenSince (useCase : OrchestrateAssistantQuery) (before : List PastQuery)
    (query : AssistantQueryCommand × QueryDraws) (log calls : List AgentCall)
    (s : InMemoryConversationStore × A × List AgentCall) : Prop where
  log_eq : s.2.2 = log ++ calls
  given : ∀ call ∈ calls, GivenOwn useCase before query call.op

/-- In the course of a query: what the store holds is of the queries before, and what the ports have
been asked is as it should be. -/
structure Underway (useCase : OrchestrateAssistantQuery) (before : List PastQuery)
    (query : AssistantQueryCommand × QueryDraws) (log : List AgentCall)
    (s : InMemoryConversationStore × A × List AgentCall) : Prop where
  holds : HoldsOwn useCase before s.1
  since : ∃ calls, GivenSince useCase before query log calls s

/-- The same, once the conversation is claimed. -/
structure Claimed (useCase : OrchestrateAssistantQuery) (before : List PastQuery)
    (query : AssistantQueryCommand × QueryDraws) (log : List AgentCall)
    (s : InMemoryConversationStore × A × List AgentCall) : Prop extends
    Underway useCase before query log s where
  owned : s.1.owners (useCase.exchange query.1 query.2).conversationId =
    some (useCase.exchange query.1 query.2).ownerUserId

/-- The same, with a call among those of the query. -/
def Heard (useCase : OrchestrateAssistantQuery) (before : List PastQuery)
    (query : AssistantQueryCommand × QueryDraws) (log : List AgentCall) (call : AgentCall)
    (s : InMemoryConversationStore × A × List AgentCall) : Prop :=
  Claimed useCase before query log s ∧
    ∃ calls, GivenSince useCase before query log calls s ∧ call ∈ calls

/-- After a query. -/
def Over (useCase : OrchestrateAssistantQuery) (before : List PastQuery)
    (query : AssistantQueryCommand × QueryDraws) (log : List AgentCall)
    (result : Except PyError AssistantQueryResponse)
    (s : InMemoryConversationStore × A × List AgentCall) : Prop :=
  ∃ calls, GivenSince useCase before query log calls s ∧
    HoldsOwn useCase (before ++ [⟨query, result, calls⟩]) s.1

theorem Underway.over (h : Underway useCase before query log s)
    (result : Except PyError AssistantQueryResponse) : Over useCase before query log result s := by
  obtain ⟨calls, hsince⟩ := h.since
  exact ⟨calls, hsince, h.holds.mono (List.subset_append_left _ _)⟩

theorem ensures_claim : Prog.Ensures (inMemoryPorts agents.recorded)
    (Underway useCase before query log) (askStore (useCase.claim query.1 query.2))
    (okOr (fun _ => Claimed useCase before query log) (Underway useCase before query log)) := by
  refine Prog.Ensures.perform ?_
  rintro ⟨memory, a, asked⟩ h
  change okOr _ _ (keeping memory (memory.claimOrValidate _ _)).1
    ((keeping memory (memory.claimOrValidate _ _)).2, a, asked)
  cases hclaim : memory.claimOrValidate (useCase.exchange query.1 query.2).conversationId
      (useCase.exchange query.1 query.2).ownerUserId with
  | error e => exact h
  | ok memory' =>
    obtain ⟨calls, hlog, hgiven⟩ := h.since
    exact ⟨⟨h.holds.claim hclaim, calls, hlog, hgiven⟩, (claim_eq_ok hclaim).1⟩

theorem ensures_readRecent : Prog.Ensures (inMemoryPorts agents.recorded)
    (Claimed useCase before query log)
    (askStore (.readRecent (useCase.exchange query.1 query.2).conversationId
      (useCase.exchange query.1 query.2).ownerUserId 12))
    (okOr (fun (turns : List ConversationTurn) s => Claimed useCase before query log s ∧
        ∀ turn ∈ turns, TurnOf useCase before (useCase.exchange query.1 query.2).conversationId
          (useCase.exchange query.1 query.2).ownerUserId turn)
      (Underway useCase before query log)) := by
  refine Prog.Ensures.perform ?_
  rintro ⟨memory, a, asked⟩ h
  change okOr _ _ (memory.readRecent _ _ 12) (memory, a, asked)
  unfold InMemoryConversationStore.readRecent
  rw [requireOwner_of_owned h.owned]
  refine ⟨h, ?_⟩
  intro turn hturn
  obtain ⟨owner, howner, hturnOf⟩ := h.holds.turns _ turn (List.mem_of_mem_drop hturn)
  obtain rfl := Option.some.inj (h.owned.symm.trans howner)
  exact hturnOf

theorem ensures_readRecentEvidence (now : DateTime) : Prog.Ensures (inMemoryPorts agents.recorded)
    (Claimed useCase before query log)
    (askStore (.readRecentEvidence (useCase.exchange query.1 query.2).conversationId
      (useCase.exchange query.1 query.2).ownerUserId 12 now))
    (okOr (fun (snapshots : List ConversationEvidenceSnapshot) s =>
        Claimed useCase before query log s ∧ ∀ snapshot ∈ snapshots,
          EvidenceOf useCase before (useCase.exchange query.1 query.2).conversationId
            (useCase.exchange query.1 query.2).ownerUserId snapshot)
      (Underway useCase before query log)) := by
  refine Prog.Ensures.perform ?_
  rintro ⟨memory, a, asked⟩ h
  change okOr _ _ (memory.readRecentEvidence _ _ 12) (memory, a, asked)
  unfold InMemoryConversationStore.readRecentEvidence
  rw [requireOwner_of_owned h.owned]
  refine ⟨h, ?_⟩
  intro snapshot hsnapshot
  obtain ⟨owner, howner, hevidenceOf⟩ :=
    h.holds.evidence _ snapshot (List.mem_of_mem_drop hsnapshot)
  obtain rfl := Option.some.inj (h.owned.symm.trans howner)
  exact hevidenceOf

/-- A port of the agent is asked as it should be, and the reply is in the log. -/
theorem ensures_askAgent {op : AgentOp} (hop : GivenOwn useCase before query op) :
    Prog.Ensures (inMemoryPorts agents.recorded) (Claimed useCase before query log) (askAgent op)
      (okOr (fun reply => Heard useCase before query log ⟨op, .ok reply⟩)
        (Underway useCase before query log)) := by
  refine Prog.Ensures.perform ?_
  rintro ⟨memory, a, asked⟩ ⟨⟨hholds, calls, hlog, hgiven⟩, howned⟩
  have hsince : ∀ call : AgentCall, call.op = op →
      GivenSince useCase before query log (calls ++ [call])
      (memory, (agents op a).2, asked ++ [call]) := by
    rintro call rfl
    refine ⟨?_, List.forall_mem_append.mpr ⟨hgiven, List.forall_mem_singleton.mpr hop⟩⟩
    rw [← List.append_assoc]
    exact congrArg (· ++ [call]) hlog
  change okOr _ _ (agents op a).1 (memory, (agents op a).2, asked ++ [⟨op, (agents op a).1⟩])
  cases (agents op a).1 with
  | error e => exact ⟨hholds, _, hsince ⟨op, .error e⟩ rfl⟩
  | ok reply =>
    have hreplied := hsince ⟨op, .ok reply⟩ rfl
    exact ⟨⟨⟨hholds, _, hreplied⟩, howned⟩, _, hreplied,
      List.mem_append_right _ (List.mem_singleton_self _)⟩

/-- An exchange is appended with the answer that the query returns, and with the evidence of a run
that the query has asked for. -/
theorem ensures_append {P : InMemoryConversationStore × A × List AgentCall → Prop}
    {answer : String} {evidence : Option ConversationEvidenceSnapshot}
    {response : AssistantQueryResponse} (hanswer : response.answer = answer)
    (hclaimed : ∀ s, P s → Claimed useCase before query log s)
    (hevidence : ∀ s, P s → ∀ snapshot ∈ evidence, ∃ calls,
      GivenSince useCase before query log calls s ∧ ∃ request run, ⟨.run request, .ok run⟩ ∈ calls ∧
        response = (useCase.exchange query.1 query.2).response run ∧
        (useCase.exchange query.1 query.2).snapshot run = some snapshot) :
    Prog.Ensures (inMemoryPorts agents.recorded) P
      (OrchestrateAssistantQuery.appendExchange (useCase.exchange query.1 query.2)
        answer evidence >>= fun _ => pure response) (Over useCase before query log) := by
  subst hanswer
  refine Prog.Ensures.bind (R := okOr (fun _ => Over useCase before query log (.ok response))
    (Underway useCase before query log)) (Prog.Ensures.perform ?_) (fun e _ h => h.over _)
    (fun _ => Prog.Ensures.ofExcept (fun _ h => h))
  rintro ⟨memory, a, asked⟩ hP
  have hunderway : Underway useCase before query log (memory, a, asked) :=
    (hclaimed _ hP).toUnderway
  obtain ⟨calls, hlog, hgiven⟩ := hunderway.since
  have hown : PastQuery.IsOf ⟨query, .ok response, calls⟩ useCase
      (useCase.exchange query.1 query.2).conversationId
      (useCase.exchange query.1 query.2).ownerUserId := ⟨rfl, rfl⟩
  have hlast :
      (⟨query, .ok response, calls⟩ : PastQuery) ∈ before ++ [⟨query, .ok response, calls⟩] :=
    List.mem_append_right _ (List.mem_singleton_self _)
  change okOr _ _ (keeping memory (memory.appendCompletedExchange _ _ _ _ _)).1
    ((keeping memory (memory.appendCompletedExchange _ _ _ _ _)).2, a, asked)
  cases happend : memory.appendCompletedExchange (useCase.exchange query.1 query.2).conversationId
      (useCase.exchange query.1 query.2).ownerUserId (useCase.exchange query.1 query.2).userTurn
      ⟨"assistant", response.answer, (useCase.exchange query.1 query.2).answeredAt⟩ evidence with
  | error e => exact hunderway
  | ok memory' =>
    have hmore :=
      hunderway.holds.mono (List.subset_append_left before [⟨query, .ok response, calls⟩])
    refine ⟨calls, ⟨hlog, hgiven⟩, hmore.append ?_ ?_ happend⟩
    · intro turn hturn
      exact ⟨_, hlast, hown, response, rfl, List.mem_pair.mp hturn⟩
    · intro snapshot hsnapshot
      obtain ⟨calls', ⟨hlog', -⟩, request, run, hrun, rfl, hsnapshot⟩ :=
        hevidence _ hP snapshot hsnapshot
      obtain rfl := List.append_cancel_left (hlog.symm.trans hlog')
      exact ⟨_, hlast, hown, request, run, hrun, rfl, hsnapshot⟩

theorem ensures_runAgent (context : AssembledContext) :
    Prog.Ensures (inMemoryPorts agents.recorded) (Claimed useCase before query log)
      (useCase.runAgent query.1 (useCase.exchange query.1 query.2) context)
      (okOr (fun run s => ∃ request, Heard useCase before query log ⟨.run request, .ok run⟩ s)
        (Underway useCase before query log)) := by
  unfold OrchestrateAssistantQuery.runAgent
  refine Prog.Ensures.bind (ensures_askAgent rfl) (fun _ _ h => h) (fun tools => ?_)
  refine Prog.Ensures.consequence (fun _ h => h.1) (ensures_askAgent ⟨rfl, rfl, rfl⟩) ?_
  rintro (e | run) s h
  · exact h
  · exact ⟨_, h⟩

theorem ensures_answerReference {reference : ResolvedReference}
    {formatters : FieldValueFormatterRegistry} :
    Prog.Ensures (inMemoryPorts agents.recorded) (Claimed useCase before query log)
      (OrchestrateAssistantQuery.answerReference (useCase.exchange query.1 query.2) reference
        formatters) (Over useCase before query log) := by
  unfold OrchestrateAssistantQuery.answerReference
  refine Prog.Ensures.bind (R := fun _ => Claimed useCase before query log)
    (Prog.Ensures.ofExcept (fun _ h => h)) (fun e _ h => h.toUnderway.over _) (fun answer => ?_)
  exact ensures_append rfl (fun _ h => h)
    (fun _ _ snapshot hsnapshot => absurd hsnapshot (Option.not_mem_none snapshot))

theorem ensures_answerByAgent {history : List ConversationTurn}
    {recentEvidence : List ConversationEvidenceSnapshot}
    (hhistory : ∀ turn ∈ history, TurnOf useCase before
      (useCase.exchange query.1 query.2).conversationId
      (useCase.exchange query.1 query.2).ownerUserId turn)
    (hevidence : ∀ snapshot ∈ recentEvidence, EvidenceOf useCase before
      (useCase.exchange query.1 query.2).conversationId
      (useCase.exchange query.1 query.2).ownerUserId snapshot) :
    Prog.Ensures (inMemoryPorts agents.recorded) (Claimed useCase before query log)
      (useCase.answerByAgent query.1 (useCase.exchange query.1 query.2) history recentEvidence)
      (Over useCase before query log) := by
  unfold OrchestrateAssistantQuery.answerByAgent
  refine Prog.Ensures.bind (ensures_askAgent ⟨rfl, rfl, rfl, hhistory, hevidence⟩)
    (fun e _ h => h.over _) ?_
  intro context
  have hrun : Prog.Ensures (inMemoryPorts agents.recorded) (Claimed useCase before query log)
      (useCase.runAgent query.1 (useCase.exchange query.1 query.2) context).attempt
      (okOr (okOr (fun run s => ∃ request, Heard useCase before query log ⟨.run request, .ok run⟩ s)
        (Underway useCase before query log)) (Underway useCase before query log)) :=
    Prog.Ensures.attempt (ensures_runAgent context)
  refine Prog.Ensures.bind (Prog.Ensures.consequence (fun _ h => h.1) hrun (fun _ _ h => h))
    (fun e _ h => h.over _) ?_
  intro result
  cases result with
  | error e => exact Prog.Ensures.ofExcept (fun _ h => h.over _)
  | ok run =>
    refine ensures_append rfl (fun _ ⟨_, h⟩ => h.1) ?_
    rintro s ⟨request, -, calls, hsince, hcall⟩ snapshot hsnapshot
    exact ⟨calls, hsince, request, run, hcall, rfl, hsnapshot⟩

/-- A query asks the ports as it should, and leaves in the store what is its own. -/
theorem ensures_execute : Prog.Ensures (inMemoryPorts agents.recorded)
    (Underway useCase before query log) (useCase.execute query.1 query.2)
    (Over useCase before query log) := by
  unfold OrchestrateAssistantQuery.execute
  refine Prog.Ensures.bind ensures_claim (fun e _ h => h.over _) (fun _ => ?_)
  unfold OrchestrateAssistantQuery.answerClaimed
  refine Prog.Ensures.bind ensures_readRecent (fun e _ h => h.over _) (fun history => ?_)
  refine Prog.Ensures.of_and (fun hhistory => ?_)
  refine Prog.Ensures.bind (ensures_readRecentEvidence _) (fun e _ h => h.over _)
    (fun recentEvidence => ?_)
  refine Prog.Ensures.of_and (fun hevidence => ?_)
  refine Prog.Ensures.bind (R := fun _ => Claimed useCase before query log)
    (Prog.Ensures.ofExcept (fun _ h => h)) (fun e _ h => h.toUnderway.over _) (fun reference => ?_)
  cases reference with
  | some reference => exact ensures_answerReference
  | none => exact ensures_answerByAgent hhistory hevidence

end

/-! ## Queries -/

/-- Queries one after another over the in-memory store. -/
theorem answeredEach_givenOwn (useCase : OrchestrateAssistantQuery) (agents : AgentPorts A)
    (before : List PastQuery) (queries : List (AssistantQueryCommand × QueryDraws))
    (s : InMemoryConversationStore × A × List AgentCall) (h : HoldsOwn useCase before s.1) :
    ∃ calls : List (List AgentCall), (Prog.answeredEach (inMemoryPorts agents.recorded)
        (useCase.programs queries) s).2.2.2 = s.2.2 ++ calls.flatten ∧
      GivenEach useCase before queries (Prog.answeredEach (inMemoryPorts agents.recorded)
        (useCase.programs queries) s).1 calls := by
  induction queries generalizing before s with
  | nil => exact ⟨[], (List.append_nil _).symm, .nil before⟩
  | cons query rest ih =>
    have hensures : Prog.Ensures (inMemoryPorts agents.recorded)
        (Underway useCase before query s.2.2) (useCase.execute query.1 query.2)
        (Over useCase before query s.2.2) := ensures_execute
    obtain ⟨calls, ⟨hlog, hgiven⟩, hholds⟩ := hensures s
      ⟨h, [], (List.append_nil _).symm, fun _ hcall => absurd hcall List.not_mem_nil⟩
    obtain ⟨more, hmore, hrest⟩ := ih _ _ hholds
    refine ⟨calls :: more, ?_, .cons hgiven hrest⟩
    rw [List.flatten_cons, ← List.append_assoc, ← hlog]
    exact hmore

/-- Queries of any users on any conversations, one after another over PostgreSQL, whatever the ports
of the agent do: the history that a query shows the ports consists of what its user asked in queries
before it in its conversation and of what these returned, and the evidence is that of the runs that
answered them. -/
theorem agent_givenOwn (store : ConversationStore) {maxTurns : Int} (hlimit : 12 ≤ maxTurns)
    (useCase : OrchestrateAssistantQuery) (queries : List (AssistantQueryCommand × QueryDraws))
    (horderly : OrderlyDraws useCase (queries.map Prod.snd)) (agents : AgentPorts A) (a : A)
    (hroundTrips : ∀ snapshot ∈ appendedSnapshots (Prog.askedEach (inMemoryPorts agents.recorded)
      (useCase.programs queries) ({ maxTurnsPerConversation := maxTurns }, a, [])),
        RoundTrips store snapshot) :
    ∃ results t' a' calls, CarriedEachOnly (PostgresCarries store agents.recorded)
        (useCase.programs queries) (.empty, a, []) results (t', a', calls.flatten) ∧
      GivenEach useCase [] queries results calls := by
  obtain ⟨⟨t', a', log⟩, hcarried, hend⟩ :=
    CarriedEach.of_answered (postgres_carriesOut store agents.recorded maxTurns)
      (useCase.programs queries) [] (tied_empty store hlimit horderly hroundTrips)
  obtain ⟨calls, hcalls, hgiven⟩ := answeredEach_givenOwn useCase agents [] queries
    ({ maxTurnsPerConversation := maxTurns }, a, []) (holdsOwn_empty maxTurns)
  have hlog : calls.flatten = log := hcalls.symm.trans (congrArg Prod.snd hend.agents)
  obtain rfl := hlog
  exact ⟨_, t', a', calls, hcarried.only (postgres_carriesUniquely store _), hgiven⟩

theorem agent_givenOwn_due :
    ∃ results t' a' calls, CarriedEachOnly
        (PostgresCarries { py := .ascii, jsonColumn := id } (Port.recorded ordersAgents))
        (ordersUseCase.programs dueSession) (.empty, 0, []) results (t', a', calls.flatten) ∧
      GivenEach ordersUseCase [] dueSession results calls := by
  refine agent_givenOwn _ (show (12 : Int) ≤ 20 by decide) ordersUseCase dueSession
    orderly_dueSession ordersAgents 0 ?_
  have happended : appendedSnapshots (Prog.askedEach (inMemoryPorts (Port.recorded ordersAgents))
      (ordersUseCase.programs dueSession) ({ maxTurnsPerConversation := 20 }, 0, [])) =
        [ordersSnapshot 7 1 1, ordersSnapshot 8 2 2] := by
    decide +kernel
  intro snapshot hsnapshot
  rw [happended] at hsnapshot
  rcases List.mem_pair.mp hsnapshot with rfl | rfl
  · exact roundTrips_ordersSnapshot 7 1 1 (by decide +kernel)
  · exact roundTrips_ordersSnapshot 8 2 2 (by decide +kernel)

end HotAirBalloon.Agent
