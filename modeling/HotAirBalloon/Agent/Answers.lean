import HotAirBalloon.Agent.ResponseComposer
import HotAirBalloon.Agent.Visits

/-!
# Where answers come from

A run is answered by its respond node, unless a node before it has set a terminal answer: the
planner, when the brain answers directly, or the tool node, when it blocks the call. The respond
node keeps such an answer as it is: it is not composed from evidence, and the exchange is not
written to the messages.
-/

namespace HotAirBalloon.Agent

open Python Gateway Kernel

variable {B W : Type} {py : Interpreter} {ctx : GraphContext B W}

/-! ## Terminal answers -/

/-- What the brain answers a run that it is asked to plan. -/
def directAnswer (py : Interpreter) (ctx : GraphContext B W) (run : RunState B W) : Option String :=
  match resolveIntent py ctx.userQuery with
  | .ok none =>
    if (callableTools ctx run).isEmpty then none
    else
      match (ctx.brain.planAction (agentState ctx run (callableTools ctx run)) run.brain).2 with
      | .ok planned =>
        if planned.action = "respond" ∧ planned.answer.getD "" ≠ "" then planned.answer else none
      | .error _ => none
  | _ => none

/-- Whether the tool node blocks the planned call: the tool may not be called, the call does not
match the query, or the result is of another tool. -/
def blocksCall (py : Interpreter) (ctx : GraphContext B W) (run : RunState B W) : Bool :=
  let action := run.state.plannedAction
  match findDescriptor ctx action.toolName, run.callBudget.canCall action.toolName with
  | some descriptor, true =>
    match validateToolCallSemantics py ctx.userQuery descriptor action.payload with
    | .error _ => false
    | .ok result =>
      if !result.allowed then true
      else
        match (ctx.toolInvoker action.toolName action.payload run.world).2 with
        | .error _ => false
        | .ok toolCall => toolCall.toolName ≠ action.toolName
  | _, _ => true

/-- A node sets a terminal answer. -/
def SetsAnswer (py : Interpreter) (ctx : GraphContext B W) (node : Node)
    (run : RunState B W) : Prop :=
  match node with
  | .planAction => (directAnswer py ctx run).isSome = true
  | .toolCall => blocksCall py ctx run = true
  | _ => False

/-! ## What a node does to the answer -/

/-- No answer is set. -/
structure Open (run : RunState B W) : Prop where
  answer : run.state.answer = ""
  finishReason : run.state.finishReason = none

/-- Nothing that concerns answers changed. -/
structure SameTalk (run run' : RunState B W) : Prop where
  answer : run'.state.answer = run.state.answer
  finishReason : run'.state.finishReason = run.state.finishReason
  messages : run'.state.messages = run.state.messages

theorem SameTalk.refl (run : RunState B W) : SameTalk run run := ⟨rfl, rfl, rfl⟩

theorem SameTalk.open {run run' : RunState B W} (h : SameTalk run run') (hopen : Open run) :
    Open run' :=
  ⟨h.answer.trans hopen.answer, h.finishReason.trans hopen.finishReason⟩

/-- A terminal answer that a node has set, on its way to the respond node. -/
structure Answered (py : Interpreter) (ctx : GraphContext B W) (node : Node)
    (run run' : RunState B W) : Prop where
  messages : run'.state.messages = run.state.messages
  toolCalls : run'.state.toolCalls = run.state.toolCalls
  nonempty : run'.state.answer ≠ ""
  planned : node = .planAction → directAnswer py ctx run = some run'.state.answer ∧
    run'.state.finishReason = some .completed
  blocked : node ≠ .planAction → run'.state.finishReason = some .policyBlocked

/-- A node before the respond node: it sets a terminal answer, or leaves the talk alone. -/
inductive TalkStep (py : Interpreter) (ctx : GraphContext B W) (node : Node) (run : RunState B W) :
    RunState B W → Except PyError (Option Node) → Prop
  | answered {run'} (sets : SetsAnswer py ctx node run) (answered : Answered py ctx node run run') :
      TalkStep py ctx node run run' (.ok (some .respond))
  | quiet {run' next} (sets : ¬ SetsAnswer py ctx node run) (same : SameTalk run run') :
      TalkStep py ctx node run run' (.ok (some next))
  | raised {run' e} (sets : ¬ SetsAnswer py ctx node run) (same : SameTalk run run') :
      TalkStep py ctx node run run' (.error e)

theorem route_talk {run run' : RunState B W} {action : PlannedAction} (same : SameTalk run run')
    (h : ¬ (action.action = "respond" ∧ action.answer.getD "" ≠ "")) :
    SameTalk run (route run' action).1 := by
  unfold route
  rw [if_neg h]
  exact ⟨same.answer, same.finishReason, same.messages⟩

theorem planResolved_talk (run : RunState B W) (resolution : IntentResolution) :
    SameTalk run (planResolved ctx run resolution).1 ∧
      ∃ next, (planResolved ctx run resolution).2 = .ok (some next) := by
  have hdeclined : ¬ (respondAction.action = "respond" ∧ respondAction.answer.getD "" ≠ "") := by
    decide
  unfold planResolved
  dsimp only
  split
  · exact ⟨route_talk ⟨rfl, rfl, rfl⟩ hdeclined, _, rfl⟩
  · split
    · exact ⟨route_talk ⟨rfl, rfl, rfl⟩ hdeclined, _, rfl⟩
    · have hcall : ("tool_call" : String) ≠ "respond" := by decide
      exact ⟨route_talk ⟨rfl, rfl, rfl⟩ (fun h => hcall h.1), _, rfl⟩

theorem planByBrain_talk {run : RunState B W}
    (hresolve : resolveIntent py ctx.userQuery = .ok none) :
    TalkStep py ctx .planAction run (planByBrain ctx run).1 (planByBrain ctx run).2 := by
  unfold planByBrain
  dsimp only
  by_cases hempty : (callableTools ctx run).isEmpty = true
  · rw [if_pos hempty]
    have hquiet : ¬ SetsAnswer py ctx .planAction run := by
      unfold SetsAnswer directAnswer
      rw [hresolve]
      simp [hempty]
    exact .quiet hquiet (route_talk ⟨rfl, rfl, rfl⟩ (by decide))
  · rw [if_neg hempty]
    have hdirect : directAnswer py ctx run =
        match (ctx.brain.planAction (agentState ctx run (callableTools ctx run)) run.brain).2 with
        | .ok planned =>
          if planned.action = "respond" ∧ planned.answer.getD "" ≠ "" then planned.answer else none
        | .error _ => none := by
      unfold directAnswer
      rw [hresolve]
      exact if_neg hempty
    revert hdirect
    rcases ctx.brain.planAction (agentState ctx run (callableTools ctx run)) run.brain
      with ⟨brain, r⟩
    intro hdirect
    cases r with
    | error e =>
      refine .raised ?_ ⟨rfl, rfl, rfl⟩
      unfold SetsAnswer
      simp [hdirect]
    | ok planned =>
      dsimp only at hdirect ⊢
      by_cases hanswer : planned.action = "respond" ∧ planned.answer.getD "" ≠ ""
      · rw [if_pos hanswer] at hdirect
        obtain ⟨answer, hsome⟩ : ∃ answer, planned.answer = some answer := by
          cases hplanned : planned.answer with
          | none =>
            rw [hplanned] at hanswer
            exact (hanswer.2 rfl).elim
          | some answer => exact ⟨answer, rfl⟩
        have hroute : ∀ run' : RunState B W, (route run' planned).2 = .ok (some .respond) := by
          intro run'
          rw [route_next, if_neg (by rw [hanswer.1]; decide)]
        rw [hroute]
        refine .answered ?_ ?_
        · unfold SetsAnswer
          simp [hdirect, hsome]
        · unfold route
          rw [if_pos hanswer]
          refine ⟨rfl, rfl, hanswer.2, fun _ => ⟨?_, rfl⟩, fun hnode => (hnode rfl).elim⟩
          rw [hdirect, hsome]
          rfl
      · rw [if_neg hanswer] at hdirect
        refine .quiet ?_ (route_talk ⟨rfl, rfl, rfl⟩ hanswer)
        unfold SetsAnswer
        simp [hdirect]

theorem planAction_talk (run : RunState B W) :
    TalkStep py ctx .planAction run (planAction py ctx run).1 (planAction py ctx run).2 := by
  unfold planAction
  cases hresolve : resolveIntent py ctx.userQuery with
  | error e =>
    refine .raised ?_ (SameTalk.refl run)
    unfold SetsAnswer directAnswer
    simp [hresolve]
  | ok resolution =>
    cases resolution with
    | none => exact planByBrain_talk hresolve
    | some resolution =>
      dsimp only
      have htalk : SameTalk run (planResolved ctx run resolution).1 ∧
          ∃ next, (planResolved ctx run resolution).2 = .ok (some next) :=
        planResolved_talk run resolution
      obtain ⟨same, next, hnext⟩ := htalk
      rw [hnext]
      refine .quiet ?_ same
      unfold SetsAnswer directAnswer
      simp [hresolve]

theorem policyBlocked_answered {run run' : RunState B W} {node : Node} {answer : String}
    (hnode : node ≠ .planAction) (messages : run'.state.messages = run.state.messages)
    (toolCalls : run'.state.toolCalls = run.state.toolCalls) (hanswer : answer ≠ "") :
    Answered py ctx node run (policyBlocked run' answer).1 :=
  ⟨messages, toolCalls, hanswer, fun h => (hnode h).elim, fun _ => rfl⟩

/-- The call of the invoker sets an answer when the result is of another tool. -/
theorem callTool_talk {run run' : RunState B W} {toolName : String} {payload : Payload}
    (hstate : run'.state = run.state)
    (hsets : SetsAnswer py ctx .toolCall run ↔
      (match (ctx.toolInvoker toolName payload run'.world).2 with
        | .error _ => false
        | .ok toolCall => decide (toolCall.toolName ≠ toolName)) = true) :
    TalkStep py ctx .toolCall run (callTool ctx run' toolName payload).1
      (callTool ctx run' toolName payload).2 := by
  unfold callTool
  revert hsets
  rcases ctx.toolInvoker toolName payload run'.world with ⟨world, outcome⟩
  intro hsets
  cases outcome with
  | error e => exact .raised (by simpa using hsets) ⟨by rw [hstate], by rw [hstate], by rw [hstate]⟩
  | ok toolCall =>
    dsimp only at hsets ⊢
    by_cases hname : toolCall.toolName ≠ toolName
    · rw [if_pos hname]
      refine .answered (hsets.mpr (decide_eq_true hname))
        (policyBlocked_answered (by decide) ?_ ?_ (by decide))
      · exact congrArg GraphState.messages hstate
      · exact congrArg GraphState.toolCalls hstate
    · rw [if_neg hname]
      refine .quiet ?_ ⟨by rw [← hstate], by rw [← hstate], by rw [← hstate]⟩
      rw [hsets, decide_eq_true_eq]
      exact hname

theorem invokeTool_talk (run : RunState B W) :
    TalkStep py ctx .toolCall run (invokeTool py ctx run).1 (invokeTool py ctx run).2 := by
  have hsets : SetsAnswer py ctx .toolCall run ↔ blocksCall py ctx run = true := Iff.rfl
  unfold blocksCall at hsets
  unfold invokeTool
  dsimp only at hsets ⊢
  split
  · rename_i descriptor hdescriptor hcan
    rw [hdescriptor, hcan] at hsets
    dsimp only at hsets
    cases hvalid : validateToolCallSemantics py ctx.userQuery descriptor
        run.state.plannedAction.payload with
    | error e =>
      rw [hvalid] at hsets
      exact .raised (by simp [hsets]) (SameTalk.refl run)
    | ok result =>
      rw [hvalid] at hsets
      dsimp only at hsets ⊢
      by_cases hallowed : (!result.allowed) = true
      · rw [if_pos hallowed] at hsets ⊢
        exact .answered (hsets.mpr rfl)
          (policyBlocked_answered (by decide) rfl rfl (by decide))
      · rw [if_neg hallowed] at hsets ⊢
        exact callTool_talk rfl hsets
  · rename_i hnot
    refine .answered (hsets.mpr ?_) (policyBlocked_answered (by decide) rfl rfl (by decide))
    split
    · rename_i descriptor hdescriptor hcan
      exact (hnot descriptor hdescriptor hcan).elim
    · rfl

theorem classifyIntent_talk (run : RunState B W) :
    TalkStep py ctx .classifyIntent run (classifyIntent ctx run).1 (classifyIntent ctx run).2 := by
  have hquiet : ¬ SetsAnswer py ctx .classifyIntent run := fun h => h
  unfold classifyIntent
  rcases ctx.brain.classifyIntent (agentState ctx run ctx.availableTools) run.brain with ⟨brain, r⟩
  cases r with
  | error e => exact .raised hquiet ⟨rfl, rfl, rfl⟩
  | ok intent => exact .quiet hquiet ⟨rfl, rfl, rfl⟩

theorem observeResult_talk (run : RunState B W) :
    TalkStep py ctx .observeResult run (observeResult run).1 (observeResult run).2 := by
  have hquiet : ¬ SetsAnswer py ctx .observeResult run := fun h => h
  unfold observeResult
  split
  · exact .quiet hquiet (SameTalk.refl run)
  · split
    · exact .raised hquiet (SameTalk.refl run)
    · exact .quiet hquiet ⟨rfl, rfl, rfl⟩

/-- What a node before the respond node does to the answer. -/
theorem runNode_talk {node : Node} (hnode : node ≠ .respond) (run : RunState B W) :
    TalkStep py ctx node run (runNode py ctx node run).1 (runNode py ctx node run).2 := by
  cases node with
  | classifyIntent => exact classifyIntent_talk run
  | planAction => exact planAction_talk run
  | toolCall => exact invokeTool_talk run
  | observeResult => exact observeResult_talk run
  | decideNextStep =>
    have hquiet : ¬ SetsAnswer py ctx .decideNextStep run := fun h => h
    exact .quiet hquiet (SameTalk.refl run)
  | respond => exact (hnode rfl).elim

/-! ## The respond node -/

/-- A terminal answer is kept. -/
theorem respond_of_answered {run : RunState B W} (hanswer : run.state.answer ≠ "")
    (hfinish : run.state.finishReason.isSome = true) : respond ctx run = (run, .ok none) := by
  unfold respond
  rw [if_pos ⟨hfinish, hanswer⟩]

/-- The normalised answer of the respond node. -/
def normalizedAnswer (answer : String) : String :=
  if strip answer = "" then "No answer generated." else strip answer

theorem normalizedAnswer_ne (answer : String) : normalizedAnswer answer ≠ "" := by
  unfold normalizedAnswer
  split
  · decide
  · assumption

/-- What the respond node leaves of a run without an answer: the exchange is written, and with tool
calls the answer is the composed one. -/
structure Responded (ctx : GraphContext B W) (run final : RunState B W) : Prop where
  finishReason : final.state.finishReason = some .completed
  toolCalls : final.state.toolCalls = run.state.toolCalls
  nonempty : final.state.answer ≠ ""
  messages : final.state.messages =
    run.state.messages ++ [⟨.user, ctx.userQuery⟩, ⟨.assistant, final.state.answer⟩]
  composed : run.state.toolCalls ≠ [] → ∃ answer,
    ctx.composeAnswer ctx.userQuery (run.state.toolCalls.flatMap (·.evidence)) = .ok answer ∧
      final.state.answer = normalizedAnswer answer

theorem respond_of_open {run final : RunState B W} {r : Except PyError (Option Node)}
    (hopen : Open run) (h : respond ctx run = (final, r)) :
    (∃ e, r = .error e ∧ SameTalk run final) ∨ (r = .ok none ∧ Responded ctx run final) := by
  unfold respond at h
  rw [if_neg (by simp [hopen.finishReason])] at h
  split at h
  · rename_i hcalls
    split at h
    · rename_i e _
      cases h
      exact .inl ⟨e, rfl, SameTalk.refl run⟩
    · rename_i answer hcompose
      cases h
      refine .inr ⟨rfl, ?_, rfl, normalizedAnswer_ne answer, rfl, fun _ => ⟨answer, hcompose, rfl⟩⟩
      change some (run.state.finishReason.getD .completed) = _
      rw [hopen.finishReason]
      rfl
  · rename_i hcalls
    have hnil : run.state.toolCalls = [] := by simpa using hcalls
    revert h
    rcases ctx.brain.respond (agentState ctx run ctx.availableTools) run.brain with ⟨brain, reply⟩
    intro h
    cases reply with
    | error e =>
      cases h
      exact .inl ⟨e, rfl, ⟨rfl, rfl, rfl⟩⟩
    | ok answer =>
      cases h
      refine .inr ⟨rfl, ?_, rfl, normalizedAnswer_ne answer, rfl, fun hne => (hne hnil).elim⟩
      change some (run.state.finishReason.getD .completed) = _
      rw [hopen.finishReason]
      rfl

/-! ## Runs -/

/-- The visits of a run: the nodes and the runs that they find. -/
def trail (py : Interpreter) (ctx : GraphContext B W) :
    Nat → Node → RunState B W → List (Node × RunState B W)
  | 0, _, _ => []
  | limit + 1, node, run =>
    (node, run.entering node) :: match runNode py ctx node (run.entering node) with
      | (run', .ok (some next)) => trail py ctx limit next run'
      | _ => []

/-- How a run ends: it is cut off or raises and leaves the messages as they were; the respond node
answers it; or it ends with the terminal answer of one of its visits. -/
inductive Ending (py : Interpreter) (ctx : GraphContext B W) (visits : List (Node × RunState B W))
    (run : RunState B W) : Progress B W → Prop
  | cut {progress} (messages : progress.run.state.messages = run.state.messages)
      (unfinished : ∀ final, progress ≠ .finished final) : Ending py ctx visits run progress
  | responded {before final} (quiet : ∀ visit ∈ visits, ¬ SetsAnswer py ctx visit.1 visit.2)
      (messages : before.state.messages = run.state.messages)
      (responded : Responded ctx before final) : Ending py ctx visits run (.finished final)
  | answered {visit final} (mem : visit ∈ visits) (sets : SetsAnswer py ctx visit.1 visit.2)
      (only : ∀ visit' ∈ visits, SetsAnswer py ctx visit'.1 visit'.2 → visit' = visit)
      (messages : visit.2.state.messages = run.state.messages)
      (answered : Answered py ctx visit.1 visit.2 final) :
        Ending py ctx visits run (.finished final)

theorem respond_ending {limit : Nat} {run : RunState B W} (hopen : Open run) :
    Ending py ctx (trail py ctx limit .respond run) run (runFor py ctx limit .respond run) := by
  cases limit with
  | zero => exact .cut rfl (fun _ h => by cases h)
  | succ limit =>
    have hopen' : Open (run.entering .respond) := ⟨hopen.answer, hopen.finishReason⟩
    rw [runFor_succ]
    unfold trail
    change Ending py ctx (_ :: match respond ctx (run.entering .respond) with
      | (run', .ok (some next)) => trail py ctx limit next run'
      | _ => []) run (resume py ctx limit (respond ctx (run.entering .respond)))
    cases hrespond : respond ctx (run.entering .respond) with
    | mk final r =>
      rcases respond_of_open hopen' hrespond with ⟨e, rfl, same⟩ | ⟨rfl, hresponded⟩
      · exact .cut same.messages (fun _ h => by cases h)
      · have hquiet : ∀ visit ∈ [((.respond : Node), run.entering .respond)],
            ¬ SetsAnswer py ctx visit.1 visit.2 := by
          intro visit hvisit
          obtain rfl := List.mem_singleton.mp hvisit
          exact fun h => h
        exact @Ending.responded B W py ctx _ run (run.entering .respond) final hquiet rfl hresponded

/-- A visit that sets no answer comes before the rest of a run. -/
theorem Ending.cons {visits : List (Node × RunState B W)} {visit : Node × RunState B W}
    {run run' : RunState B W} {progress : Progress B W} (h : Ending py ctx visits run' progress)
    (hquiet : ¬ SetsAnswer py ctx visit.1 visit.2)
    (hmessages : run'.state.messages = run.state.messages) :
    Ending py ctx (visit :: visits) run progress := by
  cases h with
  | cut messages unfinished => exact .cut (messages.trans hmessages) unfinished
  | responded quiet messages responded =>
    refine .responded ?_ (messages.trans hmessages) responded
    intro visit' hvisit'
    rcases List.mem_cons.mp hvisit' with rfl | hrest
    · exact hquiet
    · exact quiet visit' hrest
  | answered mem sets only messages answered =>
    refine .answered (List.mem_cons_of_mem _ mem) sets ?_ (messages.trans hmessages) answered
    intro visit' hvisit' hsets
    rcases List.mem_cons.mp hvisit' with rfl | hrest
    · exact (hquiet hsets).elim
    · exact only visit' hrest hsets

theorem trail_succ (limit : Nat) (node : Node) (run : RunState B W) :
    trail py ctx (limit + 1) node run = (node, run.entering node) ::
      match runNode py ctx node (run.entering node) with
      | (run', .ok (some next)) => trail py ctx limit next run'
      | _ => [] := rfl

/-- A terminal answer goes through the respond node unchanged. -/
theorem answered_ending {limit : Nat} {node : Node} {run run' : RunState B W}
    (hsets : SetsAnswer py ctx node (run.entering node))
    (h : Answered py ctx node (run.entering node) run') :
    Ending py ctx ((node, run.entering node) :: trail py ctx limit .respond run') run
      (runFor py ctx limit .respond run') := by
  cases limit with
  | zero => exact .cut h.messages (fun _ h => by cases h)
  | succ limit =>
    have hfinish : (run'.entering .respond).state.finishReason.isSome = true := by
      change run'.state.finishReason.isSome = true
      by_cases hnode : node = .planAction
      · rw [(h.planned hnode).2]
        rfl
      · rw [h.blocked hnode]
        rfl
    have hrespond : runNode py ctx .respond (run'.entering .respond) =
        (run'.entering .respond, .ok none) := respond_of_answered h.nonempty hfinish
    have hanswered : Answered py ctx node (run.entering node) (run'.entering .respond) :=
      ⟨h.messages, h.toolCalls, h.nonempty, h.planned, h.blocked⟩
    rw [trail_succ, runFor_succ, hrespond]
    refine .answered List.mem_cons_self hsets ?_ rfl hanswered
    intro visit hvisit hsets'
    rcases List.mem_cons.mp hvisit with rfl | hrest
    · rfl
    · obtain rfl := List.mem_singleton.mp hrest
      exact hsets'.elim

/-- How a run without an answer ends. -/
theorem runFor_ending (limit : Nat) {node : Node} {run : RunState B W} (hopen : Open run) :
    Ending py ctx (trail py ctx limit node run) run (runFor py ctx limit node run) := by
  induction limit generalizing node run with
  | zero => exact .cut rfl (fun _ h => by cases h)
  | succ limit ih =>
    by_cases hnode : node = .respond
    · subst hnode
      exact respond_ending hopen
    · have htalk := @runNode_talk B W py ctx node hnode (run.entering node)
      have hopen' : Open (run.entering node) := ⟨hopen.answer, hopen.finishReason⟩
      rw [trail_succ, runFor_succ]
      revert htalk
      rcases runNode py ctx node (run.entering node) with ⟨run', r⟩
      intro htalk
      cases htalk with
      | answered hsets hanswered => exact answered_ending hsets hanswered
      | quiet hquiet same => exact (ih (same.open hopen')).cons hquiet same.messages
      | raised hquiet same => exact .cut same.messages (fun _ h => by cases h)

end HotAirBalloon.Agent
