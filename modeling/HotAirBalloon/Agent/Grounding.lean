import HotAirBalloon.Agent.Answers

/-!
# Answers and history of the orchestrator

Two properties of what `LangGraphAgentOrchestrator.run` returns and leaves in the checkpoint. An
answer after tool calls is composed from their evidence, unless the brain answers directly in a
later round; and the exchange of a run is in the messages, unless a terminal answer was set before
the respond node.
-/

namespace HotAirBalloon.Agent

open Python Gateway Kernel

variable {B W : Type}

/-- The visits of a run of the orchestrator. -/
def ainvokeTrail (py : Interpreter) (ctx : GraphContext B W) (policy : ToolCallPolicy)
    (checkpoint : Checkpoint) (maxToolCalls : Int) (allowToolCalls : Bool) (brain : B) (world : W)
    (recursionLimit : Nat) : List (Node × RunState B W) :=
  trail py { ctx with availableTools := allowedTools policy ctx.availableTools } recursionLimit
    .classifyIntent (initialRun checkpoint policy maxToolCalls allowToolCalls brain world)

theorem ainvoke_ending (py : Interpreter) (ctx : GraphContext B W) (policy : ToolCallPolicy)
    (checkpoint : Checkpoint) (maxToolCalls : Int) (allowToolCalls : Bool) (brain : B) (world : W)
    (recursionLimit : Nat) :
    Ending py { ctx with availableTools := allowedTools policy ctx.availableTools }
      (ainvokeTrail py ctx policy checkpoint maxToolCalls allowToolCalls brain world recursionLimit)
      (initialRun checkpoint policy maxToolCalls allowToolCalls brain world)
      (ainvoke py ctx policy checkpoint maxToolCalls allowToolCalls brain world recursionLimit) :=
  runFor_ending recursionLimit ⟨rfl, rfl⟩

/-- The answer that is returned is the one of the final state. -/
theorem agentRunResult_answer {modelName : String} {final : GraphState} (h : final.answer ≠ "") :
    (agentRunResult modelName final).answer = final.answer := if_neg h

/-! ## Grounded answers -/

/-- An answer is the composed text for some evidence, stripped. -/
def IsComposed (composer : FinalResponseComposer) (query : String) (evidence : List EvidenceBlock)
    (answer : String) : Prop :=
  ∃ composed, composer.compose query evidence = .ok composed ∧ answer = strip composed

/-- Once a call is recorded, the brain does not answer directly, unless with the composed text. -/
def LeavesAnswer (py : Interpreter) (composer : FinalResponseComposer) (ctx : GraphContext B W)
    (visit : Node × RunState B W) : Prop :=
  visit.1 = .planAction → visit.2.state.toolCalls ≠ [] →
    ∀ answer ∈ directAnswer py ctx visit.2,
      IsComposed composer ctx.userQuery (visit.2.state.toolCalls.flatMap (·.evidence)) answer

/-- A completed run with tool calls returns the composed answer exactly when the brain leaves the
answer to the composer in every planning round after the first call. -/
theorem answer_grounded_iff (py : Interpreter) (composer : FinalResponseComposer)
    (ctx : GraphContext B W) (policy : ToolCallPolicy) (checkpoint : Checkpoint)
    (maxToolCalls : Int)
    (allowToolCalls : Bool) (brain : B) (world : W) (recursionLimit : Nat) (modelName : String)
    {final : RunState B W}
    (hfinished : ainvoke py
      (composer.context ctx) policy checkpoint maxToolCalls allowToolCalls brain
      world recursionLimit = .finished final)
    (hcalls : (agentRunResult modelName final.state).toolCalls ≠ [])
    (hcompleted : (agentRunResult modelName final.state).finishReason = .completed) :
    IsComposed composer ctx.userQuery (agentRunResult modelName final.state).evidence
        (agentRunResult modelName final.state).answer ↔
      ∀ visit ∈ ainvokeTrail py (composer.context ctx) policy checkpoint maxToolCalls allowToolCalls
        brain world recursionLimit,
        LeavesAnswer py composer { composer.context ctx with
          availableTools := allowedTools policy ctx.availableTools } visit := by
  have hending := ainvoke_ending py (composer.context ctx) policy checkpoint maxToolCalls
    allowToolCalls brain world recursionLimit
  rw [hfinished] at hending
  cases hending with
  | cut _ unfinished => exact (unfinished final rfl).elim
  | @responded before _ quiet messages responded =>
    rw [agentRunResult_answer responded.nonempty]
    constructor
    · intro _ visit hvisit hnode _ answer hanswer
      refine (quiet visit hvisit ?_).elim
      unfold SetsAnswer
      rw [hnode]
      exact Option.isSome_iff_exists.mpr ⟨answer, hanswer⟩
    · intro _
      have hbefore : before.state.toolCalls ≠ [] := by
        rw [← responded.toolCalls]
        exact hcalls
      obtain ⟨composed, hcompose, hanswer⟩ := responded.composed hbefore
      have hevidence : (agentRunResult modelName final.state).evidence =
          before.state.toolCalls.flatMap (·.evidence) := by
        rw [← responded.toolCalls]
        rfl
      refine ⟨composed, by rw [hevidence]; exact hcompose, ?_⟩
      rw [hanswer]
      exact if_neg
        (@FinalResponseComposer.strip_compose_ne_empty composer ctx.userQuery _ _ hcompose)
  | @answered visit _ mem sets only messages answered =>
    rw [agentRunResult_answer answered.nonempty]
    have hnode : visit.1 = .planAction := by
      by_contra hnode
      have hblocked := answered.blocked hnode
      change final.state.finishReason.getD .failed = .completed at hcompleted
      rw [hblocked] at hcompleted
      cases hcompleted
    have hdirect := (answered.planned hnode).1
    have hevidence : (agentRunResult modelName final.state).evidence =
        visit.2.state.toolCalls.flatMap (·.evidence) := by
      rw [← answered.toolCalls]
      rfl
    have hvisitCalls : visit.2.state.toolCalls ≠ [] := by
      rw [← answered.toolCalls]
      exact hcalls
    rw [hevidence]
    constructor
    · intro hcomposed visit' hvisit' hnode' _ answer hanswer
      have hsets : SetsAnswer py { composer.context ctx with
          availableTools := allowedTools policy ctx.availableTools } visit'.1 visit'.2 := by
        unfold SetsAnswer
        rw [hnode']
        exact Option.isSome_iff_exists.mpr ⟨answer, hanswer⟩
      obtain rfl := only visit' hvisit' hsets
      obtain rfl := Option.some.inj (hdirect.symm.trans hanswer)
      exact hcomposed
    · intro hleaves
      exact hleaves visit mem hnode hvisitCalls _ hdirect

/-! ### A question about a pump -/

/-- The record of the lookup: it has failed. -/
def pumpLookup (toolName : String) (payload : Payload) : ToolCallRecord where
  toolName := toolName
  payload := payload
  status := .failed
  evidence := [.failure {
    evidenceId := "failure-P-7", code := "not_found", message := "Asset was not found"
    retryable := false }]
  result := []

/-- A brain that looks the pump up, and then answers what it likes. -/
def pumpContext : GraphContext Unit Unit where
  brain := {
    classifyIntent := fun _ b => (b, .ok "lookup")
    planAction := fun view b =>
      if view.toolCalls.isEmpty then
        (b, .ok { action := "tool_call", toolName := "lookup", payload := [] })
      else (b, .ok { respondAction with answer := some "Pump P-7 is running." })
    respond := fun _ b => (b, .ok "") }
  availableTools := [{ name := "lookup" }, { name := "search" }]
  toolInvoker := fun toolName payload w => (w, .ok (pumpLookup toolName payload))
  contextPrompt := ""
  userQuery := "Tell me about pump P-7"
  composeAnswer := fun _ _ => .ok ""

def pumpPolicy : ToolCallPolicy := { allowedToolNames := ["lookup", "search"] }

def pumpComposer : FinalResponseComposer := ⟨.ascii, fun text => text⟩

/-- The run under a budget of calls. -/
def pumpRun (maxToolCalls : Int) : Progress Unit Unit :=
  ainvoke .ascii (pumpComposer.context pumpContext) pumpPolicy {} maxToolCalls true () () 25

/-- The facts about a finished run that are checked by computation. -/
def pumpAnswers (maxToolCalls : Int) (answer : String) : Bool :=
  match pumpRun maxToolCalls with
  | .finished final => final.state.answer = answer ∧ final.state.finishReason = some .completed ∧
    final.state.toolCalls.map (·.evidence) = [(pumpLookup "lookup" []).evidence]
  | _ => false

theorem pumpAnswers_spec {maxToolCalls : Int} {answer : String}
    (h : pumpAnswers maxToolCalls answer = true) : ∃ final, pumpRun maxToolCalls = .finished final ∧
      final.state.answer = answer ∧ final.state.finishReason = some .completed ∧
      final.state.toolCalls.map (·.evidence) = [(pumpLookup "lookup" []).evidence] := by
  unfold pumpAnswers at h
  split at h
  · rename_i final hfinished
    exact ⟨final, hfinished, of_decide_eq_true h⟩
  · cases h

theorem flatMap_evidence {calls : List ToolCallRecord} {evidence : List EvidenceBlock}
    (h : calls.map (·.evidence) = [evidence]) : calls.flatMap (·.evidence) = evidence := by
  rw [List.flatMap_def, h]
  simp

/-- With a budget of two calls the brain's words replace the composed answer. -/
theorem pump_not_grounded : ∃ final, pumpRun 2 = .finished final ∧ final.state.toolCalls ≠ [] ∧
    (∀ call ∈ final.state.toolCalls, call.evidence ≠ []) ∧
    final.state.finishReason = some .completed ∧
    ¬ IsComposed pumpComposer pumpContext.userQuery (final.state.toolCalls.flatMap (·.evidence))
      (agentRunResult "model" final.state).answer := by
  have hrun : pumpAnswers 2 "Pump P-7 is running." = true := by decide
  obtain ⟨final, hfinished, hanswer, hcompleted, hevidence⟩ := pumpAnswers_spec hrun
  refine ⟨final, hfinished, ?_, ?_, hcompleted, ?_⟩
  · rintro hnil
    rw [hnil] at hevidence
    cases hevidence
  · intro call hcall hempty
    have hmem : call.evidence ∈ final.state.toolCalls.map (·.evidence) :=
      List.mem_map.mpr ⟨call, hcall, rfl⟩
    rw [hevidence, List.mem_singleton, hempty] at hmem
    cases hmem
  · rintro ⟨composed, hcompose, hequal⟩
    rw [flatMap_evidence hevidence] at hcompose
    rw [agentRunResult_answer (by rw [hanswer]; decide), hanswer] at hequal
    have hother : (pumpComposer.compose pumpContext.userQuery
        (pumpLookup "lookup" []).evidence).toOption.any
          (fun composed => decide (strip composed = "Pump P-7 is running.")) = false := by
      decide
    rw [hcompose] at hother
    exact of_decide_eq_false hother hequal.symm

/-- With a budget of one call the answer is composed. -/
theorem answer_grounded_iff_pump : ∃ final, pumpRun 1 = .finished final ∧
    (IsComposed pumpComposer pumpContext.userQuery (agentRunResult "model" final.state).evidence
        (agentRunResult "model" final.state).answer ↔
      ∀ visit ∈ ainvokeTrail .ascii (pumpComposer.context pumpContext) pumpPolicy
        {} 1 true () () 25,
        LeavesAnswer .ascii pumpComposer { pumpComposer.context pumpContext with
          availableTools := allowedTools pumpPolicy pumpContext.availableTools } visit) := by
  have hrun :
      pumpAnswers 1 "Unable to complete the request (not_found): Asset was not found" = true := by
    decide
  obtain ⟨final, hfinished, -, hcompleted, hevidence⟩ := pumpAnswers_spec hrun
  refine ⟨final, hfinished, ?_⟩
  refine answer_grounded_iff .ascii pumpComposer pumpContext pumpPolicy {} 1 true () () 25 "model"
    hfinished ?_ ?_
  · intro hnil
    change final.state.toolCalls = [] at hnil
    rw [hnil] at hevidence
    cases hevidence
  · change final.state.finishReason.getD .failed = .completed
    rw [hcompleted]
    rfl

/-! ## The checkpointed history -/

/-- A run of the orchestrator on a conversation: what it is called with. -/
structure Turn (B W : Type) where
  ctx : GraphContext B W
  policy : ToolCallPolicy
  maxToolCalls : Int
  allowToolCalls : Bool
  brain : B
  world : W
  recursionLimit : Nat

section

variable (py : Interpreter)

def Turn.progress (turn : Turn B W) (checkpoint : Checkpoint) : Progress B W :=
  ainvoke py turn.ctx turn.policy checkpoint turn.maxToolCalls turn.allowToolCalls
    turn.brain turn.world turn.recursionLimit

def Turn.visits (turn : Turn B W) (checkpoint : Checkpoint) : List (Node × RunState B W) :=
  ainvokeTrail py turn.ctx turn.policy checkpoint turn.maxToolCalls turn.allowToolCalls turn.brain
    turn.world turn.recursionLimit

/-- What the checkpointer keeps of a run, also of one that has raised. -/
def Progress.checkpoint (progress : Progress B W) : Checkpoint :=
  ⟨progress.run.state.messages, progress.run.state.workingSet⟩

/-- The two messages of a query and its answer. -/
def exchange (pair : String × String) : List ConversationMessage :=
  [⟨.user, pair.1⟩, ⟨.assistant, pair.2⟩]

/-- The query of a run and the answer that it returns. -/
def Turn.pair (turn : Turn B W) (final : RunState B W) : String × String :=
  (turn.ctx.userQuery, (agentRunResult "" final.state).answer)

/-- The checkpoint after some runs on a conversation. -/
def converse : Checkpoint → List (Turn B W) → Checkpoint
  | checkpoint, [] => checkpoint
  | checkpoint, turn :: rest => converse (turn.progress py checkpoint).checkpoint rest

/-- The queries and answers of the runs that return. -/
def dialogue : Checkpoint → List (Turn B W) → List (String × String)
  | _, [] => []
  | checkpoint, turn :: rest =>
    (match turn.progress py checkpoint with
      | .finished final => [turn.pair final]
      | _ => []) ++ dialogue (turn.progress py checkpoint).checkpoint rest

/-- A property of every run that returns. -/
def EachReturns (P : Checkpoint → Turn B W → RunState B W → Prop) :
    Checkpoint → List (Turn B W) → Prop
  | _, [] => True
  | checkpoint, turn :: rest =>
    (∀ final, turn.progress py checkpoint = .finished final → P checkpoint turn final) ∧
      EachReturns P (turn.progress py checkpoint).checkpoint rest

/-- Every run that returns adds its query and its answer, and the history is all of them. -/
def HistoryMirrors (checkpoint : Checkpoint) (turns : List (Turn B W)) : Prop :=
  EachReturns py (fun before turn final =>
    final.state.messages = before.messages ++ exchange (turn.pair final)) checkpoint turns ∧
  (converse py checkpoint turns).messages =
    checkpoint.messages ++ (dialogue py checkpoint turns).flatMap exchange

/-- No run that returns has a terminal answer set before its respond node. -/
def LeavesAnswers (checkpoint : Checkpoint) (turns : List (Turn B W)) : Prop :=
  EachReturns py (fun before turn _ => ∀ visit ∈ turn.visits py before,
    ¬ SetsAnswer py
      { turn.ctx with availableTools := allowedTools turn.policy turn.ctx.availableTools }
      visit.1 visit.2) checkpoint turns

end

section

variable {py : Interpreter} {checkpoint : Checkpoint} {turn : Turn B W}

theorem EachReturns.imp {P P' : Checkpoint → Turn B W → RunState B W → Prop}
    {turns : List (Turn B W)} (h : EachReturns py P checkpoint turns)
    (himp : ∀ before turn final, turn.progress py before = .finished final → P before turn final →
      P' before turn final) : EachReturns py P' checkpoint turns := by
  induction turns generalizing checkpoint with
  | nil => trivial
  | cons turn rest ih =>
    exact ⟨fun final hfinished =>
      himp checkpoint turn final hfinished (h.1 final hfinished), ih h.2⟩

/-- A run that does not return leaves the messages as they were. -/
theorem messages_of_unfinished (h : ∀ final, turn.progress py checkpoint ≠ .finished final) :
    (turn.progress py checkpoint).checkpoint.messages = checkpoint.messages := by
  have hending := ainvoke_ending py turn.ctx turn.policy checkpoint turn.maxToolCalls
    turn.allowToolCalls turn.brain turn.world turn.recursionLimit
  change Ending _ _ _ _ (turn.progress py checkpoint) at hending
  generalize turn.progress py checkpoint = progress at h hending ⊢
  cases hending with
  | cut messages _ => exact messages
  | @responded _ final => exact (h final rfl).elim
  | @answered _ final => exact (h final rfl).elim

/-- A run that returns adds its exchange exactly when no node before the respond node sets the
answer. -/
theorem messages_iff {final : RunState B W} (h : turn.progress py checkpoint = .finished final) :
    final.state.messages = checkpoint.messages ++ exchange (turn.pair final) ↔
      ∀ visit ∈ turn.visits py checkpoint, ¬ SetsAnswer py { turn.ctx with
        availableTools := allowedTools turn.policy turn.ctx.availableTools } visit.1 visit.2 := by
  have hending := ainvoke_ending py turn.ctx turn.policy checkpoint turn.maxToolCalls
    turn.allowToolCalls turn.brain turn.world turn.recursionLimit
  change Ending _ _ (turn.visits py checkpoint) _ (turn.progress py checkpoint) at hending
  rw [h] at hending
  cases hending with
  | cut _ unfinished => exact (unfinished final rfl).elim
  | responded quiet messages responded =>
    refine ⟨fun _ => quiet, fun _ => ?_⟩
    unfold exchange Turn.pair
    rw [agentRunResult_answer responded.nonempty, responded.messages, messages]
    rfl
  | answered mem sets only messages answered =>
    constructor
    · intro hmessages
      have hsame : final.state.messages = checkpoint.messages := answered.messages.trans messages
      rw [hsame] at hmessages
      have hlength := congrArg List.length hmessages
      rw [List.length_append] at hlength
      unfold exchange at hlength
      simp at hlength
    · intro hquiet
      exact (hquiet _ mem sets).elim

/-- The history is the dialogue when every run that returns adds its exchange. -/
theorem converse_messages {turns : List (Turn B W)}
    (h : EachReturns py (fun before turn final =>
      final.state.messages = before.messages ++ exchange (turn.pair final)) checkpoint turns) :
    (converse py checkpoint turns).messages =
      checkpoint.messages ++ (dialogue py checkpoint turns).flatMap exchange := by
  induction turns generalizing checkpoint with
  | nil => exact (List.append_nil _).symm
  | cons turn rest ih =>
    have hrest := ih h.2
    have hfirst := h.1
    unfold converse dialogue
    rw [hrest, List.flatMap_append, ← List.append_assoc]
    congr 1
    cases hprogress : turn.progress py checkpoint with
    | finished final =>
      have hmessages : (Progress.finished final).checkpoint.messages =
          checkpoint.messages ++ exchange (turn.pair final) := hfirst final hprogress
      simpa using hmessages
    | raised e run =>
      have hunfinished : ∀ final, turn.progress py checkpoint ≠ .finished final := by
        intro final heq
        rw [hprogress] at heq
        cases heq
      have hmessages := messages_of_unfinished hunfinished
      rw [hprogress] at hmessages
      simpa using hmessages
    | before node run =>
      have hunfinished : ∀ final, turn.progress py checkpoint ≠ .finished final := by
        intro final heq
        rw [hprogress] at heq
        cases heq
      have hmessages := messages_of_unfinished hunfinished
      rw [hprogress] at hmessages
      simpa using hmessages

/-- The checkpointed history mirrors the dialogue exactly when no run that returns was answered
before its respond node. -/
theorem historyMirrors_iff (py : Interpreter) (checkpoint : Checkpoint) (turns : List (Turn B W)) :
    HistoryMirrors py checkpoint turns ↔ LeavesAnswers py checkpoint turns := by
  constructor
  · rintro ⟨heach, -⟩
    exact heach.imp (fun before turn final hfinished hmessages =>
      (messages_iff hfinished).mp hmessages)
  · intro hleaves
    have heach := EachReturns.imp hleaves
      (fun before turn final hfinished hquiet => (messages_iff hfinished).mpr hquiet)
    exact ⟨heach, converse_messages heach⟩

end

/-- The question about the pump, with a budget of two calls. -/
def pumpTurn : Turn Unit Unit where
  ctx := pumpComposer.context pumpContext
  policy := pumpPolicy
  maxToolCalls := 2
  allowToolCalls := true
  brain := ()
  world := ()
  recursionLimit := 25

/-- The run returns an answer, and the history does not have it. -/
theorem pump_not_historyMirrors : ¬ HistoryMirrors .ascii {} [pumpTurn] := by
  rintro ⟨⟨hextends, -⟩, -⟩
  have hrun : (match pumpTurn.progress .ascii {} with
      | .finished final => decide (final.state.messages = [])
      | _ => false) = true := by decide
  split at hrun
  · rename_i final hfinished
    have hmessages : final.state.messages = [] ++ exchange (pumpTurn.pair final) :=
      hextends final hfinished
    rw [of_decide_eq_true hrun] at hmessages
    cases hmessages
  · cases hrun

end HotAirBalloon.Agent
