import HotAirBalloon.Agent.Visits

/-!
# The tool-call budget

`Counted` relates the budget to the calls of the invoker: what is recorded, plus the pending
call, is what was called, and the pending call is one that the budget still allows, so that
recording it cannot fail. `Before` says what holds before each node and how many visits lead
to it: four for each recorded call. `ainvoke_budget` puts the bounds together.
-/

namespace HotAirBalloon.Agent

open Python Gateway

variable {B W : Type} {py : Interpreter} {ctx : GraphContext B W}

/-- How often a tool was called. -/
def callCount (run : RunState B W) (toolName : String) : Nat :=
  run.invocations.countP (fun call => call.1 = toolName)

/-- The recorded calls of a tool. -/
def ToolCallBudget.recorded (budget : ToolCallBudget) (toolName : String) : Int :=
  (budget.perToolCalls.get? toolName).getD 0

/-- The bounds on the calls of a run. -/
structure Bounded (ctx : GraphContext B W) (total perTool : Int) (run : RunState B W) : Prop where
  length_le : (run.invocations.length : Int) ≤ total
  count_le : ∀ toolName, (callCount run toolName : Int) ≤ perTool
  available : ∀ call ∈ run.invocations, ∃ tool ∈ ctx.availableTools, tool.name = call.1

/-- The budget accounts for every call; a pending call is not recorded yet. -/
structure Counted (ctx : GraphContext B W) (total perTool : Int) (run : RunState B W) : Prop where
  perTool_eq : run.callBudget.maxCallsPerTool = perTool
  total_eq : run.callBudget.totalCalls + run.callBudget.remainingCalls = total
  remaining_nonneg : 0 ≤ run.callBudget.remainingCalls
  recorded_le : ∀ toolName, run.callBudget.recorded toolName ≤ perTool
  length_eq : (run.invocations.length : Int) =
    run.callBudget.totalCalls + if run.state.pendingCall.isSome then 1 else 0
  count_eq : ∀ toolName, (callCount run toolName : Int) = run.callBudget.recorded toolName +
    if run.state.pendingCall.map (·.toolName) = some toolName then 1 else 0
  pending_canCall : ∀ toolCall, run.state.pendingCall = some toolCall →
    run.callBudget.canCall toolCall.toolName = true
  available : ∀ call ∈ run.invocations, ∃ tool ∈ ctx.availableTools, tool.name = call.1

theorem recorded_lt_of_canCall {budget : ToolCallBudget} {toolName : String}
    (h : budget.canCall toolName = true) : budget.recorded toolName < budget.maxCallsPerTool := by
  unfold ToolCallBudget.canCall at h
  simp only [Bool.and_eq_true, decide_eq_true_eq] at h
  exact h.2

theorem record_ok {budget : ToolCallBudget} {toolName : String}
    (h : budget.canCall toolName = true) : ∃ budget', budget.record toolName = .ok budget' := by
  unfold ToolCallBudget.record
  rw [h]
  exact ⟨_, rfl⟩

/-- What `record` does when it does not raise. -/
theorem record_spec {budget budget' : ToolCallBudget} {toolName : String}
    (h : budget.record toolName = .ok budget') :
    budget.canCall toolName = true ∧ budget'.maxCallsPerTool = budget.maxCallsPerTool ∧
      budget'.totalCalls = budget.totalCalls + 1 ∧
      budget'.remainingCalls = budget.remainingCalls - 1 ∧
      ∀ name, budget'.recorded name = budget.recorded name + if name = toolName then 1 else 0 := by
  unfold ToolCallBudget.record at h
  split at h
  · cases h
  · rename_i hcan
    cases h
    refine ⟨by simpa using hcan, rfl, rfl, rfl, ?_⟩
    intro name
    unfold ToolCallBudget.recorded
    by_cases hname : name = toolName
    · subst hname
      simp
    · simp [hname, Dict.get?_set_of_ne hname]

namespace Counted

variable {total perTool : Int} {run run' : RunState B W}

theorem of_same (h : Counted ctx total perTool run) (same : SameCalls run run') :
    Counted ctx total perTool run' := by
  obtain ⟨hbudget, hinvocations, hpending, -⟩ := same
  constructor
  · rw [hbudget]; exact h.perTool_eq
  · rw [hbudget]; exact h.total_eq
  · rw [hbudget]; exact h.remaining_nonneg
  · rw [hbudget]; exact h.recorded_le
  · rw [hbudget, hinvocations, hpending]; exact h.length_eq
  · intro toolName
    have := h.count_eq toolName
    unfold callCount at this ⊢
    rw [hbudget, hinvocations, hpending]
    exact this
  · rw [hbudget, hpending]; exact h.pending_canCall
  · rw [hinvocations]; exact h.available

theorem bounded (h : Counted ctx total perTool run) : Bounded ctx total perTool run := by
  refine ⟨?_, ?_, h.available⟩
  · have hlen := h.length_eq
    have htotal := h.total_eq
    have hnonneg := h.remaining_nonneg
    cases hpending : run.state.pendingCall with
    | none =>
      simp only [hpending, Option.isSome_none, Bool.false_eq_true, if_false] at hlen
      omega
    | some toolCall =>
      have := remaining_of_canCall (h.pending_canCall toolCall hpending)
      simp only [hpending, Option.isSome_some, if_true] at hlen
      omega
  · intro toolName
    rw [h.count_eq]
    split
    · rename_i hname
      obtain ⟨toolCall, hpending, rfl⟩ := Option.map_eq_some_iff.mp hname
      have := recorded_lt_of_canCall (h.pending_canCall toolCall hpending)
      have := h.perTool_eq
      omega
    · have := h.recorded_le toolName
      omega

theorem available_of_called {toolName : String} (h : Counted ctx total perTool run)
    (called : Called py ctx toolName run run') :
    ∀ call ∈ run'.invocations, ∃ tool ∈ ctx.availableTools, tool.name = call.1 := by
  intro call hcall
  rw [called.invocations] at hcall
  rcases List.mem_append.mp hcall with hcall | hcall
  · exact h.available call hcall
  · obtain ⟨descriptor, -, hfind, -⟩ := called.vetted
    rw [List.mem_singleton.mp hcall]
    refine ⟨descriptor, List.mem_of_find?_eq_some hfind, ?_⟩
    simpa using List.find?_some hfind

theorem callCount_of_called {toolName : String} (called : Called py ctx toolName run run')
    (name : String) :
    callCount run' name = callCount run name + if toolName = name then 1 else 0 := by
  unfold callCount
  rw [called.invocations, List.countP_append, List.countP_singleton]
  simp

/-- A call whose result is pending is counted, but not recorded. -/
theorem of_answered {toolName : String} {toolCall : ToolCallRecord}
    (h : Counted ctx total perTool run) (hnone : run.state.pendingCall = none)
    (called : Called py ctx toolName run run') (pending : run'.state.pendingCall = some toolCall)
    (name : toolCall.toolName = toolName) : Counted ctx total perTool run' := by
  have hbudget := called.callBudget
  constructor
  · rw [hbudget]; exact h.perTool_eq
  · rw [hbudget]; exact h.total_eq
  · rw [hbudget]; exact h.remaining_nonneg
  · rw [hbudget]; exact h.recorded_le
  · have hlen := h.length_eq
    rw [hnone] at hlen
    rw [hbudget, pending, called.invocations]
    simp only [Option.isSome_none, Bool.false_eq_true, if_false] at hlen
    simp only [List.length_append, List.length_singleton, Option.isSome_some, if_true]
    omega
  · intro name'
    have hcount := h.count_eq name'
    rw [hnone] at hcount
    simp only [Option.map_none, reduceCtorEq, if_false] at hcount
    rw [callCount_of_called called, hbudget, pending, Option.map_some, name]
    by_cases hname : toolName = name'
    · simp only [hname, if_true]
      omega
    · simp only [hname, if_false, Option.some.injEq]
      omega
  · intro toolCall' hpending'
    obtain rfl : toolCall = toolCall' := by simpa [pending] using hpending'
    rw [hbudget, name]
    exact called.canCall
  · exact h.available_of_called called

/-- A call without a pending result still respects the bounds. -/
theorem bounded_of_called {toolName : String} (h : Counted ctx total perTool run)
    (hnone : run.state.pendingCall = none) (called : Called py ctx toolName run run') :
    Bounded ctx total perTool run' := by
  have hremaining := remaining_of_canCall called.canCall
  refine ⟨?_, ?_, h.available_of_called called⟩
  · have hlen := h.length_eq
    rw [hnone] at hlen
    simp only [Option.isSome_none, Bool.false_eq_true, if_false] at hlen
    rw [called.invocations, List.length_append, List.length_singleton]
    have := h.total_eq
    omega
  · intro name
    have hcount := h.count_eq name
    rw [hnone] at hcount
    simp only [Option.map_none, reduceCtorEq, if_false] at hcount
    rw [callCount_of_called called]
    by_cases hname : toolName = name
    · subst hname
      have := recorded_lt_of_canCall called.canCall
      have := h.perTool_eq
      simp only [if_true]
      omega
    · have := h.recorded_le name
      simp only [hname, if_false]
      omega

theorem of_observed {toolCall : ToolCallRecord} (h : Counted ctx total perTool run)
    (pending : run.state.pendingCall = some toolCall)
    (record : run.callBudget.record toolCall.toolName = .ok run'.callBudget)
    (invocations : run'.invocations = run.invocations) (settled : run'.state.pendingCall = none) :
    Counted ctx total perTool run' := by
  obtain ⟨hcan, hmax, htotal, hremaining, hrecorded⟩ := record_spec record
  have hpos := remaining_of_canCall hcan
  have hcap := recorded_lt_of_canCall hcan
  constructor
  · rw [hmax]; exact h.perTool_eq
  · have := h.total_eq
    omega
  · omega
  · intro name
    rw [hrecorded]
    have := h.recorded_le name
    have := h.perTool_eq
    split
    · rename_i hname
      subst hname
      omega
    · omega
  · have := h.length_eq
    simp only [pending, Option.isSome_some, if_true] at this
    simp only [settled, Option.isSome_none, Bool.false_eq_true, if_false, invocations]
    omega
  · intro name
    have := h.count_eq name
    unfold callCount at this ⊢
    simp only [pending, Option.map_some, Option.some.injEq] at this
    simp only [settled, Option.map_none, reduceCtorEq, if_false, invocations, hrecorded]
    by_cases hname : toolCall.toolName = name
    · simp only [hname, if_true] at this ⊢
      omega
    · simp only [hname, Ne.symm hname, if_false] at this ⊢
      omega
  · intro toolCall' hpending'
    rw [settled] at hpending'
    cases hpending'
  · rw [invocations]
    exact h.available

end Counted

/-! ## Before each node -/

/-- Every call is recorded. -/
def Settled (ctx : GraphContext B W) (total perTool : Int) (run : RunState B W) : Prop :=
  Counted ctx total perTool run ∧ run.state.pendingCall = none

/-- What holds before a node: each recorded call took four visits. -/
def Before (ctx : GraphContext B W) (total perTool : Int) (node : Node)
    (run : RunState B W) : Prop :=
  let calls : Int := run.callBudget.totalCalls
  let visits : Int := run.visits.length
  match node with
  | .classifyIntent => Settled ctx total perTool run ∧ calls = 0 ∧ visits = 0
  | .planAction => Settled ctx total perTool run ∧ visits = 4 * calls + 1
  | .toolCall =>
    Settled ctx total perTool run ∧ visits = 4 * calls + 2 ∧ 0 < run.callBudget.remainingCalls
  | .observeResult => Counted ctx total perTool run ∧ visits = 4 * calls + 3 ∧
    run.state.pendingCall.isSome = true
  | .decideNextStep => Settled ctx total perTool run ∧ visits = 4 * calls
  | .respond => Bounded ctx total perTool run ∧ visits ≤ 4 * total + 2

/-- What holds at the end of a run. -/
def AtEnd (ctx : GraphContext B W) (total perTool : Int) (run : RunState B W) : Prop :=
  Bounded ctx total perTool run ∧ (run.visits.length : Int) ≤ 4 * total + 3

section

variable {total perTool : Int}

theorem calls_le {run : RunState B W} (h : Counted ctx total perTool run) :
    run.callBudget.totalCalls ≤ total := by
  have := h.total_eq
  have := h.remaining_nonneg
  omega

/-- Before any node the bounds hold and the end of the run is at least one visit away. -/
theorem Before.bounded {node : Node} {run : RunState B W} (h : Before ctx total perTool node run) :
    Bounded ctx total perTool run ∧ (run.visits.length : Int) ≤ 4 * total + 2 := by
  cases node with
  | classifyIntent =>
    obtain ⟨⟨hcounted, -⟩, hcalls, hvisits⟩ := h
    have := calls_le hcounted
    exact ⟨hcounted.bounded, by omega⟩
  | planAction =>
    obtain ⟨⟨hcounted, -⟩, hvisits⟩ := h
    have := calls_le hcounted
    exact ⟨hcounted.bounded, by omega⟩
  | toolCall =>
    obtain ⟨⟨hcounted, -⟩, hvisits, -⟩ := h
    have := calls_le hcounted
    exact ⟨hcounted.bounded, by omega⟩
  | observeResult =>
    obtain ⟨hcounted, hvisits, hpending⟩ := h
    obtain ⟨toolCall, hsome⟩ := Option.isSome_iff_exists.mp hpending
    have := remaining_of_canCall (hcounted.pending_canCall toolCall hsome)
    have := hcounted.total_eq
    exact ⟨hcounted.bounded, by omega⟩
  | decideNextStep =>
    obtain ⟨⟨hcounted, -⟩, hvisits⟩ := h
    have := calls_le hcounted
    exact ⟨hcounted.bounded, by omega⟩
  | respond => exact h

theorem Counted.entering {run : RunState B W} {node : Node} (h : Counted ctx total perTool run) :
    Counted ctx total perTool (run.entering node) :=
  ⟨h.1, h.2, h.3, h.4, h.5, h.6, h.7, h.8⟩

theorem entering_visits (run : RunState B W) (node : Node) :
    ((run.entering node).visits.length : Int) = run.visits.length + 1 := by
  simp [RunState.entering]

theorem Settled.of_same {run run' : RunState B W} {node : Node} (h : Settled ctx total perTool run)
    (same : SameCalls (run.entering node) run') : Settled ctx total perTool run' :=
  ⟨h.1.entering.of_same same, same.pendingCall.trans h.2⟩

/-- The visits of a run whose tool calls a visit left alone. -/
theorem visits_of_same {run run' : RunState B W} {node : Node}
    (same : SameCalls (run.entering node) run') :
    (run'.visits.length : Int) = run.visits.length + 1 ∧
      run'.callBudget.totalCalls = run.callBudget.totalCalls ∧
      run'.callBudget.remainingCalls = run.callBudget.remainingCalls := by
  refine ⟨?_, ?_, ?_⟩
  · rw [same.visits]
    exact entering_visits run node
  · rw [same.callBudget]
    rfl
  · rw [same.callBudget]
    rfl

theorem Bounded.of_same {run run' : RunState B W} {node : Node} (h : Bounded ctx total perTool run)
    (same : SameCalls (run.entering node) run') : Bounded ctx total perTool run' := by
  have hinvocations : run'.invocations = run.invocations := same.invocations
  obtain ⟨hlen, hcount, havailable⟩ := h
  refine ⟨?_, ?_, ?_⟩
  · rw [hinvocations]
    exact hlen
  · unfold callCount at hcount ⊢
    rw [hinvocations]
    exact hcount
  · rw [hinvocations]
    exact havailable

/-- One visit leads from what holds before its node to what holds before the next. -/
theorem before_step {node next : Node} {run run' : RunState B W}
    (h : Before ctx total perTool node run)
    (hstep : VisitStep py ctx node (run.entering node) run' (.ok (some next))) :
    Before ctx total perTool next run' := by
  have hvisits := entering_visits run node
  cases hstep with
  | quiet same edge =>
    obtain ⟨hlen, hcalls, hremaining⟩ := visits_of_same same
    cases edge with
    | classified =>
      obtain ⟨hsettled, hzero, hnone⟩ := h
      exact ⟨hsettled.of_same same, by omega⟩
    | planned hpos =>
      obtain ⟨hsettled, hvisit⟩ := h
      exact ⟨hsettled.of_same same, by omega, by rw [hremaining]; exact hpos⟩
    | declined =>
      obtain ⟨hsettled, hvisit⟩ := h
      have := calls_le hsettled.1
      exact ⟨hsettled.1.bounded.of_same same, by omega⟩
    | blocked =>
      obtain ⟨hsettled, hvisit, hpos⟩ := h
      have := hsettled.1.total_eq
      exact ⟨hsettled.1.bounded.of_same same, by omega⟩
    | idle hnone =>
      obtain ⟨-, -, hpending⟩ := h
      have hnone' : run.state.pendingCall = none := hnone
      rw [hnone'] at hpending
      cases hpending
    | again hpos =>
      obtain ⟨hsettled, hvisit⟩ := h
      exact ⟨hsettled.of_same same, by omega⟩
    | exhausted hpos =>
      obtain ⟨hsettled, hvisit⟩ := h
      have := calls_le hsettled.1
      exact ⟨hsettled.1.bounded.of_same same, by omega⟩
  | invalidIdentity called =>
    obtain ⟨hsettled, hvisit, hpos⟩ := h
    have := hsettled.1.total_eq
    refine ⟨hsettled.1.entering.bounded_of_called hsettled.2 called, ?_⟩
    rw [called.visits]
    omega
  | answered called pending name =>
    obtain ⟨hsettled, hvisit, hpos⟩ := h
    refine ⟨hsettled.1.entering.of_answered hsettled.2 called pending name,
      ?_, by rw [pending]; rfl⟩
    have hcalls : run'.callBudget.totalCalls = run.callBudget.totalCalls := by
      rw [called.callBudget]
      rfl
    rw [called.visits]
    omega
  | observed pending record invocations settled visits =>
    obtain ⟨hcounted, hvisit, hpending⟩ := h
    refine ⟨⟨hcounted.entering.of_observed pending record invocations settled, settled⟩, ?_⟩
    obtain ⟨-, -, htotal, -⟩ := record_spec record
    have hcalls : run'.callBudget.totalCalls = run.callBudget.totalCalls + 1 := htotal
    rw [visits]
    omega

theorem atEnd_of_finish {node : Node} {run run' : RunState B W}
    (h : Before ctx total perTool node run)
    (hstep : VisitStep py ctx node (run.entering node) run' (.ok none)) :
    AtEnd ctx total perTool run' := by
  cases hstep with
  | quiet same edge =>
    obtain ⟨hlen, -, -⟩ := visits_of_same same
    obtain ⟨hbounded, hvisits⟩ := h.bounded
    exact ⟨hbounded.of_same same, by omega⟩

theorem atEnd_of_raise {node : Node} {run run' : RunState B W} {e : PyError}
    (h : Before ctx total perTool node run)
    (hstep : VisitStep py ctx node (run.entering node) run' (.error e)) :
    AtEnd ctx total perTool run' := by
  obtain ⟨hbounded, hvisits⟩ := h.bounded
  cases hstep with
  | raised same =>
    obtain ⟨hlen, -, -⟩ := visits_of_same same
    exact ⟨hbounded.of_same same, by omega⟩
  | invokerRaised called =>
    obtain ⟨hsettled, hvisit, -⟩ := h
    refine ⟨hsettled.1.entering.bounded_of_called hsettled.2 called, ?_⟩
    have := entering_visits run .toolCall
    rw [called.visits]
    omega

/-- The run rule for the budget. -/
theorem runFor_budget (py : Interpreter) (ctx : GraphContext B W) (limit : Nat) {node : Node}
    {run : RunState B W} (h : Before ctx total perTool node run) :
    match runFor py ctx limit node run with
    | .finished run' => AtEnd ctx total perTool run'
    | .raised _ run' => AtEnd ctx total perTool run'
    | .before node' run' => Before ctx total perTool node' run' ∧
        run'.visits.length = run.visits.length + limit :=
  runFor_invariant py ctx (Before ctx total perTool) (AtEnd ctx total perTool)
    (fun _ _ _ _ => before_step) (fun _ _ _ => atEnd_of_finish)
      (fun _ _ _ _ => atEnd_of_raise) limit h

end

/-! ## Runs of the orchestrator -/

theorem effectiveMaxToolCalls_nonneg {policy : ToolCallPolicy} (h : 0 ≤ policy.maxTotalCalls)
    (maxToolCalls : Int) (allowToolCalls : Bool) :
    0 ≤ effectiveMaxToolCalls policy maxToolCalls allowToolCalls := by
  unfold effectiveMaxToolCalls
  split <;> omega

theorem before_initialRun {policy : ToolCallPolicy} (htotal : 0 ≤ policy.maxTotalCalls)
    (hperTool : 0 ≤ policy.maxCallsPerTool) (checkpoint : Checkpoint) (maxToolCalls : Int)
    (allowToolCalls : Bool) (brain : B) (world : W) :
    Before ctx (effectiveMaxToolCalls policy maxToolCalls allowToolCalls) policy.maxCallsPerTool
      .classifyIntent
      (initialRun checkpoint policy maxToolCalls allowToolCalls brain world) := by
  refine ⟨⟨⟨rfl, ?_, ?_, ?_, rfl, ?_, ?_, ?_⟩, rfl⟩, rfl, rfl⟩
  · exact zero_add _
  · exact effectiveMaxToolCalls_nonneg htotal maxToolCalls allowToolCalls
  · intro toolName
    exact hperTool
  · intro toolName
    rfl
  · intro toolCall h
    cases h
  · intro call h
    cases h

/-- The tool budget of a run: at most `N` calls of the invoker and at most `maxCallsPerTool` of
one tool, only of tools that are both allowed and available; recording an observed call
never raises; and after at most `4 * N + 3` visits the run is over. -/
theorem ainvoke_budget (py : Interpreter) (ctx : GraphContext B W) (policy : ToolCallPolicy)
    (htotal : 0 ≤ policy.maxTotalCalls) (hperTool : 0 ≤ policy.maxCallsPerTool)
    (checkpoint : Checkpoint) (maxToolCalls : Int) (allowToolCalls : Bool) (brain : B) (world : W)
    (recursionLimit : Nat) :
    let total := effectiveMaxToolCalls policy maxToolCalls allowToolCalls
    let result := ainvoke py ctx policy checkpoint maxToolCalls allowToolCalls brain world
      recursionLimit
    (result.run.invocations.length : Int) ≤ total ∧
      (∀ toolName, (callCount result.run toolName : Int) ≤ policy.maxCallsPerTool) ∧
      (∀ call ∈ result.run.invocations, call.1 ∈ policy.allowedToolNames ∧
        ∃ tool ∈ ctx.availableTools, tool.name = call.1) ∧
      (∀ run toolCall, result = .before .observeResult run →
        run.state.pendingCall = some toolCall →
        ∃ budget, run.callBudget.record toolCall.toolName = .ok budget) ∧
      (result.run.visits.length : Int) ≤ 4 * total + 3 ∧
      (4 * total + 3 ≤ recursionLimit → ∀ node run, result ≠ .before node run) := by
  intro total result
  have hrun := runFor_budget py
    { ctx with availableTools := allowedTools policy ctx.availableTools } recursionLimit
    (before_initialRun htotal hperTool checkpoint maxToolCalls allowToolCalls brain world)
  change match result with
    | .finished run' => _
    | .raised _ run' => _
    | .before node' run' => _ at hrun
  have hend : AtEnd { ctx with availableTools := allowedTools policy ctx.availableTools } total
      policy.maxCallsPerTool result.run := by
    revert hrun
    cases result with
    | finished run => exact id
    | raised e run => exact id
    | before node run =>
      rintro ⟨hbefore, -⟩
      obtain ⟨hbounded, hvisits⟩ := hbefore.bounded
      exact ⟨hbounded, by simp only [Progress.run]; omega⟩
  refine ⟨hend.1.length_le, hend.1.count_le, ?_, ?_, hend.2, ?_⟩
  · intro call hcall
    obtain ⟨tool, htool, hname⟩ := hend.1.available call hcall
    obtain ⟨hmem, hallowed⟩ := List.mem_filter.mp htool
    refine ⟨?_, tool, hmem, hname⟩
    rw [← hname]
    simpa using hallowed
  · intro run toolCall hresult hpending
    rw [hresult] at hrun
    obtain ⟨⟨hcounted, -, -⟩, -⟩ := hrun
    exact record_ok (hcounted.pending_canCall toolCall hpending)
  · intro hlimit node run hresult
    rw [hresult] at hrun
    obtain ⟨hbefore, hlen⟩ := hrun
    obtain ⟨-, hvisits⟩ := hbefore.bounded
    have hzero :
        (initialRun checkpoint policy maxToolCalls allowToolCalls brain world).visits.length = 0 :=
      rfl
    omega

/-- A run with one tool and a brain without opinions. -/
def assetContext : GraphContext Unit Unit where
  brain := {
    classifyIntent := fun _ b => (b, .ok "asset_status")
    planAction := fun _ b => (b, .ok respondAction)
    respond := fun _ b => (b, .ok "") }
  availableTools := [{ name := "get_asset_status" }]
  toolInvoker := fun toolName payload w =>
    (w, .ok { toolName, payload, status := .success, evidence := [], result := [] })
  contextPrompt := ""
  userQuery := "asset status at PLANT-1"
  composeAnswer := fun _ _ => .ok "1 asset"

/-- The deterministic plan calls the tool once, and the per-tool limit stops the second call. -/
theorem ainvoke_budget_asset :
    (ainvoke .ascii assetContext { allowedToolNames := ["get_asset_status"] } {} 4 true () ()
        25).run.invocations.length = 1 ∧
      ((ainvoke .ascii assetContext { allowedToolNames := ["get_asset_status"] } {} 4 true () ()
        25).run.visits.length : Int) ≤
        4 * effectiveMaxToolCalls { allowedToolNames := ["get_asset_status"] } 4 true + 3 := by
  obtain ⟨-, -, -, -, hvisits, -⟩ := ainvoke_budget .ascii assetContext
    { allowedToolNames := ["get_asset_status"] } (by decide) (by decide) {} 4 true () () 25
  exact ⟨by decide +kernel, hvisits⟩

end HotAirBalloon.Agent
