import HotAirBalloon.Library.Bracketing
import HotAirBalloon.Python.Value

/-!
# The lifecycle of the container

`Container.start` and `Container.close` over resources whose `start` and `stop`, like the `dispose`
of the engine, may raise at any call. `lifecycle` speaks of the state after any calls and of the
call after them: what has been started is stopped once, newest first, or is still held, and nothing
is held outside of a successful start.
-/

namespace HotAirBalloon.Application

open Python Library

/-! ## Calls of the container -/

inductive ResourceCall (ρ : Type) where
  | start (resource : ρ)
  | stop (resource : ρ)
  | dispose
  deriving DecidableEq

/-- A call with the error that it raised. -/
structure CallEvent (ρ : Type) where
  call : ResourceCall ρ
  error : Option PyError
  deriving DecidableEq

/-- Which calls raise, by their place in the log of all calls. -/
abbrev Failures := Nat → Option PyError

abbrev Log (ρ : Type) := List (CallEvent ρ)

/-- What a method of the container raises: one error, or a `BaseExceptionGroup`. -/
inductive Raised where
  | error (e : PyError)
  | group (message : String) (errors : List PyError)
  deriving DecidableEq

/-- The errors that are contained in what is raised. -/
def Raised.errors : Raised → List PyError
  | error e => [e]
  | group _ errors => errors

structure Container (ρ : Type) where
  resources : List ρ
  startedResources : List ρ := []
  started : Bool := false
  closed : Bool := false

structure State (ρ : Type) where
  container : Container ρ
  log : Log ρ

variable {ρ : Type} (failures : Failures)

/-- Await one call. -/
def perform (call : ResourceCall ρ) (log : Log ρ) : Option PyError × Log ρ :=
  (failures log.length, log ++ [⟨call, failures log.length⟩])

/-- The loop of `start`: the error that ended it and the resources that have started. -/
def startEach : List ρ → List ρ → Log ρ → Option PyError × List ρ × Log ρ
  | [], startedResources, log => (none, startedResources, log)
  | resource :: rest, startedResources, log =>
    match perform failures (.start resource) log with
    | (none, log) => startEach rest (startedResources ++ [resource]) log
    | (some e, log) => (some e, startedResources, log)

/-- The loops that stop resources and collect the errors. -/
def stopEach : List ρ → List PyError → Log ρ → List PyError × Log ρ
  | [], errors, log => (errors, log)
  | resource :: rest, errors, log =>
    match perform failures (.stop resource) log with
    | (none, log) => stopEach rest errors log
    | (some e, log) => stopEach rest (errors ++ [e]) log

def closedError : PyError := PyError.runtimeError "Cannot start a closed container"

/-- `Container.start`. -/
def start (s : State ρ) : Option Raised × State ρ :=
  if s.container.closed then (some (.error closedError), s)
  else if s.container.started then (none, s)
  else
    match startEach failures s.container.resources s.container.startedResources s.log with
    | (none, startedResources, log) =>
      (none, ⟨{ s.container with startedResources := startedResources, started := true }, log⟩)
    | (some startError, startedResources, log) =>
      let (cleanupErrors, log) := stopEach failures startedResources.reverse [] log
      let state : State ρ := ⟨{ s.container with startedResources := [] }, log⟩
      if cleanupErrors.isEmpty then (some (.error startError), state)
      else
        (some (.group "Container startup and rollback failed" (startError :: cleanupErrors)), state)

/-- `Container.close`. -/
def close (s : State ρ) : Option Raised × State ρ :=
  if s.container.closed then (none, s)
  else
    let (stopErrors, log) := stopEach failures s.container.startedResources.reverse [] s.log
    let (disposeError, log) := perform failures .dispose log
    let errors := stopErrors ++ disposeError.toList
    let state : State ρ :=
      ⟨{ s.container with closed := true, startedResources := [], started := false }, log⟩
    if errors.isEmpty then (none, state)
    else (some (.group "One or more container resources failed to close" errors), state)

inductive Method where
  | start
  | close
  deriving DecidableEq

def invoke (method : Method) (s : State ρ) : Option Raised × State ρ :=
  match method with
  | .start => start failures s
  | .close => close failures s

/-- The state after some calls, whatever they raised. -/
def runMethods (methods : List Method) (s : State ρ) : State ρ :=
  methods.foldl (fun s method => (invoke failures method s).2) s

def initial (resources : List ρ) : State ρ := ⟨{ resources := resources }, []⟩

/-! ## What is asked of it -/

/-- A start that returned opens a resource, a stop closes it. -/
def CallEvent.bracket? : CallEvent ρ → Option (Bracket ρ)
  | ⟨.start resource, none⟩ => some (.opened resource)
  | ⟨.stop resource, _⟩ => some (.closed resource)
  | _ => none

def brackets (log : Log ρ) : List (Bracket ρ) := log.filterMap CallEvent.bracket?

def errorsOf (log : Log ρ) : List PyError := log.filterMap CallEvent.error

/-- How often the engine has been told to dispose. -/
def disposals [DecidableEq ρ] (log : Log ρ) : Nat := (log.map CallEvent.call).count .dispose

/-- The log of all calls up to now: what was started was stopped once, newest first, or is held. -/
structure Accounted [DecidableEq ρ] (s : State ρ) : Prop where
  newestFirst : Bracket.replay (brackets s.log) [] = some s.container.startedResources.reverse
  disposedOnce : disposals s.log = if s.container.closed then 1 else 0
  heldWhileStarted : s.container.startedResources =
    if s.container.started then s.container.resources else []
  notStartedWhenClosed : s.container.closed = true → s.container.started = false

/-- What every call does: it goes on with the log and raises whatever its own calls have raised. -/
structure Traced (s : State ρ) (events : Log ρ) (raised : Option Raised) (s' : State ρ) : Prop where
  log : s'.log = s.log ++ events
  resources : s'.container.resources = s.container.resources
  errorsContained : (errorsOf events).Sublist (raised.toList.flatMap Raised.errors)

structure StartBehaved [DecidableEq ρ] (s : State ρ) (events : Log ρ) (raised : Option Raised)
    (s' : State ρ) : Prop extends Traced s events raised s' where
  returns : raised = none → s'.container.started = true
  fails : raised ≠ none → s'.container.startedResources = []
  again : s.container.closed = false → s.container.started = true →
    events = [] ∧ raised = none ∧ s' = s
  afterClose : s.container.closed = true →
    events = [] ∧ raised = some (.error closedError) ∧ s' = s
  keepsEngine : disposals events = 0 ∧ s'.container.closed = s.container.closed

structure CloseBehaved [DecidableEq ρ] (s : State ρ) (events : Log ρ) (raised : Option Raised)
    (s' : State ρ) : Prop extends Traced s events raised s' where
  ends : s'.container.closed = true ∧ s'.container.startedResources = []
  first : s.container.closed = false → disposals events = 1
  again : s.container.closed = true → events = [] ∧ raised = none ∧ s' = s

/-- A call that leads from `s` to `s'` and makes the calls `events`. -/
def WellBehaved [DecidableEq ρ] : Method → State ρ → Log ρ → Option Raised → State ρ → Prop
  | .start => StartBehaved
  | .close => CloseBehaved

/-! ## The loops -/

section

theorem brackets_append (log log' : Log ρ) :
    brackets (log ++ log') = brackets log ++ brackets log' :=
  List.filterMap_append

theorem errorsOf_append (log log' : Log ρ) :
    errorsOf (log ++ log') = errorsOf log ++ errorsOf log' :=
  List.filterMap_append

variable [DecidableEq ρ]

theorem disposals_append (log log' : Log ρ) :
    disposals (log ++ log') = disposals log + disposals log' := by
  unfold disposals
  rw [List.map_append, List.count_append]

/-- Every resource of the list is stopped, whatever the stops raise. -/
theorem stopEach_spec (resources : List ρ) (errors : List PyError) (log : Log ρ) :
    ∃ events, stopEach failures resources errors log = (errors ++ errorsOf events, log ++ events) ∧
      brackets events = resources.map .closed ∧ disposals events = 0 := by
  induction resources generalizing errors log with
  | nil => exact ⟨[], by simp [stopEach, errorsOf], rfl, rfl⟩
  | cons resource rest ih =>
    unfold stopEach perform
    cases hfails : failures log.length with
    | none =>
      obtain ⟨events, hrest, hbrackets, hdisposals⟩ :=
        ih errors (log ++ [⟨.stop resource, none⟩])
      refine ⟨⟨.stop resource, none⟩ :: events, ?_, ?_, ?_⟩
      · dsimp only
        rw [hrest, List.append_assoc]
        rfl
      · rw [List.map_cons, ← hbrackets]
        rfl
      · rw [← hdisposals]
        exact List.count_cons_of_ne (by simp)
    | some e =>
      obtain ⟨events, hrest, hbrackets, hdisposals⟩ :=
        ih (errors ++ [e]) (log ++ [⟨.stop resource, some e⟩])
      refine ⟨⟨.stop resource, some e⟩ :: events, ?_, ?_, ?_⟩
      · dsimp only
        rw [hrest, List.append_assoc, List.append_assoc]
        rfl
      · rw [List.map_cons, ← hbrackets]
        rfl
      · rw [← hdisposals]
        exact List.count_cons_of_ne (by simp)

/-- Resources start in their order until one raises. -/
theorem startEach_spec (resources startedResources : List ρ) (log : Log ρ) :
    ∃ error done events, startEach failures resources startedResources log =
        (error, startedResources ++ done, log ++ events) ∧
      brackets events = done.map .opened ∧ errorsOf events = error.toList ∧
      disposals events = 0 ∧ (error = none → done = resources) := by
  induction resources generalizing startedResources log with
  | nil => exact ⟨none, [], [], by simp [startEach], rfl, rfl, rfl, fun _ => rfl⟩
  | cons resource rest ih =>
    unfold startEach perform
    cases hfails : failures log.length with
    | none =>
      obtain ⟨error, done, events, hrest, hbrackets, herrors, hdisposals, hall⟩ :=
        ih (startedResources ++ [resource]) (log ++ [⟨.start resource, none⟩])
      refine ⟨error, resource :: done, ⟨.start resource, none⟩ :: events, ?_, ?_, herrors, ?_, ?_⟩
      · dsimp only
        rw [hrest, List.append_assoc, List.append_assoc]
        rfl
      · rw [List.map_cons, ← hbrackets]
        rfl
      · rw [← hdisposals]
        exact List.count_cons_of_ne (by simp)
      · intro hnone
        rw [hall hnone]
    | some e =>
      refine ⟨some e, [], [⟨.start resource, some e⟩], ?_, rfl, rfl, ?_, nofun⟩
      · rw [List.append_nil]
      · exact List.count_cons_of_ne (by simp)

end

/-! ## The methods -/

section

variable {s s' : State ρ} {events : Log ρ} {raised : Option Raised}

/-- A call that does nothing. -/
theorem Traced.refl (raised : Option Raised) : Traced s [] raised s :=
  ⟨(List.append_nil _).symm, rfl, List.nil_sublist _⟩

variable [DecidableEq ρ]

/-- Of a container that is open and not started, a start asks less. -/
theorem StartBehaved.of_open (htraced : Traced s events raised s')
    (hopen : s.container.closed = false) (hidle : s.container.started = false)
    (hreturns : raised = none → s'.container.started = true)
    (hfails : raised ≠ none → s'.container.startedResources = [])
    (hkeeps : disposals events = 0 ∧ s'.container.closed = s.container.closed) :
    StartBehaved s events raised s' := by
  refine ⟨htraced, hreturns, hfails, ?_, ?_, hkeeps⟩
  · intro _ hstarted
    rw [hidle] at hstarted
    cases hstarted
  · intro hclosed
    rw [hopen] at hclosed
    cases hclosed

/-- The state after a call is accounted for when the calls that it made are. -/
theorem Accounted.step (h : Accounted s) (hlog : s'.log = s.log ++ events)
    (hreplay : Bracket.replay (brackets events) s.container.startedResources.reverse =
      some s'.container.startedResources.reverse)
    (hdisposed : (if s.container.closed then 1 else 0) + disposals events =
      if s'.container.closed then 1 else 0)
    (hheld : s'.container.startedResources =
      if s'.container.started then s'.container.resources else [])
    (hclosed : s'.container.closed = true → s'.container.started = false) : Accounted s' := by
  refine ⟨?_, ?_, hheld, hclosed⟩
  · rw [hlog, brackets_append, Bracket.replay_append h.newestFirst, hreplay]
  · rw [hlog, disposals_append, h.disposedOnce, hdisposed]

theorem Accounted.held_of_idle (h : Accounted s) (hidle : s.container.started = false) :
    s.container.startedResources = [] := by
  rw [h.heldWhileStarted, hidle]
  rfl

/-- A start that calls resources. -/
theorem start_open (h : Accounted s) (hopen : s.container.closed = false)
    (hidle : s.container.started = false) :
    ∃ events, StartBehaved s events (start failures s).1 (start failures s).2 ∧
      Accounted (start failures s).2 := by
  have hheld := h.held_of_idle hidle
  obtain ⟨error, done, events, hloop, hbrackets, herrors, hdisposals, hall⟩ :=
    startEach_spec failures s.container.resources [] s.log
  have hopened : Bracket.replay (brackets events) s.container.startedResources.reverse =
      some (done.reverse ++ []) := by
    rw [hbrackets, hheld]
    exact Bracket.replay_opened done []
  unfold start
  rw [hopen, hidle, hheld, hloop]
  cases error with
  | none =>
    refine ⟨events, .of_open ⟨rfl, rfl, ?_⟩ hopen hidle (fun _ => rfl) (fun hne => absurd rfl hne)
      ⟨hdisposals, rfl⟩, h.step rfl ?_ ?_ (hall rfl) ?_⟩
    · rw [herrors]
      exact List.Sublist.refl _
    · rw [hopened, List.append_nil]
      rfl
    · rw [hdisposals]
      rfl
    · intro hclosed
      change s.container.closed = true at hclosed
      rw [hopen] at hclosed
      cases hclosed
  | some startError =>
    -- the rollback stops what has started, newest first
    obtain ⟨stops, hstops, hbrackets', hdisposals'⟩ :=
      stopEach_spec failures done.reverse [] (s.log ++ events)
    have hstate : Accounted (⟨{ s.container with startedResources := [] },
        s.log ++ events ++ stops⟩ : State ρ) := by
      refine h.step (List.append_assoc s.log events stops) ?_ ?_ ?_ (fun _ => hidle)
      · rw [brackets_append, Bracket.replay_append hopened, hbrackets']
        exact Bracket.replay_closed done.reverse []
      · rw [disposals_append, hdisposals, hdisposals']
        rfl
      · dsimp only
        rw [hidle]
        rfl
    have hdispose : disposals (events ++ stops) = 0 := by
      rw [disposals_append, hdisposals, hdisposals']
    have herrors' : errorsOf (events ++ stops) = startError :: errorsOf stops := by
      rw [errorsOf_append, herrors]
      rfl
    have hlog := List.append_assoc s.log events stops
    dsimp only [List.nil_append]
    rw [hstops, List.nil_append]
    by_cases hclean : (errorsOf stops).isEmpty = true
    · simp only [hclean, if_true, Bool.false_eq_true, if_false]
      refine ⟨events ++ stops, .of_open ⟨hlog, rfl, ?_⟩ hopen hidle nofun (fun _ => rfl)
        ⟨hdispose, rfl⟩, hstate⟩
      rw [herrors', List.isEmpty_iff.mp hclean]
      exact List.Sublist.refl _
    · simp only [hclean, if_false, Bool.false_eq_true]
      refine ⟨events ++ stops, .of_open ⟨hlog, rfl, ?_⟩ hopen hidle nofun (fun _ => rfl)
        ⟨hdispose, rfl⟩, hstate⟩
      rw [herrors']
      simp [Raised.errors]

theorem start_spec (h : Accounted s) :
    ∃ events, StartBehaved s events (start failures s).1 (start failures s).2 ∧
      Accounted (start failures s).2 := by
  cases hclosed : s.container.closed with
  | true =>
    have hheld := h.held_of_idle (h.notStartedWhenClosed hclosed)
    unfold start
    rw [if_pos hclosed]
    refine ⟨[], ⟨.refl _, nofun, fun _ => hheld, ?_, fun _ => ⟨rfl, rfl, rfl⟩, rfl, rfl⟩, h⟩
    intro hopen
    rw [hclosed] at hopen
    cases hopen
  | false =>
    cases hstarted : s.container.started with
    | true =>
      unfold start
      rw [hclosed, hstarted]
      refine ⟨[], ⟨.refl _, fun _ => hstarted, fun hne => absurd rfl hne,
        fun _ _ => ⟨rfl, rfl, rfl⟩, ?_, rfl, rfl⟩, h⟩
      intro hafter
      rw [hclosed] at hafter
      cases hafter
    | false => exact start_open failures h hclosed hstarted

theorem close_spec (h : Accounted s) :
    ∃ events, CloseBehaved s events (close failures s).1 (close failures s).2 ∧
      Accounted (close failures s).2 := by
  cases hclosed : s.container.closed with
  | true =>
    have hheld := h.held_of_idle (h.notStartedWhenClosed hclosed)
    unfold close
    rw [if_pos hclosed]
    refine ⟨[], ⟨.refl _, ⟨hclosed, hheld⟩, ?_, fun _ => ⟨rfl, rfl, rfl⟩⟩, h⟩
    intro hopen
    rw [hclosed] at hopen
    cases hopen
  | false =>
    obtain ⟨stops, hstops, hbrackets, hdisposals⟩ :=
      stopEach_spec failures s.container.startedResources.reverse [] s.log
    let disposal : CallEvent ρ := ⟨.dispose, failures (s.log ++ stops).length⟩
    have hlog : s.log ++ stops ++ [disposal] = s.log ++ (stops ++ [disposal]) :=
      List.append_assoc _ _ _
    have hdispose : disposals (stops ++ [disposal]) = 1 := by
      rw [disposals_append, hdisposals]
      rfl
    have herrors : errorsOf (stops ++ [disposal]) = errorsOf stops ++ disposal.error.toList := by
      rw [errorsOf_append]
      congr 1
    have hstate : Accounted (⟨
        { s.container with closed := true, startedResources := [], started := false },
        s.log ++ stops ++ [disposal]⟩ : State ρ) := by
      refine h.step hlog ?_ ?_ rfl (fun _ => rfl)
      · have hclosedAll := Bracket.replay_closed s.container.startedResources.reverse []
        rw [List.append_nil] at hclosedAll
        rw [brackets_append, hbrackets, Bracket.replay_append hclosedAll]
        rfl
      · rw [hdispose, hclosed]
        rfl
    have hagain : s.container.closed = true → ∀ {p : Prop}, p := by
      intro hafter
      rw [hclosed] at hafter
      cases hafter
    unfold close perform
    rw [hclosed, hstops]
    dsimp only [List.nil_append]
    simp only [Bool.false_eq_true, if_false]
    by_cases hclean : (errorsOf stops ++ disposal.error.toList).isEmpty = true
    · rw [if_pos hclean]
      refine ⟨stops ++ [disposal], ⟨⟨hlog, rfl, ?_⟩, ⟨rfl, rfl⟩, fun _ => hdispose,
        fun hafter => hagain hafter⟩, hstate⟩
      rw [herrors, List.isEmpty_iff.mp hclean]
      exact List.Sublist.refl _
    · rw [if_neg hclean]
      refine ⟨stops ++ [disposal], ⟨⟨hlog, rfl, ?_⟩, ⟨rfl, rfl⟩, fun _ => hdispose,
        fun hafter => hagain hafter⟩, hstate⟩
      rw [herrors]
      simp [Raised.errors, disposal]

theorem invoke_spec (method : Method) (h : Accounted s) :
    ∃ events,
      WellBehaved method s events (invoke failures method s).1 (invoke failures method s).2 ∧
      Accounted (invoke failures method s).2 := by
  cases method with
  | start => exact start_spec failures h
  | close => exact close_spec failures h

end

/-! ## Runs -/

section

variable [DecidableEq ρ]

theorem accounted_initial (resources : List ρ) : Accounted (initial resources) :=
  ⟨rfl, rfl, rfl, nofun⟩

theorem accounted_runMethods (methods : List Method) {s : State ρ} (h : Accounted s) :
    Accounted (runMethods failures methods s) := by
  induction methods generalizing s with
  | nil => exact h
  | cons method rest ih =>
    obtain ⟨-, -, hnext⟩ := invoke_spec failures method h
    exact ih hnext

/-- The container is closed by the first `close` and stays closed. -/
theorem closed_runMethods (methods : List Method) {s : State ρ} (h : Accounted s) :
    (runMethods failures methods s).container.closed = true ↔
      s.container.closed = true ∨ .close ∈ methods := by
  induction methods generalizing s with
  | nil => simp [runMethods]
  | cons method rest ih =>
    obtain ⟨events, hbehaved, hnext⟩ := invoke_spec failures method h
    have hrest := ih hnext
    change (runMethods failures rest (invoke failures method s).2).container.closed = true ↔ _
    rw [hrest]
    cases method with
    | start =>
      rw [(show StartBehaved s events _ _ from hbehaved).keepsEngine.2]
      simp
    | close =>
      have hends := (show CloseBehaved s events _ _ from hbehaved).ends.1
      simp [hends]

/-- After any calls everything is accounted for, and the next call behaves. -/
theorem lifecycle (resources : List ρ) (methods : List Method) (method : Method) :
    let s := runMethods failures methods (initial resources)
    Accounted s ∧ (s.container.closed = true ↔ .close ∈ methods) ∧
      (∀ resource, (brackets s.log).count (.opened resource) =
        (brackets s.log).count (.closed resource) + s.container.startedResources.count resource) ∧
      ∃ events, WellBehaved method s events (invoke failures method s).1
        (invoke failures method s).2 := by
  intro s
  have haccounted : Accounted s :=
    accounted_runMethods failures methods (accounted_initial resources)
  have hclosed := closed_runMethods failures methods (accounted_initial resources)
  obtain ⟨events, hbehaved, -⟩ := invoke_spec failures method haccounted
  refine ⟨haccounted, ?_, ?_, events, hbehaved⟩
  · refine hclosed.trans ?_
    simp [initial]
  · intro resource
    have hcount := Bracket.replay_count haccounted.newestFirst resource
    rw [List.count_nil, List.count_reverse] at hcount
    omega

end

end HotAirBalloon.Application
