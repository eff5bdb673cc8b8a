import HotAirBalloon.Gateway.RateLimit
import HotAirBalloon.Library.AnchoredWindows

/-!
# How many calls a limiter allows

The allowed calls of a key lie in windows that start with an allowed call, so the general bounds for
such windows hold of them: `KeyInv` says so of every state that a run of `try_consume` reaches, and
what the limiter's counter means in terms of the calls that are past.
-/

namespace HotAirBalloon.Gateway

open Python Library

/-- A call of `try_consume`, at a reading of the clock. -/
structure LimiterCall where
  actor : Option String
  toolName : String
  time : ℚ

/-- The key of its counter. -/
def LimiterCall.key (call : LimiterCall) : String × String :=
  (call.actor.getD anonymousActor, call.toolName)

/-- A call, the verdict on it and the start of the window that it met. -/
structure LimiterEvent where
  call : LimiterCall
  verdict : RateLimitVerdict
  windowStart : ℚ

namespace FixedWindowRateLimiter

variable (limitOf : String × String → ToolRateLimit)

def consume (call : LimiterCall) (limiter : FixedWindowRateLimiter) :
    LimiterEvent × FixedWindowRateLimiter :=
  let (limiter, verdict) :=
    tryConsume call.actor call.toolName (limitOf call.key) { limiter with clock := call.time }
  (⟨call, verdict, ((limiter.counters call.key).map (·.windowStart)).getD call.time⟩, limiter)

/-- A run of calls, each with the limit of its key. -/
def runCalls : List LimiterCall → FixedWindowRateLimiter → List LimiterEvent
  | [], _ => []
  | call :: rest, limiter =>
    let (event, limiter) := consume limitOf call limiter
    event :: runCalls rest limiter

theorem runCalls_cons (call : LimiterCall) (rest : List LimiterCall)
    (limiter : FixedWindowRateLimiter) :
    runCalls limitOf (call :: rest) limiter =
      (consume limitOf call limiter).1 :: runCalls limitOf rest (consume limitOf call limiter).2 :=
  rfl

end FixedWindowRateLimiter

/-- The allowed calls of a key. -/
def allowedOf (key : String × String) (events : List LimiterEvent) : List LimiterEvent :=
  events.filter (fun event => event.call.key = key ∧ event.verdict.allowed)

def LimiterEvent.stamp (event : LimiterEvent) : Stamp ℚ := ⟨event.windowStart, event.call.time⟩

/-! ## One call -/

section

open FixedWindowRateLimiter

theorem allowedOf_append (key : String × String) (events events' : List LimiterEvent) :
    allowedOf key (events ++ events') = allowedOf key events ++ allowedOf key events' :=
  List.filter_append ..

theorem allowedOf_singleton (key : String × String) (event : LimiterEvent) :
    allowedOf key [event] =
      if event.call.key = key ∧ event.verdict.allowed = true then [event] else [] := by
  unfold allowedOf
  by_cases h : event.call.key = key ∧ event.verdict.allowed = true
  · rw [if_pos h]
    simp [h]
  · rw [if_neg h]
    simp [h]

variable (limitOf : String × String → ToolRateLimit) (call : LimiterCall)
  (limiter : FixedWindowRateLimiter)

/-- The counter that a call meets. -/
def met : WindowCounter := windowOf (limitOf call.key) call.time (limiter.counters call.key)

theorem consume_eq : consume limitOf call limiter =
    (⟨call, (verdictOf (limitOf call.key) call.time (met limitOf call limiter)).1,
        (verdictOf (limitOf call.key) call.time (met limitOf call limiter)).2.windowStart⟩,
      ⟨call.time, Function.update limiter.counters call.key
        (some (verdictOf (limitOf call.key) call.time (met limitOf call limiter)).2)⟩) := by
  have hkey : (call.actor.getD anonymousActor, call.toolName) = call.key := rfl
  unfold consume tryConsume met
  simp only [hkey, Function.update_self, Option.map_some, Option.getD_some]

/-- A call whose window has room is allowed and counted. -/
theorem consume_of_room (hroom : (met limitOf call limiter).used < (limitOf call.key).maxCalls) :
    (consume limitOf call limiter).1.call = call ∧
      (consume limitOf call limiter).1.windowStart = (met limitOf call limiter).windowStart ∧
      (consume limitOf call limiter).1.verdict.allowed = true ∧
      (consume limitOf call limiter).1.verdict.remaining =
        ((limitOf call.key).maxCalls : Int) - ((met limitOf call limiter).used + 1 : Nat) ∧
      (consume limitOf call limiter).2.counters = Function.update limiter.counters call.key
        (some { met limitOf call limiter with used := (met limitOf call limiter).used + 1 }) := by
  rw [consume_eq]
  unfold verdictOf
  rw [if_neg (by omega)]
  exact ⟨rfl, rfl, rfl, rfl, rfl⟩

/-- A call whose window is full is refused and changes no count. -/
theorem consume_of_full (hfull : (limitOf call.key).maxCalls ≤ (met limitOf call limiter).used) :
    (consume limitOf call limiter).1.call = call ∧
      (consume limitOf call limiter).1.verdict.allowed = false ∧
      (consume limitOf call limiter).2.counters = Function.update limiter.counters call.key
        (some (met limitOf call limiter)) := by
  rw [consume_eq]
  unfold verdictOf
  rw [if_pos hfull]
  exact ⟨rfl, rfl, rfl⟩

end

/-! ## What a counter means -/

/-- A counter and the allowed calls of its key: it counts those of the last window. -/
structure WindowInv (limit : ToolRateLimit) (allowed : List LimiterEvent)
    (counter : WindowCounter) : Prop where
  anchored : Anchored (limit.windowSeconds : ℚ) limit.maxCalls (allowed.map LimiterEvent.stamp)
  before : ∀ event ∈ allowed, event.windowStart = counter.windowStart ∨
    event.windowStart + limit.windowSeconds ≤ counter.windowStart
  counted : allowed.countP (fun event => event.windowStart = counter.windowStart) = counter.used
  anchor : counter.used = 0 ∨
    ∃ last, allowed.getLast? = some last ∧ last.windowStart = counter.windowStart

/-- A key has a counter once a call of it was allowed. -/
def KeyInv (limit : ToolRateLimit) (allowed : List LimiterEvent) : Option WindowCounter → Prop
  | none => allowed = []
  | some counter => WindowInv limit allowed counter ∧ 0 < counter.used

section

variable {limit : ToolRateLimit} {allowed : List LimiterEvent} {counter? : Option WindowCounter}
  {now : ℚ}

open FixedWindowRateLimiter

theorem one_le_window (limit : ToolRateLimit) : (1 : ℚ) ≤ limit.windowSeconds := by
  exact_mod_cast limit.one_le_windowSeconds

theorem KeyInv.anchored (h : KeyInv limit allowed counter?) :
    Anchored (limit.windowSeconds : ℚ) limit.maxCalls (allowed.map LimiterEvent.stamp) := by
  cases counter? with
  | none =>
    obtain rfl : allowed = [] := h
    exact Anchored.nil
  | some counter => exact h.1.anchored

/-- A window that is opened after every allowed call. -/
theorem WindowInv.fresh
    (hanchored : Anchored (limit.windowSeconds : ℚ) limit.maxCalls (allowed.map LimiterEvent.stamp))
    (hbefore : ∀ event ∈ allowed, event.windowStart + limit.windowSeconds ≤ now) :
    WindowInv limit allowed ⟨now, 0⟩ := by
  refine ⟨hanchored, ?_, ?_, Or.inl rfl⟩
  · intro event hevent
    exact Or.inr (hbefore event hevent)
  · rw [List.countP_eq_zero]
    intro event hevent hstart
    have hlong := one_le_window limit
    have hbound := hbefore event hevent
    rw [of_decide_eq_true hstart] at hbound
    linarith

theorem windowOf_of_over {counter : WindowCounter}
    (h : (limit.windowSeconds : ℚ) ≤ now - counter.windowStart) :
    FixedWindowRateLimiter.windowOf limit now (some counter) = ⟨now, 0⟩ :=
  if_pos h

theorem windowOf_of_within {counter : WindowCounter}
    (h : ¬ (limit.windowSeconds : ℚ) ≤ now - counter.windowStart) :
    FixedWindowRateLimiter.windowOf limit now (some counter) = counter :=
  if_neg h

/-- The counter that a call meets, and where the call lies in its window. -/
theorem KeyInv.windowOf (h : KeyInv limit allowed counter?)
    (hclock : ∀ event ∈ allowed, event.call.time ≤ now) :
    WindowInv limit allowed (windowOf limit now counter?) ∧
      (windowOf limit now counter?).windowStart ≤ now ∧
      now < (windowOf limit now counter?).windowStart + limit.windowSeconds := by
  have hlong := one_le_window limit
  cases counter? with
  | none =>
    obtain rfl : allowed = [] := h
    refine ⟨WindowInv.fresh Anchored.nil ?_, le_rfl, ?_⟩
    · exact fun _ hevent => absurd hevent List.not_mem_nil
    · change now < now + (limit.windowSeconds : ℚ)
      linarith
  | some counter =>
    obtain ⟨hwindow, hused⟩ := h
    by_cases hover : (limit.windowSeconds : ℚ) ≤ now - counter.windowStart
    · rw [windowOf_of_over hover]
      refine ⟨WindowInv.fresh hwindow.anchored ?_, le_rfl, ?_⟩
      · intro event hevent
        rcases hwindow.before event hevent with hsame | hearlier
        · linarith
        · linarith
      · change now < now + (limit.windowSeconds : ℚ)
        linarith
    · rw [windowOf_of_within hover]
      refine ⟨hwindow, ?_, ?_⟩
      · rcases hwindow.anchor with hzero | ⟨last, hlast, hstart⟩
        · omega
        · have hmem := List.mem_of_getLast? hlast
          have hinside := hwindow.anchored.inside last.stamp (List.mem_map_of_mem hmem)
          rw [← hstart]
          exact hinside.1.trans (hclock last hmem)
      · linarith

/-- Long after the last allowed call a window is fresh. -/
theorem KeyInv.used_eq_zero (h : KeyInv limit allowed counter?)
    (hlate : ∀ last, allowed.getLast? = some last → last.call.time + limit.windowSeconds ≤ now) :
    (FixedWindowRateLimiter.windowOf limit now counter?).used = 0 := by
  cases counter? with
  | none => rfl
  | some counter =>
    obtain ⟨hwindow, hused⟩ := h
    rcases hwindow.anchor with hzero | ⟨last, hlast, hstart⟩
    · omega
    · have hmem := List.mem_of_getLast? hlast
      have hinside := hwindow.anchored.inside last.stamp (List.mem_map_of_mem hmem)
      have hstarts : last.windowStart ≤ last.call.time := hinside.1
      have hover : (limit.windowSeconds : ℚ) ≤ now - counter.windowStart := by
        have hfar := hlate last hlast
        rw [hstart] at hstarts
        linarith
      rw [windowOf_of_over hover]

/-- An allowed call is one more of its window. -/
theorem WindowInv.concat {counter : WindowCounter} {event : LimiterEvent}
    (h : WindowInv limit allowed counter) (hstart : event.windowStart = counter.windowStart)
    (hinside : counter.windowStart ≤ event.call.time ∧
      event.call.time < counter.windowStart + limit.windowSeconds)
    (hroom : counter.used < limit.maxCalls) :
    WindowInv limit (allowed ++ [event]) { counter with used := counter.used + 1 } := by
  refine ⟨?_, ?_, ?_, Or.inr ⟨event, ?_, hstart⟩⟩
  · rw [List.map_append, List.map_singleton]
    refine h.anchored.concat ?_ ?_ ?_
    · change event.windowStart ≤ event.call.time ∧ event.call.time < event.windowStart + _
      rw [hstart]
      exact hinside
    · intro stamp hstamp
      obtain ⟨past, hpast, rfl⟩ := List.mem_map.mp hstamp
      change past.windowStart = event.windowStart ∨ past.windowStart + _ ≤ event.windowStart
      rw [hstart]
      exact h.before past hpast
    · rw [List.countP_map]
      change allowed.countP (fun past => past.windowStart = event.windowStart) < _
      rw [hstart, h.counted]
      exact hroom
  · intro past hpast
    rcases List.mem_append.mp hpast with hold | hnew
    · exact h.before past hold
    · rw [List.mem_singleton.mp hnew]
      exact Or.inl hstart
  · rw [List.countP_append, h.counted, List.countP_singleton]
    simp [hstart]
  · exact List.getLast?_concat

end

/-! ## Runs -/

section

open FixedWindowRateLimiter

variable {limitOf : String × String → ToolRateLimit}

/-- Every counter of a limiter means what it should after some calls. -/
def Tracks (limitOf : String × String → ToolRateLimit) (past : List LimiterEvent)
    (limiter : FixedWindowRateLimiter) : Prop :=
  ∀ key, KeyInv (limitOf key) (allowedOf key past) (limiter.counters key)

theorem Tracks.new (clock : ℚ) : Tracks limitOf [] (.new clock) := fun _ => rfl

variable {past : List LimiterEvent} {limiter : FixedWindowRateLimiter} {call : LimiterCall}

theorem allowedOf_time_le (hclock : ∀ event ∈ past, event.call.time ≤ call.time)
    (key : String × String) : ∀ event ∈ allowedOf key past, event.call.time ≤ call.time :=
  fun event hevent => hclock event (List.mem_of_mem_filter hevent)

/-- What a call meets after some calls. -/
theorem Tracks.windowInv (h : Tracks limitOf past limiter)
    (hclock : ∀ event ∈ past, event.call.time ≤ call.time) :
    WindowInv (limitOf call.key) (allowedOf call.key past) (met limitOf call limiter) ∧
      (met limitOf call limiter).windowStart ≤ call.time ∧
      call.time < (met limitOf call limiter).windowStart +
        (limitOf call.key).windowSeconds :=
  (h call.key).windowOf (allowedOf_time_le hclock call.key)

theorem Tracks.step (h : Tracks limitOf past limiter)
    (hclock : ∀ event ∈ past, event.call.time ≤ call.time) :
    Tracks limitOf (past ++ [(consume limitOf call limiter).1])
      (consume limitOf call limiter).2 := by
  obtain ⟨hwindow, hinside⟩ := h.windowInv hclock
  intro key
  rw [allowedOf_append, allowedOf_singleton]
  by_cases hroom : (met limitOf call limiter).used < (limitOf call.key).maxCalls
  · obtain ⟨hcall, hstart, hallowed, -, hcounters⟩ := consume_of_room limitOf call limiter hroom
    rw [hcall, hcounters]
    by_cases hkey : call.key = key
    · subst hkey
      rw [if_pos ⟨rfl, hallowed⟩, Function.update_self]
      refine ⟨hwindow.concat hstart ?_ hroom, Nat.succ_pos _⟩
      rw [hcall]
      exact hinside
    · rw [if_neg (fun hboth => hkey hboth.1), List.append_nil, Function.update_of_ne (Ne.symm hkey)]
      exact h key
  · have hfull := Nat.le_of_not_lt hroom
    obtain ⟨hcall, hrefused, hcounters⟩ := consume_of_full limitOf call limiter hfull
    rw [hcall, hcounters, if_neg (by simp [hrefused]), List.append_nil]
    by_cases hkey : call.key = key
    · subst hkey
      rw [Function.update_self]
      exact ⟨hwindow, (limitOf call.key).one_le_maxCalls.trans hfull⟩
    · rw [Function.update_of_ne (Ne.symm hkey)]
      exact h key

theorem consume_call (limitOf : String × String → ToolRateLimit) (call : LimiterCall)
    (limiter : FixedWindowRateLimiter) : (consume limitOf call limiter).1.call = call := by
  rw [consume_eq]

/-- The clock has not gone back after a call. -/
theorem clock_consume {rest : List LimiterCall}
    (hclock : ∀ event ∈ past, ∀ later ∈ call :: rest, event.call.time ≤ later.time)
    (hfirst : ∀ later ∈ rest, call.time ≤ later.time) :
    ∀ event ∈ past ++ [(consume limitOf call limiter).1], ∀ later ∈ rest,
      event.call.time ≤ later.time := by
  intro event hevent later hmem
  rcases List.mem_append.mp hevent with hold | hnew
  · exact hclock event hold later (List.mem_cons_of_mem call hmem)
  · rw [List.mem_singleton.mp hnew, consume_call]
    exact hfirst later hmem

/-- A run tracks the calls that it has made. -/
theorem Tracks.run {calls : List LimiterCall} (h : Tracks limitOf past limiter)
    (hclock : ∀ event ∈ past, ∀ call ∈ calls, event.call.time ≤ call.time)
    (hcalls : calls.Pairwise (fun a b => a.time ≤ b.time)) :
    ∃ limiter', Tracks limitOf (past ++ runCalls limitOf calls limiter) limiter' := by
  induction calls generalizing past limiter with
  | nil =>
    refine ⟨limiter, ?_⟩
    unfold FixedWindowRateLimiter.runCalls
    rw [List.append_nil]
    exact h
  | cons call rest ih =>
    obtain ⟨hfirst, hrest⟩ := List.pairwise_cons.mp hcalls
    have hstep := h.step (fun event hevent => hclock event hevent call List.mem_cons_self)
    obtain ⟨limiter', htracks⟩ := ih hstep (clock_consume hclock hfirst) hrest
    refine ⟨limiter', ?_⟩
    rw [List.append_assoc] at htracks
    exact htracks

/-- Every event of a run is that of a call in a state that tracks the events before it, and the
events after it are the run of the rest of the calls. -/
theorem Tracks.event_of_run {calls : List LimiterCall} (h : Tracks limitOf past limiter)
    (hclock : ∀ event ∈ past, ∀ call ∈ calls, event.call.time ≤ call.time)
    (hcalls : calls.Pairwise (fun a b => a.time ≤ b.time)) {before after : List LimiterEvent}
    {event : LimiterEvent} (hsplit : runCalls limitOf calls limiter = before ++ event :: after) :
    ∃ limiter' rest, Tracks limitOf (past ++ before) limiter' ∧
      (∀ earlier ∈ past ++ before, earlier.call.time ≤ event.call.time) ∧
      event = (consume limitOf event.call limiter').1 ∧
      rest.Pairwise (fun a b => a.time ≤ b.time) ∧
      after = runCalls limitOf rest (consume limitOf event.call limiter').2 := by
  induction calls generalizing past limiter before with
  | nil => simp [FixedWindowRateLimiter.runCalls] at hsplit
  | cons call rest ih =>
    obtain ⟨hfirst, hrest⟩ := List.pairwise_cons.mp hcalls
    have hnow : ∀ event ∈ past, event.call.time ≤ call.time :=
      fun event hevent => hclock event hevent call List.mem_cons_self
    rw [runCalls_cons] at hsplit
    cases before with
    | nil =>
      obtain ⟨hevent, hafter⟩ := List.cons_eq_cons.mp hsplit
      have hcall : event.call = call := by rw [← hevent, consume_call]
      refine ⟨limiter, rest, ?_, ?_, ?_, hrest, ?_⟩
      · rw [List.append_nil]
        exact h
      · rw [List.append_nil, hcall]
        exact hnow
      · rw [hcall, hevent]
      · rw [hcall]
        exact hafter.symm
    | cons first before =>
      obtain ⟨rfl, htail⟩ := List.cons_eq_cons.mp hsplit
      obtain ⟨limiter', rest', htracks, htimes, hlast⟩ :=
        ih (h.step hnow) (clock_consume hclock hfirst) hrest htail
      rw [List.append_assoc] at htracks htimes
      exact ⟨limiter', rest', htracks, htimes, hlast⟩

end

/-! ## Bounds -/

/-- The bounds of a fixed-window limiter on the calls of a key. -/
structure FixedWindowBounds (limit : ToolRateLimit) (key : String × String)
    (events : List LimiterEvent) : Prop where
  /-- An allowed call lies in its window. -/
  inside : ∀ event ∈ allowedOf key events, event.windowStart ≤ event.call.time ∧
    event.call.time < event.windowStart + limit.windowSeconds
  /-- A window has at most `max_calls`. -/
  window : ∀ start, (allowedOf key events).countP (fun event => event.windowStart = start) ≤
    limit.maxCalls
  /-- A half-open interval as long as a window has at most twice as many. -/
  interval : ∀ a : ℚ,
    (allowedOf key events).countP
      (fun event => a ≤ event.call.time ∧ event.call.time < a + limit.windowSeconds) ≤
        2 * limit.maxCalls ∧
    (allowedOf key events).countP
      (fun event => a < event.call.time ∧ event.call.time ≤ a + limit.windowSeconds) ≤
        2 * limit.maxCalls
  /-- `remaining` is what the window still has. -/
  remaining : ∀ before event after, events = before ++ event :: after → event.call.key = key →
    event.verdict.allowed = true →
      event.verdict.remaining = (limit.maxCalls : Int) -
        (allowedOf key (before ++ [event])).countP
          (fun other => other.windowStart = event.windowStart) ∧
      0 ≤ event.verdict.remaining
  /-- A call is allowed a window's length after the last allowed one. -/
  reopened : ∀ before event after, events = before ++ event :: after → event.call.key = key →
    (∀ last, (allowedOf key before).getLast? = some last →
      last.call.time + limit.windowSeconds ≤ event.call.time) → event.verdict.allowed = true

/-- The limiter keeps its bounds in every run under a clock that does not go back. -/
theorem fixedWindowBounds (limitOf : String × String → ToolRateLimit) (clock : ℚ)
    {calls : List LimiterCall} (hclock : calls.Pairwise (fun a b => a.time ≤ b.time))
    (key : String × String) :
    FixedWindowBounds (limitOf key) key
      (FixedWindowRateLimiter.runCalls limitOf calls (.new clock)) := by
  have hnew : Tracks limitOf [] (.new clock) := Tracks.new clock
  have hnone : ∀ event ∈ ([] : List LimiterEvent), ∀ call ∈ calls, event.call.time ≤ call.time :=
    fun event hevent => absurd hevent List.not_mem_nil
  obtain ⟨limiter, htracks⟩ := hnew.run hnone hclock
  have hanchored := (htracks key).anchored
  rw [List.nil_append] at hanchored
  refine ⟨?_, ?_, ?_, ?_, ?_⟩
  · intro event hevent
    exact hanchored.inside event.stamp (List.mem_map_of_mem hevent)
  · intro start
    have hfull := hanchored.full start
    rw [List.countP_map] at hfull
    exact hfull
  · intro a
    obtain ⟨hleft, hright⟩ := hanchored.countP_interval_le a
    rw [List.countP_map] at hleft hright
    exact ⟨hleft, hright⟩
  · rintro before event after hsplit rfl hallowed
    obtain ⟨limiter', -, htracks', htimes, hevent, -⟩ := hnew.event_of_run hnone hclock hsplit
    rw [List.nil_append] at htracks' htimes
    obtain ⟨hwindow, -⟩ := htracks'.windowInv htimes
    have hroom : (met limitOf event.call limiter').used < (limitOf event.call.key).maxCalls := by
      by_contra hfull
      obtain ⟨-, hrefused, -⟩ :=
        consume_of_full limitOf event.call limiter' (Nat.le_of_not_lt hfull)
      rw [← hevent, hallowed] at hrefused
      cases hrefused
    obtain ⟨-, hstart, -, hremaining, -⟩ := consume_of_room limitOf event.call limiter' hroom
    rw [← hevent] at hstart hremaining
    have hcount : (allowedOf event.call.key (before ++ [event])).countP
        (fun other => other.windowStart = event.windowStart) =
          (met limitOf event.call limiter').used + 1 := by
      rw [allowedOf_append, allowedOf_singleton, if_pos ⟨rfl, hallowed⟩, List.countP_append,
        hstart, hwindow.counted, List.countP_singleton]
      simp [hstart]
    rw [hremaining, hcount]
    refine ⟨rfl, ?_⟩
    push_cast
    omega
  · rintro before event after hsplit rfl hlate
    obtain ⟨limiter', -, htracks', htimes, hevent, -⟩ := hnew.event_of_run hnone hclock hsplit
    rw [List.nil_append] at htracks'
    have hzero : (met limitOf event.call limiter').used = 0 :=
      (htracks' event.call.key).used_eq_zero hlate
    have hpositive := (limitOf event.call.key).one_le_maxCalls
    obtain ⟨-, -, hallowed, -⟩ := consume_of_room limitOf event.call limiter' (by omega)
    rw [← hevent] at hallowed
    exact hallowed

/-- Two calls at the end of one window and two at the start of the next. -/
def boundaryCalls : List LimiterCall :=
  [⟨some "7", "web_search", 0⟩, ⟨some "7", "web_search", 59⟩, ⟨some "7", "web_search", 60⟩,
    ⟨some "7", "web_search", 61⟩]

theorem fixedWindowBounds_boundary :
    FixedWindowBounds ⟨2, 60, by decide, by decide⟩ ("7", "web_search")
      (FixedWindowRateLimiter.runCalls (fun _ => ⟨2, 60, by decide, by decide⟩) boundaryCalls
        (.new 0)) := by
  refine fixedWindowBounds (fun _ => ⟨2, 60, by decide, by decide⟩) 0 ?_ ("7", "web_search")
  unfold boundaryCalls
  norm_num

end HotAirBalloon.Gateway
