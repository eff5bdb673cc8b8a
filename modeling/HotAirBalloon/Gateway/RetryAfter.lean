import HotAirBalloon.Gateway.RateBounds

/-!
# How long a refused call is told to wait

A refused call has met a full window. The counter of its key then stays as it is until the window is
over: every call before that is refused too, and the first one after it opens a new window. The
seconds that the limiter answers are those to the end of the window, rounded up.
-/

namespace HotAirBalloon.Gateway

open FixedWindowRateLimiter

/-- The end of the window that a call met. -/
def LimiterEvent.windowEnd (limit : ToolRateLimit) (event : LimiterEvent) : ℚ :=
  event.windowStart + limit.windowSeconds

/-! ## A full window -/

/-- The counter of the key has no room. -/
structure Full (limitOf : String × String → ToolRateLimit) (key : String × String)
    (counter : WindowCounter) (limiter : FixedWindowRateLimiter) : Prop where
  counter_eq : limiter.counters key = some counter
  full : (limitOf key).maxCalls ≤ counter.used

section

variable {limitOf : String × String → ToolRateLimit} {key : String × String}
  {counter : WindowCounter} {limiter : FixedWindowRateLimiter} {call : LimiterCall}

/-- Before the end of the window a call of the key is refused, and none changes the counter. -/
theorem Full.refuses (h : Full limitOf key counter limiter)
    (hbefore : call.key = key → call.time < counter.windowStart + (limitOf key).windowSeconds) :
    Full limitOf key counter (consume limitOf call limiter).2 ∧
      (call.key = key → (consume limitOf call limiter).1.verdict.allowed = false) := by
  by_cases hkey : call.key = key
  · subst hkey
    have hmet : met limitOf call limiter = counter := by
      unfold met
      rw [h.counter_eq]
      apply windowOf_of_within
      have hnow := hbefore rfl
      intro hover
      linarith
    have hfull : (limitOf call.key).maxCalls ≤ (met limitOf call limiter).used := by
      rw [hmet]
      exact h.full
    obtain ⟨-, hrefused, hcounters⟩ := consume_of_full limitOf call limiter hfull
    refine ⟨⟨?_, h.full⟩, fun _ => hrefused⟩
    rw [hcounters, Function.update_self, hmet]
  · refine ⟨⟨?_, h.full⟩, fun heq => absurd heq hkey⟩
    rw [consume_eq]
    show Function.update _ _ _ key = _
    rw [Function.update_of_ne (Ne.symm hkey)]
    exact h.counter_eq

/-- From the end of the window on a call of the key is allowed. -/
theorem Full.reopens (h : Full limitOf key counter limiter) (hkey : call.key = key)
    (hafter : counter.windowStart + (limitOf key).windowSeconds ≤ call.time) :
    (consume limitOf call limiter).1.verdict.allowed = true := by
  subst hkey
  have hmet : met limitOf call limiter = ⟨call.time, 0⟩ := by
    unfold met
    rw [h.counter_eq]
    apply windowOf_of_over
    linarith
  have hpositive := (limitOf call.key).one_le_maxCalls
  have hroom : (met limitOf call limiter).used < (limitOf call.key).maxCalls := by
    rw [hmet]
    show 0 < (limitOf call.key).maxCalls
    omega
  exact (consume_of_room limitOf call limiter hroom).2.2.1

/-- An event of a run is that of one of its calls. -/
theorem call_mem_of_mem_runCalls {calls : List LimiterCall} {event : LimiterEvent}
    (h : event ∈ runCalls limitOf calls limiter) : event.call ∈ calls := by
  induction calls generalizing limiter with
  | nil => cases h
  | cons call rest ih =>
    rw [runCalls_cons] at h
    rcases List.mem_cons.mp h with rfl | hlater
    · rw [consume_call]
      exact List.mem_cons_self
    · exact List.mem_cons_of_mem call (ih hlater)

/-- In a run from a full window every call of the key before its end is refused. -/
theorem Full.shut {calls : List LimiterCall} (h : Full limitOf key counter limiter)
    (hclock : calls.Pairwise (fun a b => a.time ≤ b.time)) {event : LimiterEvent}
    (hevent : event ∈ runCalls limitOf calls limiter) (hkey : event.call.key = key)
    (hbefore : event.call.time < counter.windowStart + (limitOf key).windowSeconds) :
    event.verdict.allowed = false := by
  induction calls generalizing limiter with
  | nil => cases hevent
  | cons call rest ih =>
    obtain ⟨hfirst, hrest⟩ := List.pairwise_cons.mp hclock
    rw [runCalls_cons] at hevent
    rcases List.mem_cons.mp hevent with rfl | hlater
    · rw [consume_call] at hkey hbefore
      exact (h.refuses fun _ => hbefore).2 hkey
    · have hcall : event.call ∈ rest := call_mem_of_mem_runCalls hlater
      have hnow : call.time < counter.windowStart + (limitOf key).windowSeconds :=
        lt_of_le_of_lt (hfirst event.call hcall) hbefore
      exact ih (h.refuses fun _ => hnow).1 hrest hlater

/-- In a run from a full window the first call of the key after its end is allowed. -/
theorem Full.opensAgain {calls : List LimiterCall} (h : Full limitOf key counter limiter)
    {between after : List LimiterEvent} {next : LimiterEvent}
    (hsplit : runCalls limitOf calls limiter = between ++ next :: after)
    (hnone : allowedOf key between = []) (hkey : next.call.key = key)
    (hafter : counter.windowStart + (limitOf key).windowSeconds ≤ next.call.time) :
    next.verdict.allowed = true := by
  induction calls generalizing limiter between with
  | nil => simp [FixedWindowRateLimiter.runCalls] at hsplit
  | cons call rest ih =>
    rw [runCalls_cons] at hsplit
    cases between with
    | nil =>
      obtain ⟨rfl, -⟩ := List.cons_eq_cons.mp hsplit
      rw [consume_call] at hkey hafter
      exact h.reopens hkey hafter
    | cons first between =>
      obtain ⟨rfl, htail⟩ := List.cons_eq_cons.mp hsplit
      have hsplitNone := allowedOf_append key [(consume limitOf call limiter).1] between
      rw [List.singleton_append, hnone] at hsplitNone
      obtain ⟨hfirst, hlater⟩ := List.append_eq_nil_iff.mp hsplitNone.symm
      apply ih _ htail hlater
      apply (h.refuses _).1
      -- a call after the end would have been allowed
      intro hcall
      by_contra hover
      have hallowed := h.reopens hcall (le_of_not_gt hover)
      rw [allowedOf_singleton, consume_call, if_pos ⟨hcall, hallowed⟩] at hfirst
      cases hfirst

/-! ## The answer of a refusal -/

/-- A refused call met a full window, and is answered the rounded seconds to its end. -/
theorem consume_of_refused (hrefused : (consume limitOf call limiter).1.verdict.allowed = false) :
    Full limitOf call.key (met limitOf call limiter) (consume limitOf call limiter).2 ∧
      (consume limitOf call limiter).1.windowStart = (met limitOf call limiter).windowStart ∧
      (consume limitOf call limiter).1.verdict.retryAfterSeconds =
        max 1 ⌈((limitOf call.key).windowSeconds : ℚ) -
          (call.time - (met limitOf call limiter).windowStart)⌉ := by
  by_cases hroom : (met limitOf call limiter).used < (limitOf call.key).maxCalls
  · rw [(consume_of_room limitOf call limiter hroom).2.2.1] at hrefused
    cases hrefused
  · have hfull := Nat.le_of_not_lt hroom
    obtain ⟨-, -, hcounters⟩ := consume_of_full limitOf call limiter hfull
    refine ⟨⟨?_, hfull⟩, ?_, ?_⟩
    · rw [hcounters, Function.update_self]
    · rw [consume_eq]
      unfold verdictOf
      rw [if_pos hfull]
    · rw [consume_eq]
      unfold verdictOf
      rw [if_pos hfull]

/-- A wait of more than nothing and at most a window, rounded up. -/
theorem roundedWait {wait : ℚ} {window : Nat} (hpositive : 0 < wait) (hbound : wait ≤ window) :
    1 ≤ max 1 ⌈wait⌉ ∧ max 1 ⌈wait⌉ ≤ window ∧ wait ≤ (max 1 ⌈wait⌉ : Int) ∧
      ((max 1 ⌈wait⌉ : Int) : ℚ) < wait + 1 := by
  have hone : 1 ≤ ⌈wait⌉ := Int.one_le_ceil_iff.mpr hpositive
  rw [max_eq_right hone]
  refine ⟨hone, ?_, Int.le_ceil wait, Int.ceil_lt_add_one wait⟩
  apply Int.ceil_le.mpr
  exact_mod_cast hbound

end

/-! ## Runs -/

/-- What the refused calls of a key are told holds. -/
structure HonestRetryAfter (limit : ToolRateLimit) (key : String × String)
    (events : List LimiterEvent) : Prop where
  /-- A refused call is told to wait a second at least and a window at most. -/
  bounds : ∀ event ∈ events, event.call.key = key → event.verdict.allowed = false →
    1 ≤ event.verdict.retryAfterSeconds ∧ event.verdict.retryAfterSeconds ≤ limit.windowSeconds
  /-- Up to the end of its window the calls of the key are refused. -/
  shut : ∀ before event after, events = before ++ event :: after → event.call.key = key →
    event.verdict.allowed = false → ∀ later ∈ after, later.call.key = key →
      later.call.time < event.windowEnd limit → later.verdict.allowed = false
  /-- The first call from that end on is allowed. -/
  opensAgain : ∀ before event between next after,
    events = before ++ event :: (between ++ next :: after) → event.call.key = key →
    event.verdict.allowed = false → allowedOf key between = [] → next.call.key = key →
      event.windowEnd limit ≤ next.call.time → next.verdict.allowed = true
  /-- So is the first call that waits as long as it was told. -/
  retried : ∀ (before : List LimiterEvent) (event : LimiterEvent) between next after,
    events = before ++ event :: (between ++ next :: after) → event.call.key = key →
    event.verdict.allowed = false → allowedOf key between = [] → next.call.key = key →
      event.call.time + event.verdict.retryAfterSeconds ≤ next.call.time →
        next.verdict.allowed = true
  /-- The call is told to wait less than a second more than up to the end of its window. -/
  tight : ∀ event ∈ events, event.call.key = key → event.verdict.allowed = false →
    (event.verdict.retryAfterSeconds : ℚ) < event.windowEnd limit - event.call.time + 1

/-- A refused event of a run, and what it means for the events after it. -/
structure Refusal (limitOf : String × String → ToolRateLimit) (event : LimiterEvent)
    (after : List LimiterEvent) : Prop where
  bounds : 1 ≤ event.verdict.retryAfterSeconds ∧
    event.verdict.retryAfterSeconds ≤ (limitOf event.call.key).windowSeconds
  reaches : event.windowEnd (limitOf event.call.key) ≤
    event.call.time + event.verdict.retryAfterSeconds
  tight : (event.verdict.retryAfterSeconds : ℚ) <
    event.windowEnd (limitOf event.call.key) - event.call.time + 1
  full : ∃ counter limiter rest, counter.windowStart = event.windowStart ∧
    Full limitOf event.call.key counter limiter ∧ rest.Pairwise (fun a b => a.time ≤ b.time) ∧
      after = runCalls limitOf rest limiter

theorem refusal_of_run {limitOf : String × String → ToolRateLimit} {clock : ℚ}
    {calls : List LimiterCall} (hclock : calls.Pairwise (fun a b => a.time ≤ b.time))
    {before after : List LimiterEvent} {event : LimiterEvent}
    (hsplit : runCalls limitOf calls (.new clock) = before ++ event :: after)
    (hrefused : event.verdict.allowed = false) : Refusal limitOf event after := by
  have hnew : Tracks limitOf [] (.new clock) := Tracks.new clock
  obtain ⟨limiter, rest, htracks, htimes, hevent, hsorted, hafter⟩ := hnew.event_of_run
    (fun event hevent => absurd hevent List.not_mem_nil) hclock hsplit
  rw [List.nil_append] at htracks htimes
  obtain ⟨-, hstarted, hopen⟩ := htracks.windowInv htimes
  have hmet := hrefused
  rw [hevent] at hmet
  obtain ⟨hfull, hstart, hretry⟩ := consume_of_refused hmet
  rw [← hevent] at hstart hretry
  rw [← hstart] at hstarted hopen hretry
  have hpositive : 0 < ((limitOf event.call.key).windowSeconds : ℚ) -
      (event.call.time - event.windowStart) := by linarith
  have hbound : ((limitOf event.call.key).windowSeconds : ℚ) -
      (event.call.time - event.windowStart) ≤ (limitOf event.call.key).windowSeconds := by linarith
  obtain ⟨hone, hwindow, hreaches, htight⟩ := roundedWait hpositive hbound
  rw [← hretry] at hone hwindow hreaches htight
  refine ⟨⟨hone, hwindow⟩, ?_, ?_, _, _, rest, hstart.symm, hfull, hsorted, hafter⟩
  · unfold LimiterEvent.windowEnd
    linarith
  · unfold LimiterEvent.windowEnd
    linarith

/-- In every run under a clock that does not go back a refused call is told how long to wait. -/
theorem retryAfter_honest (limitOf : String × String → ToolRateLimit) (clock : ℚ)
    {calls : List LimiterCall} (hclock : calls.Pairwise (fun a b => a.time ≤ b.time))
    (key : String × String) :
    HonestRetryAfter (limitOf key) key (runCalls limitOf calls (.new clock)) := by
  refine ⟨?_, ?_, ?_, ?_, ?_⟩
  · rintro event hevent rfl hrefused
    obtain ⟨before, after, hsplit⟩ := List.append_of_mem hevent
    exact (refusal_of_run hclock hsplit hrefused).bounds
  · rintro before event after hsplit rfl hrefused later hlater hkey hearly
    obtain ⟨counter, limiter, rest, hstart, hfull, hsorted, rfl⟩ :=
      (refusal_of_run hclock hsplit hrefused).full
    apply hfull.shut hsorted hlater hkey
    rw [hstart]
    exact hearly
  · rintro before event between next after hsplit rfl hrefused hnone hkey hlate
    obtain ⟨counter, limiter, rest, hstart, hfull, -, hrest⟩ :=
      (refusal_of_run hclock hsplit hrefused).full
    apply hfull.opensAgain hrest.symm hnone hkey
    rw [hstart]
    exact hlate
  · rintro before event between next after hsplit rfl hrefused hnone hkey hlate
    have hrefusal := refusal_of_run hclock hsplit hrefused
    obtain ⟨counter, limiter, rest, hstart, hfull, -, hrest⟩ := hrefusal.full
    apply hfull.opensAgain hrest.symm hnone hkey
    rw [hstart]
    exact hrefusal.reaches.trans hlate
  · rintro event hevent rfl hrefused
    obtain ⟨before, after, hsplit⟩ := List.append_of_mem hevent
    exact (refusal_of_run hclock hsplit hrefused).tight

/-- A call a second before the end of a window is told to wait that second, and then allowed. -/
theorem retryAfter_honest_second :
    HonestRetryAfter ⟨1, 60, le_rfl, by decide⟩ ("ann", "web_search")
      (runCalls (fun _ => ⟨1, 60, le_rfl, by decide⟩)
        [⟨some "ann", "web_search", 0⟩, ⟨some "ann", "web_search", 59⟩,
          ⟨some "ann", "web_search", 60⟩] (.new 0)) :=
  retryAfter_honest (fun _ => ⟨1, 60, le_rfl, by decide⟩) 0 (by norm_num) ("ann", "web_search")

end HotAirBalloon.Gateway
