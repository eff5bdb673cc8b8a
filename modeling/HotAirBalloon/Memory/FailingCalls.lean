import HotAirBalloon.Memory.Erasure

/-!
# Runs in which some calls fail

A process that runs alone while the calls of one kind fail by a pattern. The rules are those of
`Alone` where no such call is made; `logged` says which calls a run has added to the log.
-/

namespace HotAirBalloon.Memory

open Python Library

/-- How some calls go, by their place in the log of all calls. -/
abbrev FailurePattern := Nat → Delivery

def Delivery.error? : Delivery → Option PyError
  | arrives => none
  | lost e | late e => some e

/-- The calls of one kind fail by a pattern; the others arrive. -/
def failingOn {ι : Type} [DecidableEq ι] (fails : Op → Bool) :
    Exec ι PyError Op Op.Reply FailurePattern (World ι) := fun i op pattern w =>
  exec i op (if fails op then pattern w.log.length else .arrives) w

/-- The call raised an error. -/
def Event.raises (event : Event) : Bool :=
  match event.reply with
  | .error _ => true
  | .ok _ => false

section

variable {ι : Type} [DecidableEq ι] {i : ι} {t v : Tables} {x : VectorIndex} {w : World ι}
  {pattern : FailurePattern} {fails : Op → Bool} {α : Type}

/-- What a program does without the failing calls does not depend on them. -/
theorem failingOn_of_alone {p : Action α} {Q : Except PyError α → World ι → Prop}
    (h : FinishesAlone i p w Q) (hp : p.Calls (fun op => fails op = false)) :
    Finishes (failingOn fails) i pattern p w Q := by
  refine h.of_agree hp ?_
  intro op w hop
  simp [failingOn, hop]

/-- A call that arrives is the last entry of the log after it. -/
theorem send_logged {op : Op} {Q : Except PyError op.Reply → World ι → Prop}
    (h : FinishesAlone i (send op) w Q) (hop : fails op = false) :
    Finishes (failingOn fails) i pattern (send op) w
      (fun r w' => Q r w' ∧ w'.log = w.log ++ [(i, ⟨op, r⟩)]) := by
  obtain ⟨r, w', hrun, hQ⟩ := h
  obtain ⟨⟨reply, w₁⟩, hexec, hdone⟩ := Option.bind_eq_some_iff.mp hrun
  obtain ⟨rfl, rfl⟩ := Prod.mk.inj (Option.some.inj hdone)
  exact failingOn_of_alone ⟨_, _, hrun, hQ, exec_log hexec⟩ ⟨hop, fun _ => trivial⟩

/-- A run adds the calls of the process to the log. -/
theorem logged {p : Action α} {P : Op → Prop} {Q : Except PyError α → World ι → Prop}
    (h : Finishes (failingOn fails) i pattern p w Q) (hp : p.Calls P) :
    Finishes (failingOn fails) i pattern p w (fun r w' => Q r w' ∧
      ∃ events : List Event, w'.log = w.log ++ events.map (fun event => (i, event)) ∧
        ∀ event ∈ events, P event.op) := by
  induction p generalizing w with
  | done r =>
    obtain ⟨r', w', hrun, hQ⟩ := h
    obtain ⟨rfl, rfl⟩ := Prod.mk.inj (Option.some.inj hrun)
    refine ⟨r, w, rfl, hQ, [], (List.append_nil w.log).symm, ?_⟩
    exact fun event hevent => absurd hevent List.not_mem_nil
  | call op next ih =>
    obtain ⟨r', w', hrun, hQ⟩ := h
    obtain ⟨⟨reply, w₁⟩, hexec, hrest⟩ := Option.bind_eq_some_iff.mp hrun
    obtain ⟨r'', w'', hrun', hQ', events, hlog, hevents⟩ :=
      ih reply ⟨r', w', hrest, hQ⟩ (hp.2 reply)
    have hfirst : w₁.log = w.log ++ [(i, ⟨op, reply⟩)] := exec_log hexec
    refine ⟨r'', w'', ?_, hQ', ⟨op, reply⟩ :: events, ?_, ?_⟩
    · change (failingOn fails i op pattern w).bind _ = _
      rw [hexec]
      exact hrun'
    · rw [hlog, hfirst]
      simp
    · intro event hevent
      rcases List.mem_cons.mp hevent with rfl | hlater
      · exact hp.1
      · exact hevents event hlater

/-- A failing call that touches at most the index. -/
theorem Alone.failingOnCall (h : Alone i t v x w) (op : Op) {a : op.Reply} {x' : VectorIndex}
    (hfails : fails op = true) (harrives : op.alwaysArrives = false)
    (hcarry : carryOut i op w = some (.ok a, { w with index := x' })) :
    Finishes (failingOn fails) i pattern (send op) w (fun r w' =>
      (r = match (pattern w.log.length).error? with
        | none => .ok a
        | some e => .error e) ∧
      w'.log = w.log ++ [(i, ⟨op, r⟩)] ∧ ∃ x, Alone i t v x w') := by
  cases hdelivery : pattern w.log.length with
  | arrives =>
    have hexec : failingOn fails i op pattern w = some (.ok a, {
        server := w.server, index := x', log := w.log ++ [(i, ⟨op, .ok a⟩)] }) := by
      simp [failingOn, exec, deliver, hfails, hdelivery, hcarry]
    exact Finishes.perform hexec ⟨rfl, rfl, x', h.committed, h.visible, rfl, h.locks⟩
  | lost e =>
    have hexec : failingOn fails i op pattern w = some (.error e, {
        server := w.server, index := w.index, log := w.log ++ [(i, ⟨op, .error e⟩)] }) := by
      simp [failingOn, exec, deliver, hfails, hdelivery, harrives]
    exact Finishes.perform hexec ⟨rfl, rfl, x, h.committed, h.visible, h.index, h.locks⟩
  | late e =>
    have hexec : failingOn fails i op pattern w = some (.error e, {
        server := w.server, index := x', log := w.log ++ [(i, ⟨op, .error e⟩)] }) := by
      simp [failingOn, exec, deliver, hfails, hdelivery, harrives, hcarry]
    exact Finishes.perform hexec ⟨rfl, rfl, x', h.committed, h.visible, rfl, h.locks⟩

/-- A session ends with the result of its body, and its last call is the rollback of what the body
has not committed. -/
theorem inSession_logged {body : Action α} (hrollback : fails .rollback = false)
    (Q : Except PyError α → Tables → List (ι × Event) → Prop)
    (h : Finishes (failingOn fails) i pattern body w
      (fun r w' => ∃ t v x, Q r t w'.log ∧ Alone i t v x w')) :
    Finishes (failingOn fails) i pattern (Memory.inSession body) w (fun r w' =>
      ∃ t x log, Q r t log ∧ w'.log = log ++ [(i, ⟨.rollback, .ok ()⟩)] ∧ Alone i t t x w') := by
  have hattempt : Finishes (failingOn fails) i pattern body.attempt w (fun r w' =>
      ∃ result, r = .ok result ∧ ∃ t v x, Q result t w'.log ∧ Alone i t v x w') :=
    h.attempt (fun result w' hQ => ⟨result, rfl, hQ⟩)
  refine hattempt.bind ?_ (fun e w' hQ => by obtain ⟨_, heq, -⟩ := hQ; cases heq)
  rintro result w₁ ⟨_, heq, t, v, x, hQ, halone⟩
  cases heq
  have hrolled : Finishes (failingOn fails) i pattern (send .rollback) w₁ (fun r w' =>
      w'.log = w₁.log ++ [(i, ⟨.rollback, .ok ()⟩)] ∧ Alone i t t x w') := by
    refine (send_logged halone.rollback hrollback).post ?_
    rintro r w' ⟨⟨rfl, hrolled⟩, hlog⟩
    exact ⟨hlog, hrolled⟩
  have hclosed : Finishes (failingOn fails) i pattern (send .rollback).attempt w₁ (fun r w' =>
      ∃ closed, r = .ok closed ∧ w'.log = w₁.log ++ [(i, ⟨.rollback, .ok ()⟩)] ∧
        Alone i t t x w') :=
    hrolled.attempt (fun r w' hQ => ⟨r, rfl, hQ⟩)
  refine hclosed.bind ?_ (fun e w' hQ => by obtain ⟨_, heq, -⟩ := hQ; cases heq)
  rintro closed w₂ ⟨_, -, hlog, hend⟩
  exact Finishes.ofExcept ⟨t, x, w₁.log, hQ, hlog, hend⟩

end

end HotAirBalloon.Memory
