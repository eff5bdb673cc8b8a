import HotAirBalloon.Library.SoloRun
import HotAirBalloon.Memory.Calls
import HotAirBalloon.Memory.Effects

/-!
# A session that runs alone

`Alone` says what a session sees when no other session is active and every call arrives: nothing
waits, a statement has the outcome of its effect, a commit makes the session's rows the committed
ones. The rules below run programs from one such point to the next.
-/

namespace HotAirBalloon.Memory

open Python Library

variable {ι : Type} [DecidableEq ι] {i : ι} {t v : Tables} {x : VectorIndex} {w : World ι}

/-- The effect of a statement when no other session holds locks. -/
def Sql.alone (stmt : Sql) (t : Tables) : StatementEffect stmt.Reply :=
  stmt.effect (fun _ _ => false) t

/-- The tables after some changes. -/
def Tables.after (t : Tables) (changes : List Change) : Tables :=
  Server.applyAll Change.apply changes t

/-- The committed rows, the rows that the only active session sees, and the index. -/
structure Alone (i : ι) (t v : Tables) (x : VectorIndex) (w : World ι) : Prop where
  committed : w.server.committed = t
  visible : w.visible i = v
  index : w.index = x
  locks : ∀ lock ∈ w.server.locks, lock.session = i

abbrev FinishesAlone {α : Type} (i : ι) (p : Action α) (w : World ι)
    (Q : Except PyError α → World ι → Prop) : Prop :=
  Finishes exec i .arrives p w Q

namespace Alone

omit [DecidableEq ι] in
theorem start (i : ι) (log : List (ι × Event)) : Alone i t t x ⟨.idle t, x, log⟩ where
  committed := rfl
  visible := rfl
  index := rfl
  locks := nofun

theorem lockedByOther_eq (h : Alone i t v x w) :
    w.server.lockedByOther i = fun _ _ => false := by
  funext key mode
  unfold Server.lockedByOther
  rw [List.any_eq_false]
  intro lock hlock
  simp [h.locks lock hlock]

theorem effect_eq (h : Alone i t v x w) (stmt : Sql) : w.effect i stmt = stmt.alone v := by
  unfold World.effect Sql.alone
  rw [h.lockedByOther_eq, h.visible]

/-- A statement neither waits nor changes what is committed. -/
theorem statement_eq (h : Alone i t v x w) (stmt : Sql) :
    w.server.statement Change.apply i stmt.effect = some (match (stmt.alone v).outcome with
      | .error e => (.error e, w.server)
      | .ok (a, changes) => (.ok a, { w.server with
          changes := Function.update w.server.changes i (w.server.changes i ++ changes)
          locks := w.server.locks ++
            (stmt.alone v).locks.map (fun lock => ⟨i, lock.1, lock.2⟩) })) := by
  have heffect : stmt.effect (w.server.lockedByOther i) (w.server.visible Change.apply i) =
      stmt.alone v := h.effect_eq stmt
  unfold Server.statement
  rw [heffect]
  have hfree :
      ((stmt.alone v).locks.any fun lock => w.server.lockedByOther i lock.1 lock.2) = false := by
    rw [h.lockedByOther_eq]
    simp
  simp only [hfree, Bool.false_eq_true, if_false]
  cases (stmt.alone v).outcome <;> rfl

theorem sql (h : Alone i t v x w) {stmt : Sql} {a : stmt.Reply} {changes : List Change}
    (houtcome : (stmt.alone v).outcome = .ok (a, changes)) :
    FinishesAlone i (Memory.sql stmt) w
      (fun r w' => r = .ok a ∧ Alone i t (v.after changes) x w') := by
  have hstatement := h.statement_eq stmt
  rw [houtcome] at hstatement
  have hexec : exec i (.sql stmt) .arrives w = some (.ok a, {
      server := { w.server with
        changes := Function.update w.server.changes i (w.server.changes i ++ changes)
        locks := w.server.locks ++ (stmt.alone v).locks.map (fun lock => ⟨i, lock.1, lock.2⟩) }
      index := w.index
      log := w.log ++ [(i, ⟨.sql stmt, .ok a⟩)] }) := by
    unfold exec deliver carryOut
    dsimp only
    rw [hstatement]
    rfl
  refine Finishes.perform hexec ⟨rfl, h.committed, ?_, h.index, ?_⟩
  · rw [← h.visible]
    unfold World.visible Server.visible Tables.after
    simp only [Function.update_self]
    exact List.foldl_append
  · intro lock hlock
    rcases List.mem_append.mp hlock with hold | hnew
    · exact h.locks lock hold
    · obtain ⟨asked, -, rfl⟩ := List.mem_map.mp hnew
      rfl

/-- A statement that fails changes nothing. -/
theorem sql_error (h : Alone i t v x w) {stmt : Sql} {e : PyError}
    (houtcome : (stmt.alone v).outcome = .error e) :
    FinishesAlone i (Memory.sql stmt) w (fun r w' => r = .error e ∧ Alone i t v x w') := by
  have hstatement := h.statement_eq stmt
  rw [houtcome] at hstatement
  have hexec : exec i (.sql stmt) .arrives w = some (.error e, {
      server := w.server
      index := w.index
      log := w.log ++ [(i, ⟨.sql stmt, .error e⟩)] }) := by
    unfold exec deliver carryOut
    dsimp only
    rw [hstatement]
    rfl
  exact Finishes.perform hexec ⟨rfl, h.committed, h.visible, h.index, h.locks⟩

/-- The rows that a session has changed become the committed ones. -/
theorem commit (h : Alone i t v x w) :
    FinishesAlone i (send .commit) w (fun r w' => r = .ok () ∧ Alone i v v x w') := by
  have hexec : exec i .commit .arrives w = some (.ok (), {
      server := w.server.commit Change.apply i
      index := w.index
      log := w.log ++ [(i, ⟨.commit, .ok ()⟩)] }) := rfl
  refine Finishes.perform hexec ⟨rfl, h.visible, ?_, h.index, ?_⟩
  · unfold World.visible Server.visible Server.commit
    simp only [Function.update_self]
    exact h.visible
  · intro lock hlock
    exact h.locks lock (Server.mem_release.mp hlock).1

theorem rollback (h : Alone i t v x w) :
    FinishesAlone i (send .rollback) w (fun r w' => r = .ok () ∧ Alone i t t x w') := by
  have hexec : exec i .rollback .arrives w = some (.ok (), {
      server := w.server.rollback i
      index := w.index
      log := w.log ++ [(i, ⟨.rollback, .ok ()⟩)] }) := rfl
  refine Finishes.perform hexec ⟨rfl, h.committed, ?_, h.index, ?_⟩
  · unfold World.visible Server.visible Server.rollback
    simp only [Function.update_self]
    exact h.committed
  · intro lock hlock
    exact h.locks lock (Server.mem_release.mp hlock).1

theorem deleteIds (h : Alone i t v x w) (vectorNamespace : String) (vectorIds : List String) :
    FinishesAlone i (send (.deleteIds vectorNamespace vectorIds)) w
      (fun r w' => r = .ok () ∧ Alone i t v (x.deleteIds vectorNamespace vectorIds) w') := by
  have hexec : exec i (.deleteIds vectorNamespace vectorIds) .arrives w = some (.ok (), {
      server := w.server
      index := w.index.deleteIds vectorNamespace vectorIds
      log := w.log ++ [(i, ⟨.deleteIds vectorNamespace vectorIds, .ok ()⟩)] }) := rfl
  refine Finishes.perform hexec ⟨rfl, h.committed, h.visible, ?_, h.locks⟩
  dsimp only
  rw [h.index]

theorem eraseCheckpoint (h : Alone i t v x w) (ownerUserId conversationId : Uuid) :
    FinishesAlone i (send (.eraseCheckpoint ownerUserId conversationId)) w
      (fun r w' => r = .ok () ∧ Alone i t v x w') := by
  have hexec : exec i (.eraseCheckpoint ownerUserId conversationId) .arrives w = some (.ok (), {
      server := w.server
      index := w.index
      log := w.log ++ [(i, ⟨.eraseCheckpoint ownerUserId conversationId, .ok ()⟩)] }) := rfl
  exact Finishes.perform hexec ⟨rfl, h.committed, h.visible, h.index, h.locks⟩

/-- A session ends with the result of its body, and its uncommitted rows are discarded. Which calls
fail makes no difference to that, as long as the rollback arrives. -/
theorem inSession_of {α Choice : Type} {run : Exec ι PyError Op Op.Reply Choice (World ι)}
    {choice : Choice} (hrollback : ∀ w, run i .rollback choice w = exec i .rollback .arrives w)
    {body : Action α} (Q : Except PyError α → Tables → VectorIndex → Prop)
    (h : Finishes run i choice body w (fun r w' => ∃ t v x, Q r t x ∧ Alone i t v x w')) :
    Finishes run i choice (Memory.inSession body) w
      (fun r w' => ∃ t x, Q r t x ∧ Alone i t t x w') := by
  have hattempt : Finishes run i choice body.attempt w (fun r w' => ∃ result, r = .ok result ∧
      ∃ t v x, Q result t x ∧ Alone i t v x w') :=
    h.attempt (fun result w' hQ => ⟨result, rfl, hQ⟩)
  refine hattempt.bind ?_ ?_
  · rintro result w₁ ⟨_, heq, t, v, x, hQ, halone⟩
    cases heq
    have hrolled : Finishes run i choice (send .rollback) w₁
        (fun r w' => r = .ok () ∧ Alone i t t x w') := by
      refine halone.rollback.of_agree (P := (· = .rollback)) ⟨rfl, fun _ => trivial⟩ ?_
      rintro op w rfl
      exact hrollback w
    have hclosed : Finishes run i choice (send .rollback).attempt w₁
        (fun r w' => ∃ closed, r = .ok closed ∧ Alone i t t x w') :=
      hrolled.attempt (fun r w' h => ⟨r, rfl, h.2⟩)
    refine hclosed.bind ?_ ?_
    · rintro closed w₂ ⟨_, -, halone⟩
      exact Finishes.ofExcept ⟨t, x, hQ, halone⟩
    · rintro e w₂ ⟨_, heq, -⟩
      cases heq
  · rintro e w₁ ⟨_, heq, -⟩
    cases heq

theorem inSession {α : Type} {body : Action α} (Q : Except PyError α → Tables → VectorIndex → Prop)
    (h : FinishesAlone i body w (fun r w' => ∃ t v x, Q r t x ∧ Alone i t v x w')) :
    FinishesAlone i (Memory.inSession body) w (fun r w' => ∃ t x, Q r t x ∧ Alone i t t x w') :=
  inSession_of (fun _ => rfl) Q h

end Alone

/-! ## Programs with a known outcome -/

/-- A session that runs alone over the committed rows `t`, and sees the rows `v`, comes to the end
of a program with the result `r`; the committed rows are then `t'` and it sees `v'`. -/
def RunsAlone {α : Type} (i : ι) (t v : Tables) (p : Action α) (r : Except PyError α)
    (t' v' : Tables) : Prop :=
  ∀ x w, Alone i t v x w → FinishesAlone i p w (fun r' w' => r' = r ∧ Alone i t' v' x w')

namespace RunsAlone

variable {α β : Type} {t' v' t'' v'' : Tables} {p : Action α} {f : α → Action β}

theorem ofExcept (r : Except PyError α) : RunsAlone i t v (Prog.ofExcept r) r t v :=
  fun _ _ h => Finishes.ofExcept ⟨rfl, h⟩

theorem pure (a : α) : RunsAlone i t v (Pure.pure a) (.ok a) t v := ofExcept (.ok a)

theorem raise (e : PyError) : RunsAlone i t v (Prog.raise e : Action α) (.error e) t v :=
  ofExcept (.error e)

theorem sql {stmt : Sql} {a : stmt.Reply} {changes : List Change}
    (houtcome : (stmt.alone v).outcome = .ok (a, changes)) :
    RunsAlone i t v (Memory.sql stmt) (.ok a) t (v.after changes) :=
  fun _ _ h => h.sql houtcome

theorem bind {a : α} {r : Except PyError β} (h : RunsAlone i t v p (.ok a) t' v')
    (hf : RunsAlone i t' v' (f a) r t'' v'') : RunsAlone i t v (p >>= f) r t'' v'' := by
  intro x w halone
  refine (h x w halone).bind ?_ (fun e w' hQ => by cases hQ.1)
  rintro a' w' ⟨heq, halone'⟩
  cases heq
  exact hf x w' halone'

theorem bind_error {e : PyError} (h : RunsAlone i t v p (.error e) t' v') :
    RunsAlone i t v (p >>= f) (.error e) t' v' := by
  intro x w halone
  refine (h x w halone).bind (fun a w' hQ => by cases hQ.1) ?_
  rintro e' w' ⟨heq, halone'⟩
  cases heq
  exact ⟨rfl, halone'⟩

/-- A loop whose rounds all succeed and keep an assertion about what the session sees. -/
theorem forEach {items : List β} {body : β → Action Unit} (J : Tables → Prop) (hstart : J v)
    (hbody : ∀ item ∈ items, ∀ v, J v → ∃ v', RunsAlone i t v (body item) (.ok ()) t v' ∧ J v') :
    ∃ v', RunsAlone i t v (Prog.forEach items body) (.ok ()) t v' ∧ J v' := by
  induction items generalizing v with
  | nil => exact ⟨v, pure (), hstart⟩
  | cons item rest ih =>
    obtain ⟨v₁, hitem, hJ⟩ := hbody item List.mem_cons_self v hstart
    obtain ⟨v₂, hrest, hJ'⟩ :=
      ih hJ (fun item' hitem' => hbody item' (List.mem_cons_of_mem item hitem'))
    exact ⟨v₂, hitem.bind hrest, hJ'⟩

/-- A session ends with the result of its body and sees what is committed. -/
theorem inSession {r : Except PyError α} (h : RunsAlone i t v p r t' v') :
    RunsAlone i t v (Memory.inSession p) r t' t' := by
  intro x w halone
  have hbody : FinishesAlone i p w (fun r' w' => ∃ t₁ v₁ x₁, (r' = r ∧ t₁ = t' ∧ x₁ = x) ∧
      Alone i t₁ v₁ x₁ w') := by
    refine (h x w halone).post ?_
    rintro r' w' ⟨hr, halone'⟩
    exact ⟨t', v', x, ⟨hr, rfl, rfl⟩, halone'⟩
  refine (Alone.inSession (fun r' t₁ x₁ => r' = r ∧ t₁ = t' ∧ x₁ = x) hbody).post ?_
  rintro r' w' ⟨t₁, x₁, ⟨hr, rfl, rfl⟩, halone'⟩
  exact ⟨hr, halone'⟩

/-- A transaction whose body succeeds commits what the body has changed. -/
theorem transaction_ok {a : α} (h : RunsAlone i t v p (.ok a) t v') :
    RunsAlone i t v (transaction p) (.ok a) v' v' := by
  have hcommit : RunsAlone i t v' (send .commit) (.ok ()) v' v' := fun _ _ halone => halone.commit
  exact inSession (h.bind (hcommit.bind (pure a)))

/-- A transaction whose body raises leaves the committed rows as they were. -/
theorem transaction_error {e : PyError} (h : RunsAlone i t v p (.error e) t v') :
    RunsAlone i t v (transaction p) (.error e) t t :=
  inSession h.bind_error

end RunsAlone

/-- Calls that run one after another, whatever they return. -/
def runAlone (components : Components) : List Call → World Unit → Option (World Unit)
  | [], w => some w
  | call :: rest, w =>
    ((call.program components).run exec () .arrives w).bind fun (_, w') =>
      runAlone components rest w'

end HotAirBalloon.Memory
