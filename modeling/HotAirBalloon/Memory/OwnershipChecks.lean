import HotAirBalloon.Memory.Isolation

/-!
# Ownership checks

A call makes its ownership check first and only once. When the check finds the conversation with
another owner, all that is left of the call is a rollback and `ConversationOwnershipError`.
`conversations_isolated` puts this together with the invariant of all interleavings.
-/

namespace HotAirBalloon.Memory

open Python Library Evidence

/-! ## Programs that check first -/

/-- The conversation and the owner that an ownership check asks for. -/
def Op.checks : Op → Option (Uuid × Uuid)
  | .sql (.claimConversation conversationId ownerUserId _)
  | .sql (.selectOwnedConversation conversationId ownerUserId) => some (conversationId, ownerUserId)
  | _ => none

/-- The error that the reply of an ownership check ends its call with. -/
def refusal : (op : Op) → Except PyError op.Reply → Option PyError
  | .sql (.claimConversation ..), .ok none => some conversationOwnershipError
  | .sql (.claimConversation ..), .error e => some e
  | .sql (.selectOwnedConversation ..), .ok none => some conversationOwnershipError
  | .sql (.selectOwnedConversation ..), .error e => some e
  | _, _ => none

/-- A call that can only roll back and raise. -/
def Refused {α : Type} (e : PyError) (p : Action α) : Prop :=
  p = .done (.error e) ∨ ∃ next, p = .call .rollback next ∧ ∀ r, next r = .done (.error e)

/-- A body whose first call is its only ownership check, and which raises when it fails. -/
structure Checks {α : Type} (body : Action α) : Prop where
  begins : ∃ op next, body = .call op next
  raises : ∀ op next reply e, body = .call op next → refusal op reply = some e →
    next reply = .done (.error e)
  after : body.CallsAfter (·.checks = none)

/-- A program whose first call is its only ownership check, and which is refused when it fails. -/
structure ChecksFirst {α : Type} (p : Action α) : Prop where
  refused : ∀ op next reply e, p = .call op next → refusal op reply = some e →
    Refused e (next reply)
  after : p.CallsAfter (·.checks = none)

theorem checks_of_quiet {op : Op} (h : Quiet op) : op.checks = none := by
  unfold Op.checks
  split
  · exact False.elim h
  · exact False.elim h
  · rfl

theorem refusal_of_checks_eq_none {op : Op} (h : op.checks = none)
    (reply : Except PyError op.Reply) : refusal op reply = none := by
  unfold refusal
  split
  · cases h
  · cases h
  · cases h
  · cases h
  · rfl

section

open Prog

variable {α β : Type}

theorem calls_of_quiet {p : Action α} (h : p.Calls Quiet) : p.Calls (·.checks = none) :=
  h.mono fun _ => checks_of_quiet

theorem checks_requireOwner (conversationId ownerUserId : Uuid) :
    Checks (ConversationStore.requireOwner conversationId ownerUserId) where
  begins := ⟨_, _, rfl⟩
  raises op next reply e hp hreply := by
    cases hp
    rcases reply with e' | _ | row <;> cases hreply <;> rfl
  after := CallsAfter.bind (CallsAfter.perform _) (fun row => calls_requireRow row)

theorem checks_claim (conversationId ownerUserId : Uuid) (observedAt : DateTime) :
    Checks (ConversationStore.claimOrValidateIn conversationId ownerUserId observedAt) where
  begins := ⟨_, _, rfl⟩
  raises op next reply e hp hreply := by
    cases hp
    rcases reply with e' | _ | row <;> cases hreply <;> rfl
  after := CallsAfter.bind (CallsAfter.perform _) (fun row => calls_requireRow row)

theorem Checks.bind {body : Action α} {f : α → Action β} (h : Checks body)
    (hf : ∀ a, (f a).Calls (·.checks = none)) : Checks (body >>= f) where
  begins := by
    obtain ⟨op, next, rfl⟩ := h.begins
    exact ⟨op, _, rfl⟩
  raises op next reply e hp hreply := by
    obtain ⟨_, next', rfl⟩ := h.begins
    cases hp
    change (next' reply).bind f = _
    rw [h.raises op next' reply e rfl hreply]
    rfl
  after := CallsAfter.bind h.after hf

theorem ChecksFirst.inSession {body : Action α} (h : Checks body) :
    ChecksFirst (inSession body) where
  refused op next reply e hp hreply := by
    obtain ⟨_, next', rfl⟩ := h.begins
    cases hp
    change Refused e (Memory.inSession (next' reply))
    rw [h.raises op next' reply e rfl hreply]
    exact .inr ⟨_, rfl, fun _ => rfl⟩
  after := CallsAfter.bind h.after.attempt fun result =>
    Calls.bind (Calls.attempt (calls_send rfl)) fun _ => Calls.ofExcept result

theorem ChecksFirst.transaction {body : Action α} (h : Checks body) :
    ChecksFirst (transaction body) :=
  .inSession (h.bind fun a => Calls.bind (calls_send rfl) fun _ => Calls.pure a)

theorem Refused.bind {e : PyError} {p : Action α} (h : Refused e p) (f : α → Action β) :
    Refused e (p >>= f) := by
  rcases h with rfl | ⟨next, rfl, hnext⟩
  · exact .inl rfl
  · refine .inr ⟨fun r => next r >>= f, rfl, ?_⟩
    intro r
    dsimp only
    rw [hnext r]
    rfl

theorem ChecksFirst.of_quiet {p : Action α} (h : p.Calls Quiet) : ChecksFirst p where
  refused op next reply e hp hreply := by
    subst hp
    rw [refusal_of_checks_eq_none (checks_of_quiet h.1)] at hreply
    cases hreply
  after := CallsAfter.of_calls (calls_of_quiet h)

theorem ChecksFirst.of_background {p : Action α} (h : p.Calls Background) : ChecksFirst p :=
  .of_quiet (h.mono fun _ => quiet_of_background)

theorem ChecksFirst.raise (e : PyError) : ChecksFirst (Prog.raise e : Action α) :=
  .of_quiet (Calls.raise e)

/-- What follows a program that checks first must check nothing. -/
theorem ChecksFirst.bind {p : Action α} {f : α → Action β} (h : ChecksFirst p)
    (hf : ∀ a, (f a).Calls Quiet) : ChecksFirst (p >>= f) where
  refused op next reply e hp hreply := by
    cases p with
    | done r =>
      cases r with
      | ok a => exact (ChecksFirst.of_quiet (hf a)).refused op next reply e hp hreply
      | error e => cases hp
    | call op' next' =>
      cases hp
      exact (h.refused op next' reply e rfl hreply).bind f
  after := CallsAfter.bind h.after (fun a => calls_of_quiet (hf a))

end

/-! ## The programs of the calls -/

theorem checksFirst_program (components : Components) (call : Call) :
    ChecksFirst (call.program components) := by
  have hdone : ∀ (r : CallResult), (pure r : Action CallResult).Calls Quiet :=
    fun r => Prog.Calls.pure r
  cases call with
  | claimOrValidate c u o =>
    exact (ChecksFirst.transaction (checks_claim c u o)).bind (fun _ => hdone _)
  | readRecent c u limit =>
    refine ((ChecksFirst.inSession ((checks_requireOwner c u).bind fun _ => ?_)).bind
      (fun _ => Prog.Calls.pure _)).bind (fun _ => hdone _)
    split
    · exact Prog.Calls.pure _
    · exact calls_sql rfl
  | append c turn u id =>
    refine (ChecksFirst.transaction ((checks_claim c u _).bind fun _ => ?_)).bind (fun _ => hdone _)
    refine Prog.Calls.bind (Prog.Calls.bind (calls_sql rfl) fun row =>
      calls_requireRow row) fun _ => ?_
    exact Prog.Calls.bind (calls_sql rfl) (fun _ => Prog.Calls.pure _)
  | appendCompletedExchange c u userTurn assistantTurn evidence userId assistantId evidenceId =>
    refine ChecksFirst.bind ?_ (fun _ => hdone _)
    unfold ConversationStore.appendCompletedExchange
    split
    · exact ChecksFirst.raise _
    refine ChecksFirst.transaction ((checks_claim c u _).bind fun _ => ?_)
    refine Prog.Calls.bind (Prog.Calls.ofExcept _) fun evidenceRow => ?_
    refine Prog.Calls.bind (Prog.Calls.bind (calls_sql rfl) fun row =>
      calls_requireRow row) fun _ => ?_
    refine Prog.Calls.bind (calls_sql rfl) fun _ => Prog.Calls.bind (calls_sql rfl) fun _ => ?_
    cases evidenceRow with
    | none => exact Prog.Calls.pure _
    | some row => exact Prog.Calls.bind (calls_sql rfl) (fun _ => Prog.Calls.pure _)
  | readRecentEvidence c u limit now =>
    refine ((ChecksFirst.inSession ((checks_requireOwner c u).bind fun _ => ?_)).bind
      (fun _ => Prog.Calls.ofExcept _)).bind (fun _ => hdone _)
    split
    · exact Prog.Calls.pure _
    · exact calls_sql rfl
  | appendEvidence snapshot id =>
    refine (ChecksFirst.transaction ((checks_requireOwner _ _).bind fun _ => ?_)).bind
      (fun _ => hdone _)
    refine Prog.Calls.bind (Prog.Calls.ofExcept _) fun row => ?_
    exact Prog.Calls.bind (calls_sql rfl) (fun _ => Prog.Calls.pure _)
  | eraseEvidence c u =>
    exact (ChecksFirst.transaction ((checks_requireOwner c u).bind fun _ => calls_sql rfl)).bind
      (fun _ => hdone _)
  | closeConversation c u now =>
    refine (ChecksFirst.transaction ((checks_requireOwner c u).bind fun _ => ?_)).bind
      (fun _ => hdone _)
    refine Prog.Calls.bind (calls_sql rfl) fun rows => ?_
    refine Prog.Calls.bind (calls_sql rfl) fun row => ?_
    refine Prog.Calls.bind (calls_requireRow row) fun _ => Prog.Calls.forEach ?_
    exact fun _ _ => calls_flushUpdate (calls_sql rfl)
  | purgeExpired now =>
    exact (ChecksFirst.of_background (purgeExpired_background _ now)).bind (fun _ => hdone _)
  | record memory id now =>
    exact (ChecksFirst.of_background (record_background _ memory id now)).bind (fun _ => hdone _)
  | recordOrGetUserFact memory id now =>
    exact (ChecksFirst.of_background (recordOrGetUserFact_background _ memory id now)).bind
      (fun _ => hdone _)
  | syncOnce clock =>
    exact (ChecksFirst.of_background (syncOnce_background _ clock)).bind (fun _ => hdone _)
  | reconcileOnce =>
    exact (ChecksFirst.of_background (reconcileOnce_background _)).bind (fun _ => hdone _)
  | purgeOnce now =>
    exact (ChecksFirst.of_background (purgeOnce_background _ now)).bind (fun _ => hdone _)
  | eraseUserMemory u =>
    exact (ChecksFirst.of_background (eraseUserMemory_background _ u)).bind (fun _ => hdone _)
  | recordOutcome c u fact decision reason id now =>
    exact (ChecksFirst.of_background
      (recordOutcome_background _ c u fact decision reason id now)).bind (fun _ => hdone _)
  | markPromoted id recordId =>
    exact (ChecksFirst.of_background (markPromoted_background id recordId)).bind (fun _ => hdone _)

/-! ## Runs -/

section

variable {ι : Type} [DecidableEq ι] {components : Components} {call : ι → Call} {c c' : System ι}
  {i j : ι}

/-- A call has made no step yet, or it has no ownership check left. -/
def ChecksOnce (components : Components) (call : ι → Call) (i : ι) (c : System ι) : Prop :=
  ((∀ entry ∈ c.world.log, entry.1 ≠ i) ∧ c.world.server.changes i = [] ∧
    c.programs i = (call i).program components) ∨ (c.programs i).Calls (·.checks = none)

theorem ChecksOnce.step (h : ChecksOnce components call i c) (hstep : Step exec always j c c') :
    ChecksOnce components call i c' := by
  obtain @⟨op, next, delivery, reply, world, hprogram, -, hexec⟩ := hstep
  by_cases hji : i = j
  · subst hji
    refine .inr ?_
    simp only [Function.update_self]
    rcases h with ⟨-, -, hstart⟩ | hcalls
    · have hafter := (checksFirst_program components (call i)).after
      rw [← hstart, hprogram] at hafter
      exact hafter reply
    · rw [hprogram] at hcalls
      exact hcalls.2 reply
  · unfold ChecksOnce
    simp only [Function.update_of_ne hji]
    rcases h with ⟨hlog, hnil, hstart⟩ | hcalls
    · refine .inl ⟨?_, (changes_of_ne hexec hji).trans hnil, hstart⟩
      rw [exec_log hexec]
      intro entry hentry
      rcases List.mem_append.mp hentry with hold | hnew
      · exact hlog entry hold
      · rw [List.mem_singleton.mp hnew]
        exact Ne.symm hji
    · exact .inr hcalls

theorem ChecksOnce.steps (h : ChecksOnce components call i c) (hsteps : Steps exec always c c') :
    ChecksOnce components call i c' := by
  induction hsteps with
  | refl => exact h
  | tail _ hlast ih =>
    obtain ⟨j, hstep⟩ := hlast
    exact ih.step hstep

/-- A refused call, in a session that has changed nothing. -/
structure RefusedAt (i : ι) (e : PyError) (c : System ι) : Prop where
  refused : Refused e (c.programs i)
  unchanged : c.world.server.changes i = []

theorem RefusedAt.step {e : PyError} (h : RefusedAt i e c) (hstep : Step exec always j c c') :
    RefusedAt i e c' ∧ (j = i → c'.world.server.committed = c.world.server.committed ∧
      c'.programs i = .done (.error e)) := by
  obtain @⟨op, next, delivery, reply, world, hprogram, -, hexec⟩ := hstep
  by_cases hij : i = j
  · subst hij
    rcases h.refused with hdone | ⟨next', hcall, hnext⟩
    · rw [hdone] at hprogram
      cases hprogram
    · rw [hcall] at hprogram
      cases hprogram
      have hserver : world.server = c.world.server ∨ world.server = c.world.server.rollback i := by
        rcases server_cases hexec with h | ⟨_, _, hop, -⟩ | ⟨hop, -⟩ | ⟨-, h⟩
        · exact .inl h
        · cases hop
        · cases hop
        · exact .inr h
      refine ⟨⟨?_, ?_⟩, fun _ => ⟨?_, ?_⟩⟩
      · exact .inl (by simpa using hnext reply)
      · rcases hserver with h' | h' <;> dsimp only <;> rw [h']
        · exact h.unchanged
        · exact Function.update_self _ _ _
      · rcases hserver with h' | h' <;> dsimp only <;> rw [h']
        rfl
      · simpa using hnext reply
  · refine ⟨⟨?_, (changes_of_ne hexec hij).trans h.unchanged⟩, fun heq => absurd heq.symm hij⟩
    simp only [Function.update_of_ne hij]
    exact h.refused

theorem RefusedAt.steps {e : PyError} (h : RefusedAt i e c) (hsteps : Steps exec always c c') :
    RefusedAt i e c' := by
  induction hsteps with
  | refl => exact h
  | tail _ hlast ih =>
    obtain ⟨j, hstep⟩ := hlast
    exact (ih.step hstep).1

/-- Whatever the other calls do, the call commits nothing more, its next step can be made and ends
it, and it ends with the error. -/
structure Raises (i : ι) (e : PyError) (c : System ι) : Prop where
  harmless : ∀ c' c'', Steps exec always c c' → Step exec always i c' c'' →
    c''.world.server.committed = c'.world.server.committed
  result : ∀ c' r, Steps exec always c c' → c'.programs i = .done r → r = .error e
  ends : ∀ c', Steps exec always c c' → c'.programs i = .done (.error e) ∨
    ∃ c'', Step exec always i c' c'' ∧ c''.programs i = .done (.error e)

theorem RefusedAt.raises {e : PyError} (h : RefusedAt i e c) : Raises i e c where
  harmless c' c'' hsteps hstep := (((h.steps hsteps).step hstep).2 rfl).1
  result c' r hsteps hdone := by
    rcases (h.steps hsteps).refused with heq | ⟨next, heq, -⟩
    · rw [heq] at hdone
      cases hdone
      rfl
    · rw [heq] at hdone
      cases hdone
  ends c' hsteps := by
    rcases (h.steps hsteps).refused with heq | ⟨next, heq, hnext⟩
    · exact .inl heq
    · -- a rollback waits for nothing
      obtain ⟨world, hexec⟩ : ∃ world, exec i .rollback .arrives c'.world = some (.ok (), world) :=
        ⟨_, rfl⟩
      refine .inr ⟨_, .mk heq trivial hexec, ?_⟩
      simpa using hnext (.ok ())

/-- An ownership check on a conversation that another user owns. -/
theorem refusal_of_other_owner {op : Op} {delivery : Delivery} {reply : Except PyError op.Reply}
    {w w' : World ι} {conversationId ownerUserId : Uuid} {row : AssistantConversationRecord}
    (hexec : exec i op delivery w = some (reply, w')) (hnil : w.server.changes i = [])
    (hchecks : op.checks = some (conversationId, ownerUserId))
    (hrow : row ∈ w.server.committed.conversations) (hid : row.id = conversationId)
    (howner : row.ownerUserId ≠ ownerUserId) :
    w'.server.committed = w.server.committed ∧ w'.server.changes i = [] ∧
      ∃ e, refusal op reply = some e ∧ ∀ a, reply = .ok a → e = conversationOwnershipError := by
  have hfind : (w.visible i).conversations.find? conversationId = some row := by
    rw [visible_of_nil hnil]
    exact Table.find?_eq_some_iff.mpr ⟨hrow, hid⟩
  cases op with
  | sql stmt =>
    cases stmt with
    | claimConversation conversationId' ownerUserId' observedAt =>
      obtain ⟨rfl, rfl⟩ := Prod.mk.inj (Option.some.inj hchecks)
      have houtcome :
          (w.effect i (.claimConversation conversationId' ownerUserId' observedAt)).outcome =
          .ok (none, []) := by
        unfold World.effect Sql.effect claimConversation
        simp only [hfind, if_neg howner, writeEffect]
      obtain ⟨hcommitted, hchanges, hreply⟩ := unchanged_of_outcome hexec houtcome
      refine ⟨hcommitted, by rw [hchanges, hnil], ?_⟩
      rcases hreply with heq | ⟨e, heq⟩ <;> subst heq
      · exact ⟨_, rfl, fun _ _ => rfl⟩
      · refine ⟨e, rfl, ?_⟩
        intro _ hok
        cases hok
    | selectOwnedConversation conversationId' ownerUserId' =>
      obtain ⟨rfl, rfl⟩ := Prod.mk.inj (Option.some.inj hchecks)
      have houtcome : (w.effect i (.selectOwnedConversation conversationId' ownerUserId')).outcome =
          .ok (none, []) := by
        unfold World.effect Sql.effect ownedConversation
        simp [hfind, Option.filter_some, howner, readEffect]
      obtain ⟨hcommitted, hchanges, hreply⟩ := unchanged_of_outcome hexec houtcome
      refine ⟨hcommitted, by rw [hchanges, hnil], ?_⟩
      rcases hreply with heq | ⟨e, heq⟩ <;> subst heq
      · exact ⟨_, rfl, fun _ _ => rfl⟩
      · refine ⟨e, rfl, ?_⟩
        intro _ hok
        cases hok
    | _ => cases hchecks
  | _ => cases hchecks

end

/-! ## Isolation -/

section

variable {ι : Type} [DecidableEq ι]

/-- The isolation of the users' conversations at a point of a run. -/
structure ConversationsIsolated (components : Components) (call : ι → Call) (c : System ι) :
    Prop where
  owners : ∀ i c', Step exec always i c c' → OwnersKept c.world c'.world
  turns : ∀ i conversationId ownerUserId limit turns,
    call i = .readRecent conversationId ownerUserId limit →
      c.programs i = .done (.ok (.turns turns)) →
    ∀ turn ∈ turns, ∃ j row, (call j).user? = some ownerUserId ∧
      (call j).AppendsTurn conversationId ownerUserId turn ∧ Sent c.world.log j (.insertTurn row) ∧
      row.ownerKey = (conversationId, ownerUserId) ∧ ConversationStore.turnOf row = turn
  evidence : ∀ i conversationId ownerUserId limit now snapshots,
    call i = .readRecentEvidence conversationId ownerUserId limit now →
    c.programs i = .done (.ok (.evidence snapshots)) →
    ∀ snapshot ∈ snapshots, ∃ j appended row, (call j).user? = some ownerUserId ∧
      (call j).AppendsEvidence appended ∧ Sent c.world.log j (.insertEvidence row) ∧
      row.ownerKey = (conversationId, ownerUserId) ∧
      components.store.evidenceRecord row.id appended = .ok row ∧
      components.store.snapshotOf row = .ok snapshot
  /-- An ownership check is the first step of its call; on a conversation of another user it is
  the last that could have changed anything. -/
  refusals : ∀ i c' op reply conversationId ownerUserId, Step exec always i c c' →
    c'.world.log = c.world.log ++ [(i, ⟨op, reply⟩)] →
    op.checks = some (conversationId, ownerUserId) →
    (∃ row ∈ c.world.server.committed.conversations,
      row.id = conversationId ∧ row.ownerUserId ≠ ownerUserId) →
    (∀ entry ∈ c.world.log, entry.1 ≠ i) ∧
    c'.world.server.committed = c.world.server.committed ∧
    ∃ e, Raises i e c' ∧ ∀ a, reply = .ok a → e = conversationOwnershipError

theorem conversations_isolated (components : Components) (index : VectorIndex) (call : ι → Call)
    (hcarries : ∀ i, (call i).CarriesIds) (c : System ι)
    (hrun : Steps exec always (System.start components call (World.idle .empty index)) c) :
    ConversationsIsolated components call c := by
  have hcovered :
      Covered (ownershipRely components.store call) (Returned components.store call) c := by
    have hstart : Covered (ownershipRely components.store call) (Returned components.store call)
        (System.start components call (World.idle .empty index)) :=
      ⟨OwnershipInv.start index,
        fun i => ⟨_, stable_changes_nil, rfl, outline_call components rfl⟩⟩
    exact hstart.steps hrun
  have honce : ∀ i, ChecksOnce components call i c := by
    intro i
    refine ChecksOnce.steps (.inl ⟨?_, rfl, rfl⟩) hrun
    intro entry hentry
    cases hentry
  constructor
  · intro i c' hstep
    exact (hcovered.step hstep).2.owners
  · intro i conversationId ownerUserId limit turns hcall hdone turn hturn
    have hreturned := hcovered.result hdone
    unfold Returned at hreturned
    rw [hcall] at hreturned
    obtain ⟨j, row, hsent, hkey, hturnOf, happends⟩ := hreturned turn hturn
    exact ⟨j, row, Call.user_of_appendsTurn happends, happends, hsent, hkey, hturnOf⟩
  · intro i conversationId ownerUserId limit now snapshots hcall hdone snapshot hsnapshot
    have hreturned := hcovered.result hdone
    unfold Returned at hreturned
    rw [hcall] at hreturned
    obtain ⟨j, appended, row, hsent, happends, rfl, rfl, hrecord, hread⟩ :=
      hreturned snapshot hsnapshot
    obtain ⟨hconversation, howner, -⟩ := evidenceRecord_ids hrecord
    refine ⟨j, appended, row, Call.user_of_appendsEvidence (hcarries j) happends,
      happends, hsent, ?_, hrecord, hread⟩
    exact Prod.ext hconversation howner
  · intro i c' op reply conversationId ownerUserId hstep hlog hchecks hother
    obtain ⟨row, hrow, hid, howner⟩ := hother
    obtain @⟨op', next, delivery, reply', world, hprogram, -, hexec⟩ := hstep
    have hentry : [(i, (⟨op', reply'⟩ : Event))] = [(i, ⟨op, reply⟩)] :=
      List.append_cancel_left ((exec_log hexec).symm.trans hlog)
    cases hentry
    rcases honce i with ⟨hnone, hnil, hstart⟩ | hcalls
    · obtain ⟨hcommitted, hnil', e, hrefusal, hok⟩ :=
        refusal_of_other_owner hexec hnil hchecks hrow hid howner
      refine ⟨hnone, hcommitted, e, RefusedAt.raises ⟨?_, hnil'⟩, hok⟩
      simp only [Function.update_self]
      exact (checksFirst_program components (call i)).refused op next reply e
        (hstart.symm.trans hprogram) hrefusal
    · rw [hprogram] at hcalls
      rw [hcalls.1] at hchecks
      cases hchecks

end

/-! ## One user appends to a conversation, another reads it -/

def sharedCall : Bool → Call
  | false => .append (.ofNat 1) ⟨"user", "Which pump leaks?", 5⟩ (.ofNat 10) (.ofNat 100)
  | true => .readRecent (.ofNat 1) (.ofNat 20) 10

def sharedStart : System Bool :=
  System.start (.wired .ascii id id) sharedCall (World.idle .empty .empty)

/-- The append commits before the other user's check. -/
def sharedRun : Option (System Bool) :=
  runSchedule exec always
    [(false, .arrives), (false, .arrives), (false, .arrives), (false, .arrives), (true, .arrives),
      (false, .arrives), (true, .arrives)] sharedStart

theorem sharedRun_isSome : sharedRun.isSome := by decide

theorem conversations_isolated_shared :
    ConversationsIsolated (.wired .ascii id id) sharedCall (sharedRun.get sharedRun_isSome) ∧
    ((sharedRun.get sharedRun_isSome).programs true).error? = some conversationOwnershipError := by
  refine ⟨conversations_isolated _ .empty _ ?_ _ ?_, by decide⟩
  · intro i
    cases i <;> trivial
  · exact steps_of_runSchedule (Option.some_get sharedRun_isSome).symm

end HotAirBalloon.Memory
