import HotAirBalloon.Memory.OwedTurns

/-!
# Counters in every interleaving

Every call of the stores and jobs is settled when it commits, so the counters are exact in every
state (`counters_exact`). A call that appends turns and raises has changed nothing, unless it has
committed and the answer to its commit was lost.
-/

namespace HotAirBalloon.Memory

open Python Library Evidence

variable {σ : Type} [DecidableEq σ] {store : ConversationStore} {i : σ}

/-! ## Every call -/

/-- The user's turn of an exchange is not later than the assistant's. -/
def Call.InOrder : Call → Prop
  | appendCompletedExchange _ _ userTurn assistantTurn _ _ _ _ =>
    userTurn.createdAtUtc ≤ assistantTurn.createdAtUtc
  | _ => True

section

open Prog

theorem requireOwner_writesNoRow (conversationId ownerUserId : Uuid) :
    (ConversationStore.requireOwner conversationId ownerUserId).Calls WritesNoRow :=
  Calls.bind (calls_sql trivial) (fun row => calls_requireRow row)

theorem outline_ledgerReads {α β : Type} {p : Action α} {f : α → Action β}
    (hp : p.Calls WritesNoRow) (hf : ∀ a, (f a).Calls WritesNoRow) :
    Outline (ledgerRely store σ) i (fun h => h.world.server.changes i = []) (p >>= f)
      (fun _ _ => True) := by
  refine Outline.post (Outline.pre (outline_writesNone (Calls.bind hp hf)) ?_)
    (fun _ _ _ _ => trivial)
  exact fun _ _ hnil => WritesNone.of_nil hnil

theorem outline_ledgerCall (components : Components) (call : Call) (horder : call.InOrder) :
    Outline (ledgerRely components.store σ) i (fun h => h.world.server.changes i = [])
      (call.program components) (fun _ _ => True) := by
  have hpure : ∀ result : CallResult, (pure result : Action CallResult).Calls WritesNoRow :=
    fun result => Calls.pure result
  have hreturn : ∀ {α : Type} {p : Action α} {f : α → CallResult},
      Outline (ledgerRely components.store σ) i (fun h => h.world.server.changes i = []) p
        (fun _ _ => True) →
      Outline (ledgerRely components.store σ) i (fun h => h.world.server.changes i = [])
        (p >>= fun a => pure (f a)) (fun _ _ => True) :=
    fun h => h.bind (fun _ => Outline.pure (fun _ _ _ => trivial)) (fun _ _ _ _ => trivial)
  have hbackground : ∀ {α : Type} {p : Action α}, p.Calls Background → p.Calls WritesNoRow :=
    fun h => h.mono (fun _ => writesNoRow_of_background)
  cases call with
  | claimOrValidate => exact hreturn (outline_ledgerClaimOrValidate _ _ _)
  | append => exact hreturn (outline_ledgerAppend _ _ _ _)
  | appendCompletedExchange => exact hreturn (outline_ledgerExchange _ _ _ _ _ _ _ _ horder)
  | closeConversation => exact hreturn (outline_ledgerClose _ _ _)
  | readRecent c u limit =>
    refine outline_ledgerReads (Calls.bind (calls_inSession trivial ?_) (fun _ => Calls.pure _))
      (fun _ => hpure _)
    refine Calls.bind (requireOwner_writesNoRow c u) (fun _ => ?_)
    split
    · exact Calls.pure _
    · exact calls_sql trivial
  | readRecentEvidence c u limit now =>
    refine outline_ledgerReads (Calls.bind (calls_inSession trivial ?_) (fun _ => Calls.ofExcept _))
      (fun _ => hpure _)
    refine Calls.bind (requireOwner_writesNoRow c u) (fun _ => ?_)
    split
    · exact Calls.pure _
    · exact calls_sql trivial
  | appendEvidence snapshot id =>
    refine outline_ledgerReads (calls_inSession trivial ?_) (fun _ => hpure _)
    refine Calls.bind ?_ (fun _ => Calls.bind (calls_send trivial) (fun _ => Calls.pure _))
    refine Calls.bind (requireOwner_writesNoRow _ _) (fun _ => ?_)
    refine Calls.bind (Calls.ofExcept _) (fun _ => ?_)
    exact Calls.bind (calls_sql trivial) (fun _ => Calls.pure _)
  | eraseEvidence c u =>
    refine outline_ledgerReads (calls_inSession trivial ?_) (fun _ => hpure _)
    refine Calls.bind ?_ (fun _ => Calls.bind (calls_send trivial) (fun _ => Calls.pure _))
    exact Calls.bind (requireOwner_writesNoRow _ _) (fun _ => calls_sql trivial)
  | purgeExpired now =>
    exact outline_ledgerReads (hbackground (purgeExpired_background _ now)) (fun _ => hpure _)
  | record memory id now =>
    exact outline_ledgerReads (hbackground (record_background _ memory id now)) (fun _ => hpure _)
  | recordOrGetUserFact memory id now =>
    exact outline_ledgerReads (hbackground (recordOrGetUserFact_background _ memory id now))
      (fun _ => hpure _)
  | syncOnce clock =>
    exact outline_ledgerReads (hbackground (syncOnce_background _ clock)) (fun _ => hpure _)
  | reconcileOnce =>
    exact outline_ledgerReads (hbackground (reconcileOnce_background _)) (fun _ => hpure _)
  | purgeOnce now =>
    exact outline_ledgerReads (hbackground (purgeOnce_background _ now)) (fun _ => hpure _)
  | eraseUserMemory u =>
    exact outline_ledgerReads (hbackground (eraseUserMemory_background _ u)) (fun _ => hpure _)
  | recordOutcome c u fact decision reason id now =>
    exact outline_ledgerReads
      (hbackground (recordOutcome_background _ c u fact decision reason id now)) (fun _ => hpure _)
  | markPromoted id recordId =>
    exact outline_ledgerReads (hbackground (markPromoted_background id recordId)) (fun _ => hpure _)

end

/-! ## Transactions that raise -/

/-- What the others leave to a session: the log, and whether it has changed a row. -/
def commitRely (σ : Type) [DecidableEq σ] : Rely σ PyError Op Op.Reply Delivery (Ledger σ) where
  exec := ledgerExec
  cond := always
  inv _ := True
  guar i h h' := h.world.log <+: h'.world.log ∧ ∀ j ≠ i, h'.changed j = h.changed j

/-- A call that raises has changed nothing, unless its commit has raised. -/
def RaisedUnchanged {α : Type} (i : σ) (r : Except PyError α) (h : Ledger σ) : Prop :=
  match r with
  | .ok _ => True
  | .error _ => h.changed i = true → ∃ e, (i, ⟨.commit, .error e⟩) ∈ h.world.log

section

variable {α : Type} {P : Ledger σ → Prop} {op : Op}

theorem commitTriple {R : Except PyError op.Reply → Ledger σ → Prop}
    (hR : ∀ h delivery r w', P h → exec i op delivery h.world = some (r, w') → R r (h.after i w')) :
    Triple (commitRely σ) i P op R := by
  intro h delivery r h' _ hP _ hexec
  obtain ⟨⟨r', w'⟩, hexec', heq⟩ := Option.map_eq_some_iff.mp hexec
  cases heq
  refine ⟨trivial, ⟨?_, fun _ => changed_of_ne⟩, hR h delivery r w' hP hexec'⟩
  show h.world.log <+: w'.log
  rw [exec_log hexec']
  exact List.prefix_append _ _

/-- Only a commit changes what is committed. -/
theorem changed_of_ne_commit {h : Ledger σ} {delivery : Delivery} {r : Except PyError op.Reply}
    {w' : World σ} (hexec : exec i op delivery h.world = some (r, w')) (hop : op ≠ .commit) :
    (h.after i w').changed = h.changed := by
  rcases ServerInv.committed_cases hexec with hsame | ⟨heq, -⟩
  · exact changed_of_committed_eq hsame
  · exact absurd heq hop

theorem stable_unchanged : Stable (commitRely σ) i (fun h => h.changed i = false) := by
  intro h h' j hji _ _ hguar hunchanged
  rw [hguar.2 i (Ne.symm hji)]
  exact hunchanged

theorem stable_raisedUnchanged (r : Except PyError α) :
    Stable (commitRely σ) i (RaisedUnchanged i r) := by
  intro h h' j hji _ _ hguar hraised
  cases r with
  | ok a => trivial
  | error e =>
    intro hchanged
    rw [hguar.2 i (Ne.symm hji)] at hchanged
    obtain ⟨e', hmem⟩ := hraised hchanged
    exact ⟨e', hguar.1.subset hmem⟩

theorem outline_unchanged {p : Action α} (hp : p.Calls (· ≠ .commit)) :
    Outline (commitRely σ) i (fun h => h.changed i = false) p (fun _ h => h.changed i = false) := by
  refine Outline.of_calls_keeping stable_unchanged ?_ hp
  intro op hop
  refine commitTriple (fun h delivery r w' hunchanged hexec => ?_)
  rw [changed_of_ne_commit hexec hop]
  exact hunchanged

theorem outline_anyLedgerCalls (p : Action α) :
    Outline (commitRely σ) i (fun _ => True) p (fun _ _ => True) := by
  induction p with
  | done r => exact fun _ _ _ => trivial
  | call op next ih =>
    exact ⟨fun _ _ => True, fun _ => stable_const True, commitTriple fun _ _ _ _ _ _ => trivial, ih⟩

theorem outline_raisingTransaction {body : Action α} (hbody : body.Calls (· ≠ .commit)) :
    Outline (commitRely σ) i (fun h => h.changed i = false) (transaction body)
      (RaisedUnchanged i) := by
  have hcommit : Outline (commitRely σ) i (fun h : Ledger σ => h.changed i = false) (send .commit)
      (RaisedUnchanged i) := by
    refine Outline.perform stable_raisedUnchanged (commitTriple ?_)
    intro h delivery r w' _ hexec
    cases r with
    | ok a => trivial
    | error e =>
      intro _
      refine ⟨e, ?_⟩
      show (i, _) ∈ w'.log
      rw [exec_log hexec]
      exact List.mem_append_right _ List.mem_cons_self
  refine outline_closing (Q := RaisedUnchanged i)
    ((outline_unchanged hbody).bind (fun a => ?_) (fun e h _ hunchanged hchanged => ?_))
      (fun r => ?_)
  · exact hcommit.bind (fun _ => Outline.pure (fun _ _ _ => trivial)) (fun _ _ _ hraised => hraised)
  · rw [hunchanged] at hchanged
    cases hchanged
  · refine Outline.perform (fun _ => stable_raisedUnchanged r) (commitTriple ?_)
    intro h delivery _ w' hraised hexec
    cases r with
    | ok a => trivial
    | error e =>
      intro hchanged
      rw [changed_of_ne_commit hexec (by simp)] at hchanged
      obtain ⟨e', hmem⟩ := hraised hchanged
      refine ⟨e', ?_⟩
      show (i, _) ∈ w'.log
      rw [exec_log hexec]
      exact List.mem_append_left _ hmem

end

/-- The calls that append turns. -/
def Call.appends : Call → Bool
  | append .. | appendCompletedExchange .. => true
  | _ => false

section

open Prog

variable {components : Components}

theorem outline_raisingCall (call : Call) (happends : call.appends = true) :
    Outline (commitRely σ) i (fun h => h.changed i = false) (call.program components)
      (RaisedUnchanged i) := by
  have hsql : ∀ stmt : Sql, (sql stmt).Calls (· ≠ .commit) := fun stmt => calls_sql (by simp)
  have hrow : ∀ {p : Action (Option Uuid)}, p.Calls (· ≠ .commit) →
      (p >>= requireRow).Calls (· ≠ .commit) :=
    fun h => Calls.bind h calls_requireRow
  have hreturn : ∀ {α : Type} {p : Action α} {f : α → CallResult},
      Outline (commitRely σ) i (fun h => h.changed i = false) p (RaisedUnchanged i) →
      Outline (commitRely σ) i (fun h => h.changed i = false) (p >>= fun a => pure (f a))
        (RaisedUnchanged i) :=
    fun h => h.bind (fun _ => Outline.pure (fun _ _ _ => trivial)) (fun _ _ _ hraised => hraised)
  cases call with
  | append conversationId turn ownerUserId turnId =>
    refine hreturn (outline_raisingTransaction ?_)
    refine Calls.bind (hrow (hsql _)) (fun _ => ?_)
    refine Calls.bind (hrow (hsql _)) (fun _ => ?_)
    exact Calls.bind (hsql _) (fun _ => Calls.pure _)
  | appendCompletedExchange conversationId ownerUserId userTurn assistantTurn evidence userTurnId
      assistantTurnId evidenceId =>
    refine hreturn ?_
    unfold ConversationStore.appendCompletedExchange
    split
    · refine Outline.raise (fun h _ hunchanged hchanged => ?_)
      rw [hunchanged] at hchanged
      cases hchanged
    refine outline_raisingTransaction ?_
    refine Calls.bind (hrow (hsql _)) (fun _ => ?_)
    refine Calls.bind (Calls.ofExcept _) (fun evidenceRow => ?_)
    refine Calls.bind (hrow (hsql _)) (fun _ => ?_)
    refine Calls.bind (hsql _) (fun _ => Calls.bind (hsql _) (fun _ => ?_))
    cases evidenceRow with
    | none => exact Calls.pure ()
    | some row => exact Calls.bind (hsql _) (fun _ => Calls.pure ())
  | _ => cases happends

end

/-! ## Runs -/

abbrev LedgerSystem (ι : Type) := Config ι PyError Op Op.Reply (Ledger ι) CallResult

/-- The calls of a family on empty tables, none of which has started. -/
def LedgerSystem.start {ι : Type} (components : Components) (call : ι → Call)
    (index : VectorIndex) : LedgerSystem ι :=
  ⟨.start index, fun i => (call i).program components⟩

/-- Any calls run at once, in any order of their statements, and any of them may fail on its way.
The counters are exact in every state, `last_turn_at` never decreases, and a call that appends turns
and raises has changed nothing, unless its commit has raised. -/
theorem counters_exact {ι : Type} [DecidableEq ι] (components : Components) (call : ι → Call)
    (horder : ∀ i, (call i).InOrder) (index : VectorIndex) {c : LedgerSystem ι}
    (hsteps : Steps ledgerExec always (LedgerSystem.start components call index) c) :
    CountersExact components.store c.world ∧
    (∀ i c', Step ledgerExec always i c c' → ∀ row ∈ c.world.tables.conversations,
      ∀ row' ∈ c'.world.tables.conversations, row'.id = row.id → row.lastTurnAt ≤ row'.lastTurnAt) ∧
    (∀ i e, (call i).appends = true → c.programs i = .done (.error e) →
      c.world.changed i = true → ∃ e', (i, ⟨.commit, .error e'⟩) ∈ c.world.world.log) := by
  have hcounters : Covered (ledgerRely components.store ι) (fun _ _ _ => True)
      (LedgerSystem.start components call index) := by
    refine ⟨LedgerInv.start index, fun i => ⟨fun h => h.world.server.changes i = [],
      stable_ledgerChanges (P := (· = [])), rfl, ?_⟩⟩
    exact outline_ledgerCall components (call i) (horder i)
  have hcovered := hcounters.steps hsteps
  refine ⟨(LedgerInv.exact hcovered.inv), ?_, ?_⟩
  · intro i c' hstep
    exact LedgerGuar.later (hcovered.step hstep).2
  · intro i e happends hdone hchanged
    have hraising : Covered (commitRely ι)
        (fun i r h => (call i).appends = true → RaisedUnchanged i r h)
        (LedgerSystem.start components call index) := by
      refine ⟨trivial, fun i => ?_⟩
      by_cases happends : (call i).appends = true
      · refine ⟨_, stable_unchanged, rfl, ?_⟩
        exact (outline_raisingCall (call i) happends).post (fun _ _ _ hraised _ => hraised)
      · refine ⟨fun _ => True, stable_const True, trivial, ?_⟩
        refine Outline.post (outline_anyLedgerCalls _) ?_
        exact fun _ _ _ _ happends' => absurd happends' happends
    exact (hraising.steps hsteps).result hdone happends hchanged

/-! ## Two calls on one conversation -/

/-- An exchange, and a turn that was created before it. -/
def countedCalls : Bool → Call
  | false => .appendCompletedExchange (.ofNat 1) (.ofNat 10) ⟨"user", "Which pump?", 5⟩
      ⟨"assistant", "The pump of line 2.", 6⟩ none (.ofNat 101) (.ofNat 102) (.ofNat 103)
  | true => .append (.ofNat 1) ⟨"user", "Is it running?", 4⟩ (.ofNat 10) (.ofNat 104)

def countedComponents : Components := .wired .ascii id id

/-- The exchange, and the turn after it; the answer to the last commit may be lost. -/
def countedSchedule (committing : Delivery) : List (Bool × Delivery) :=
  List.replicate 6 (false, .arrives) ++ List.replicate 3 (true, .arrives) ++
    [(true, committing), (true, .arrives)]

def countedLedger (committing : Delivery) : Option (LedgerSystem Bool) :=
  runSchedule ledgerExec always (countedSchedule committing)
    (LedgerSystem.start countedComponents countedCalls .empty)

/-- The answer to a commit is lost: the call raises, and its turn is counted. -/
theorem append_raised_counted : ∃ c e,
    Steps ledgerExec always (LedgerSystem.start countedComponents countedCalls .empty) c ∧
    (countedCalls true).appends = true ∧ c.programs true = .done (.error e) ∧
    c.world.changed true = true ∧ turnCountOf (.ofNat 1) c.world.tables = 3 := by
  have hrun : (countedLedger (.late (PyError.valueError "connection lost"))).any (fun c =>
      (c.programs true).error?.isSome && c.world.changed true &&
      decide (turnCountOf (.ofNat 1) c.world.tables = 3)) = true := by
    decide
  obtain ⟨c, hc, hfacts⟩ := (Option.any_eq_true _ _).mp hrun
  obtain ⟨hboth, hcount⟩ := Bool.and_eq_true_iff.mp hfacts
  obtain ⟨hraised, hchanged⟩ := Bool.and_eq_true_iff.mp hboth
  obtain ⟨e, herror⟩ := Option.isSome_iff_exists.mp hraised
  exact ⟨c, e, steps_of_runSchedule hc, rfl, Prog.error?_eq_some.mp herror, hchanged,
    of_decide_eq_true hcount⟩

theorem counters_exact_counted : ∃ c : LedgerSystem Bool, countedLedger .arrives = some c ∧
    turnCountOf (.ofNat 1) c.world.tables = 3 ∧
    CountersExact countedComponents.store c.world ∧
    (∀ i c', Step ledgerExec always i c c' → ∀ row ∈ c.world.tables.conversations,
      ∀ row' ∈ c'.world.tables.conversations, row'.id = row.id → row.lastTurnAt ≤ row'.lastTurnAt) ∧
    (∀ i e, (countedCalls i).appends = true → c.programs i = .done (.error e) →
      c.world.changed i = true → ∃ e', (i, ⟨.commit, .error e'⟩) ∈ c.world.world.log) := by
  have hrun : (countedLedger .arrives).any (fun c =>
      decide (turnCountOf (.ofNat 1) c.world.tables = 3)) = true := by
    decide
  obtain ⟨c, hc, hcount⟩ := (Option.any_eq_true _ _).mp hrun
  have horder : ∀ i, (countedCalls i).InOrder := by
    intro i
    cases i with
    | false => exact (by decide : (5 : Int) ≤ 6)
    | true => trivial
  exact ⟨c, hc, of_decide_eq_true hcount,
    counters_exact countedComponents countedCalls horder .empty (steps_of_runSchedule hc)⟩

end HotAirBalloon.Memory
