import HotAirBalloon.Memory.ClosedCalls
import HotAirBalloon.Memory.Locking
import HotAirBalloon.Memory.StoreRelation

/-!
# The order of an exchange

The turns of a conversation are read in the order of their times, and of their ids where the times
are equal. The two turns of an exchange may have the same time, and their ids are random:
`dialogueOrder_iff` says, of any calls at once, when a reader gets the user's turn first.
-/

namespace HotAirBalloon.Memory

open Python Library

/-! ## Order in a list -/

/-- Where two members of a sorted list stand. -/
theorem pair_sublist_iff {α : Type} {r : α → α → Prop} (hasymm : ∀ a b, r a b → ¬r b a) {l : List α}
    (hl : l.Pairwise r) {a b : α} (ha : a ∈ l) (hb : b ∈ l) : [a, b].Sublist l ↔ r a b := by
  constructor
  · intro hsublist
    exact List.pairwise_pair.mp (hl.sublist hsublist)
  · intro hab
    induction l with
    | nil => cases ha
    | cons c rest ih =>
      obtain ⟨hfirst, hrest⟩ := List.pairwise_cons.mp hl
      rcases List.mem_cons.mp ha with rfl | ha'
      · rcases List.mem_cons.mp hb with rfl | hb'
        · exact absurd hab (hasymm b b hab)
        · exact (List.singleton_sublist.mpr hb').cons_cons a
      · rcases List.mem_cons.mp hb with rfl | hb'
        · exact absurd hab (hasymm b a (hfirst a ha'))
        · exact (ih hrest ha' hb').cons c

/-- Earlier, or at the same time with the smaller id. -/
def ConversationTurnRecord.Before (a b : ConversationTurnRecord) : Prop :=
  a.createdAt < b.createdAt ∨ (a.createdAt = b.createdAt ∧ a.id.int < b.id.int)

theorem before_asymm (a b : ConversationTurnRecord) (h : a.Before b) : ¬b.Before a := by
  unfold ConversationTurnRecord.Before at *
  rcases h with hlt | ⟨heq, hlt⟩
  · rintro (hlt' | ⟨heq', -⟩)
    · exact lt_asymm hlt hlt'
    · exact hlt.ne heq'.symm
  · rintro (hlt' | ⟨-, hlt'⟩)
    · exact hlt'.ne heq.symm
    · exact lt_asymm hlt hlt'

/-- The turns that are read are in this order, newest first. -/
theorem recentTurns_pairwise (conversationId ownerUserId : Uuid) (limit : Nat) (t : Tables) :
    (recentTurns conversationId ownerUserId limit t).reverse.Pairwise
      ConversationTurnRecord.Before := by
  rw [List.pairwise_reverse]
  refine List.Pairwise.sublist (List.take_sublist limit _) ?_
  have hsorted : ((turnsOf conversationId ownerUserId t).mergeSort fun a b =>
      notAfter (b.createdAt, b.id) (a.createdAt, a.id)).Pairwise
        (fun a b => notAfter (b.createdAt, b.id) (a.createdAt, a.id) = true) := by
    apply List.pairwise_mergeSort
    · exact fun a b c hab hbc => notAfter_trans hbc hab
    · exact fun a b => notAfter_total (b.createdAt, b.id) (a.createdAt, a.id)
  have hids : ((turnsOf conversationId ownerUserId t).mergeSort fun a b =>
      notAfter (b.createdAt, b.id) (a.createdAt, a.id)).Pairwise (fun a b => a.id ≠ b.id) := by
    have hnodup := t.turns.keys_nodup.sublist
      ((List.filter_sublist (p := fun row => row.conversationId = conversationId ∧
        row.ownerUserId = ownerUserId) (l := t.turns.rows)).map ConversationTurnRecord.id)
    have hperm := (List.mergeSort_perm (turnsOf conversationId ownerUserId t) fun a b =>
      notAfter (b.createdAt, b.id) (a.createdAt, a.id)).map ConversationTurnRecord.id
    exact List.pairwise_map.mp (hperm.nodup_iff.mpr hnodup)
  refine (hsorted.and hids).imp ?_
  rintro a b ⟨hafter, hne⟩
  rcases notAfter_iff.mp hafter with hlt | ⟨heq, hle⟩
  · exact Or.inl hlt
  · refine Or.inr ⟨heq, lt_of_le_of_ne hle ?_⟩
    intro hint
    apply hne
    cases ha : a.id
    cases hb : b.id
    simp_all

/-! ## What a reader gets -/

section

variable {ι : Type} [DecidableEq ι] {i : ι}

/-- The log only grows. -/
def logRely (ι : Type) [DecidableEq ι] : Rely ι PyError Op Op.Reply Delivery (World ι) where
  exec := exec
  cond := always
  inv _ := True
  guar _ w w' := w.log <+: w'.log

theorem logTriple {P : World ι → Prop} {op : Op} {R : Except PyError op.Reply → World ι → Prop}
    (hR : ∀ w delivery r w', P w → exec i op delivery w = some (r, w') → R r w') :
    Triple (logRely ι) i P op R := by
  intro w delivery r w' _ hP _ hexec
  refine ⟨trivial, ?_, hR w delivery r w' hP hexec⟩
  show w.log <+: w'.log
  rw [exec_log hexec]
  exact List.prefix_append _ _

theorem outline_anyCalls {α : Type} (P : World ι → Prop) (p : Action α) :
    Outline (logRely ι) i P p (fun _ _ => True) := by
  induction p generalizing P with
  | done r => exact fun _ _ _ => trivial
  | call op next ih =>
    exact ⟨fun _ _ => True, fun _ => stable_const True, logTriple fun _ _ _ _ _ _ => trivial,
      fun r => ih r _⟩

/-- The turns come from one selection, newest first; without one there are none. -/
def SelectedTurns (i : ι) (conversationId ownerUserId : Uuid) (limit : Nat)
    (records : List ConversationTurnRecord) (w : World ι) : Prop :=
  records = [] ∨
    ((i, ⟨.sql (.selectRecentTurns conversationId ownerUserId limit), .ok records⟩) ∈ w.log ∧
      ∃ t, records = recentTurns conversationId ownerUserId limit t)

omit [DecidableEq ι] in
theorem SelectedTurns.mono {conversationId ownerUserId : Uuid} {limit : Nat}
    {records : List ConversationTurnRecord} {w w' : World ι}
    (h : SelectedTurns i conversationId ownerUserId limit records w) (hlog : w.log <+: w'.log) :
    SelectedTurns i conversationId ownerUserId limit records w' :=
  h.imp_right (fun hselected => ⟨hlog.subset hselected.1, hselected.2⟩)

theorem outline_selectTurns (conversationId ownerUserId : Uuid) (limit : Nat) :
    Outline (logRely ι) i (fun _ => True)
      (sql (.selectRecentTurns conversationId ownerUserId limit))
      (okOnly (SelectedTurns i conversationId ownerUserId limit)) := by
  refine Outline.perform ?_ (logTriple ?_)
  · intro r
    cases r with
    | ok records => exact fun _ _ _ _ _ _ hguar h => h.mono hguar
    | error e => exact stable_const True
  · intro w delivery r w' _ hexec
    cases r with
    | error e => trivial
    | ok records =>
      obtain ⟨changes, houtcome, -⟩ := executed_of_ok hexec
      have hrecords : records = recentTurns conversationId ownerUserId limit (w.visible i) := by
        cases houtcome
        rfl
      refine Or.inr ⟨?_, w.visible i, hrecords⟩
      rw [exec_log hexec]
      exact List.mem_append_right _ List.mem_cons_self

theorem outline_readTurns (conversationId ownerUserId : Uuid) (limit : Int) :
    Outline (logRely ι) i (fun _ => True)
      (ConversationStore.readRecent conversationId ownerUserId limit)
      (okOnly fun turns w => ∃ records, turns = records.reverse.map ConversationStore.turnOf ∧
        SelectedTurns i conversationId ownerUserId limit.toNat records w) := by
  have hbody : Outline (logRely ι) i (fun _ => True) (do
        ConversationStore.requireOwner conversationId ownerUserId
        if limit ≤ 0 then return []
        else sql (.selectRecentTurns conversationId ownerUserId limit.toNat))
      (okOnly (SelectedTurns i conversationId ownerUserId limit.toNat)) := by
    refine (outline_anyCalls _ _).bind (fun _ => ?_) (fun _ _ _ _ => trivial)
    split
    · exact Outline.pure (fun _ _ _ => Or.inl rfl)
    · exact outline_selectTurns conversationId ownerUserId limit.toNat
  have hrollback : ∀ r : Except PyError (List ConversationTurnRecord), Outline (logRely ι) i
      (okOnly (SelectedTurns i conversationId ownerUserId limit.toNat) r) (send .rollback)
      (fun _ => okOnly (SelectedTurns i conversationId ownerUserId limit.toNat) r) := by
    intro r
    cases r with
    | error e => exact outline_anyCalls _ _
    | ok records =>
      refine Outline.perform (fun _ _ _ _ _ _ _ hguar h => h.mono hguar) (logTriple ?_)
      intro w delivery r w' hselected hexec
      apply hselected.mono
      rw [exec_log hexec]
      exact List.prefix_append _ _
  refine (outline_closing hbody hrollback).bindOk (fun records => Outline.pure ?_)
  exact fun w _ hselected => ⟨records, rfl, hselected⟩

/-- What a call that reads turns promises. -/
def ReadTurns (call : ι → Call) (i : ι) : Except PyError CallResult → World ι → Prop
  | .ok (.turns turns), w => ∀ conversationId ownerUserId limit,
    call i = .readRecent conversationId ownerUserId limit →
      ∃ records, turns = records.reverse.map ConversationStore.turnOf ∧
        SelectedTurns i conversationId ownerUserId limit.toNat records w
  | _, _ => True

theorem readTurns_covered (components : Components) (call : ι → Call) (tables : Tables)
    (index : VectorIndex) :
    Covered (logRely ι) (ReadTurns call)
      (System.start components call (World.idle tables index)) := by
  refine ⟨trivial, fun i => ⟨fun _ => True, stable_const True, trivial, ?_⟩⟩
  show Outline (logRely ι) i (fun _ => True) ((call i).program components) (ReadTurns call i)
  by_cases hreads : ∃ conversationId ownerUserId limit,
      call i = .readRecent conversationId ownerUserId limit
  · obtain ⟨conversationId, ownerUserId, limit, hcall⟩ := hreads
    rw [hcall]
    refine (outline_readTurns conversationId ownerUserId limit).bind (fun turns => ?_) ?_
    · refine Outline.pure ?_
      intro w _ hread conversationId' ownerUserId' limit' heq
      rw [hcall] at heq
      cases heq
      exact hread
    · exact fun _ _ _ _ => trivial
  · refine (outline_anyCalls _ _).post ?_
    intro r w _ _
    cases r with
    | error e => trivial
    | ok result =>
      cases result with
      | turns turns =>
        intro conversationId ownerUserId limit heq
        exact absurd ⟨conversationId, ownerUserId, limit, heq⟩ hreads
      | _ => trivial

end

/-! ## Exchanges -/

/-- The rows of an exchange that a call appends. -/
def Call.exchange? (store : ConversationStore) :
    Call → Option (ConversationTurnRecord × ConversationTurnRecord)
  | .appendCompletedExchange conversationId ownerUserId userTurn assistantTurn _ userTurnId
      assistantTurnId _ =>
    some (store.turnRecord userTurnId conversationId ownerUserId userTurn,
      store.turnRecord assistantTurnId conversationId ownerUserId assistantTurn)
  | _ => none

/-- Any calls run at once, from any tables. When a reader gets both turns of an exchange, it gets
the user's first exactly when that is the earlier one, or has the smaller id at the same time. -/
theorem dialogueOrder_iff {ι : Type} [DecidableEq ι] (components : Components) (call : ι → Call)
    (tables : Tables) (index : VectorIndex) {c : System ι}
    (hsteps : Steps exec always (System.start components call (World.idle tables index)) c)
    {i : ι} {conversationId ownerUserId : Uuid} {limit : Int} {turns : List ConversationTurn}
    (hread : call i = .readRecent conversationId ownerUserId limit)
    (hdone : c.programs i = .done (.ok (.turns turns))) :
    ∃ records, turns = records.map ConversationStore.turnOf ∧
      (records = [] ∨ (i, ⟨.sql (.selectRecentTurns conversationId ownerUserId limit.toNat),
        .ok records.reverse⟩) ∈ c.world.log) ∧
      ∀ j user assistant, (call j).exchange? components.store = some (user, assistant) →
        user ∈ records → assistant ∈ records →
          ([user, assistant].Sublist records ↔ user.Before assistant) := by
  have hcovered := (readTurns_covered components call tables index).steps hsteps
  obtain ⟨records, hturns, hselected⟩ :=
    hcovered.result hdone conversationId ownerUserId limit hread
  refine ⟨records.reverse, hturns, ?_, ?_⟩
  · rw [List.reverse_reverse, List.reverse_eq_nil_iff]
    exact hselected.imp_right (fun h => h.1)
  · intro j user assistant _ huser hassistant
    rcases hselected with rfl | ⟨-, t, rfl⟩
    · cases huser
    · exact pair_sublist_iff before_asymm (recentTurns_pairwise _ _ _ t) huser hassistant

/-! ## An exchange in one clock reading -/

/-- A reader that runs alone gets the newest turns, oldest first. -/
theorem readRecent_runs {t : Tables} {conversationId ownerUserId : Uuid} {limit : Int}
    (howned : (ownedConversation conversationId ownerUserId t).isSome = true) (hlimit : 0 < limit) :
    RunsAlone () t t (ConversationStore.readRecent conversationId ownerUserId limit)
      (.ok ((recentTurns conversationId ownerUserId limit.toNat t).reverse.map
        ConversationStore.turnOf)) t t := by
  obtain ⟨row, hrow⟩ := Option.isSome_iff_exists.mp howned
  have howner : RunsAlone () t t (ConversationStore.requireOwner conversationId ownerUserId)
      (.ok ()) t t := by
    have houtcome : ((Sql.selectOwnedConversation conversationId ownerUserId).alone t).outcome =
        .ok (some row.id, []) := by
      change Except.ok ((ownedConversation conversationId ownerUserId t).map (·.id), _) = _
      rw [hrow]
      rfl
    have hsql : RunsAlone () t t (sql (.selectOwnedConversation conversationId ownerUserId))
        (.ok (some row.id)) t t := RunsAlone.sql houtcome
    exact hsql.bind (RunsAlone.pure ())
  have hselect : RunsAlone () t t (sql (.selectRecentTurns conversationId ownerUserId limit.toNat))
      (.ok (recentTurns conversationId ownerUserId limit.toNat t)) t t := by
    have houtcome :
        ((Sql.selectRecentTurns conversationId ownerUserId limit.toNat).alone t).outcome =
        .ok (recentTurns conversationId ownerUserId limit.toNat t, []) := rfl
    exact RunsAlone.sql houtcome
  have hbody : RunsAlone () t t (do
        ConversationStore.requireOwner conversationId ownerUserId
        if limit ≤ 0 then return []
        else sql (.selectRecentTurns conversationId ownerUserId limit.toNat))
      (.ok (recentTurns conversationId ownerUserId limit.toNat t)) t t := by
    refine howner.bind ?_
    rw [if_neg (by omega)]
    exact hselect
  exact hbody.inSession.bind (RunsAlone.pure _)

/-- A question and its answer, with the time of the answer. -/
def pumpExchange (answeredAt : DateTime) : Call :=
  .appendCompletedExchange (.ofNat 1) (.ofNat 10) ⟨"user", "Which pump?", 5⟩
    ⟨"assistant", "The pump of line 2.", answeredAt⟩ none (.ofNat 101) (.ofNat 100) (.ofNat 102)

def pumpComponents : Components := .wired .ascii id id

/-- Question and answer have the same time, and the answer has the smaller id: it is read first. -/
theorem answer_first : ∃ w w',
    runAlone pumpComponents [pumpExchange 5] (World.idle .empty .empty) = some w ∧
    ((Call.readRecent (.ofNat 1) (.ofNat 10) 12).program pumpComponents).run exec () .arrives w =
      some (.ok (.turns [⟨"assistant", "The pump of line 2.", 5⟩, ⟨"user", "Which pump?", 5⟩]),
        w') := by
  have hrun : (runAlone pumpComponents [pumpExchange 5] (World.idle .empty .empty)).any (fun w =>
      (ownedConversation (.ofNat 1) (.ofNat 10) w.server.committed).isSome &&
      decide ((turnsOf (.ofNat 1) (.ofNat 10) w.server.committed).map
        (fun row => (row.id, ConversationStore.turnOf row)) =
          [(.ofNat 101, ⟨"user", "Which pump?", 5⟩),
            (.ofNat 100, ⟨"assistant", "The pump of line 2.", 5⟩)])) = true := by
    decide
  obtain ⟨w, hw, hfacts⟩ := (Option.any_eq_true _ _).mp hrun
  obtain ⟨howned, hturns⟩ := Bool.and_eq_true_iff.mp hfacts
  have hrows := of_decide_eq_true hturns
  obtain ⟨question, rest, hlist, hquestion, hrest⟩ := List.map_eq_cons_iff.mp hrows
  obtain ⟨answer, rest', rfl, hanswer, hnil⟩ := List.map_eq_cons_iff.mp hrest
  obtain rfl := List.map_eq_nil_iff.mp hnil
  obtain ⟨hquestionId, hquestionTurn⟩ := Prod.mk.inj hquestion
  obtain ⟨hanswerId, hanswerTurn⟩ := Prod.mk.inj hanswer
  have hquestionTime : question.createdAt = 5 :=
    congrArg ConversationTurn.createdAtUtc hquestionTurn
  have hanswerTime : answer.createdAt = 5 := congrArg ConversationTurn.createdAtUtc hanswerTurn
  have hread : (recentTurns (.ofNat 1) (.ofNat 10) 12 w.server.committed).reverse =
      [answer, question] := by
    unfold recentTurns
    rw [hlist, List.mergeSort_of_pairwise]
    · rfl
    · rw [List.pairwise_pair, hquestionTime, hanswerTime, hquestionId, hanswerId]
      decide
  have hstart : Idle (World.idle .empty .empty) := rfl
  have hidle : Idle w := idle_runAlone hstart hw
  obtain ⟨r, w', hreader, rfl, -⟩ :=
    readRecent_runs howned (by decide : (0 : Int) < 12) w.index w hidle.alone
  refine ⟨w, w', hw, ?_⟩
  show ((ConversationStore.readRecent (.ofNat 1) (.ofNat 10) 12 >>= fun turns =>
    pure (CallResult.turns turns) : Action CallResult).run exec () .arrives w) = _
  rw [Prog.run_bind, hreader]
  show some (Except.ok (CallResult.turns ((recentTurns (.ofNat 1) (.ofNat 10) 12
    w.server.committed).reverse.map ConversationStore.turnOf)), w') = _
  rw [hread, List.map_cons, List.map_cons, hanswerTurn, hquestionTurn]
  rfl

/-- The exchange and a reader after it, one call after the other. -/
def pumpCalls (answeredAt : DateTime) : Bool → Call
  | false => pumpExchange answeredAt
  | true => .readRecent (.ofNat 1) (.ofNat 10) 12

def pumpSchedule : List (Bool × Delivery) :=
  List.replicate 6 (false, .arrives) ++ List.replicate 3 (true, .arrives)

def pumpRun : Option (System Bool) :=
  runSchedule exec always pumpSchedule
    (System.start pumpComponents (pumpCalls 6) (World.idle .empty .empty))

theorem dialogueOrder_iff_pump : ∃ (c : System Bool) (turns : List ConversationTurn),
    c.programs true = .done (.ok (.turns turns)) ∧
    ∃ records, turns = records.map ConversationStore.turnOf ∧
      (records = [] ∨ (true, ⟨.sql (.selectRecentTurns (.ofNat 1) (.ofNat 10) 12),
        .ok records.reverse⟩) ∈ c.world.log) ∧
      ∀ j user assistant, (pumpCalls 6 j).exchange? pumpComponents.store = some (user, assistant) →
        user ∈ records → assistant ∈ records →
          ([user, assistant].Sublist records ↔ user.Before assistant) := by
  have hrun :
      pumpRun.any (fun c => ((c.programs true).result?.bind CallResult.turns?).isSome) = true := by
    decide
  obtain ⟨c, hc, hread⟩ := (Option.any_eq_true _ _).mp hrun
  obtain ⟨turns, hturns⟩ := Option.isSome_iff_exists.mp hread
  obtain ⟨result, hresult, hturns⟩ := Option.bind_eq_some_iff.mp hturns
  obtain rfl := CallResult.turns?_eq_some.mp hturns
  have hdone := Prog.result?_eq_some.mp hresult
  exact ⟨c, turns, hdone, dialogueOrder_iff pumpComponents (pumpCalls 6) .empty .empty
    (steps_of_runSchedule hc) rfl hdone⟩

end HotAirBalloon.Memory
