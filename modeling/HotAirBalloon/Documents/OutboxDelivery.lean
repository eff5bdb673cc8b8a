import HotAirBalloon.Documents.Outbox

/-!
# No event is lost in the outbox

Any number of publishers run any number of batches over one outbox, while publishing and committing
may fail. A row is published and acknowledged, or selectable, or has used up its retries and says
why (`RowSound`), because a batch commits only marks that its own calls justify; and a batch goes
through all its rows, whatever the publishing of one of them raises (`WholeBatch`).
-/

namespace HotAirBalloon.Outbox

open Python Library

variable {ι : Type}

/-! ## What is asked of a row -/

/-- The broker has acknowledged the message of a row. -/
def Acknowledged (log : List (ι × OutboxEvent)) (id : Int) (message : OutboxMessage) : Prop :=
  ∃ i row, (i, ⟨.publish row, .ok ()⟩) ∈ log ∧ row.id = id ∧ row.message = message

/-- `retry_count` has reached its bound, and the last error is recorded. -/
def OutboxRecord.isExhausted (maxRetries : Nat) (row : OutboxRecord) : Bool :=
  row.publishedAt.isNone && row.retryCount = maxRetries && row.lastError.isSome

structure RowSound (maxRetries : Nat) (log : List (ι × OutboxEvent)) (row : OutboxRecord) :
    Prop where
  acknowledged : row.publishedAt.isSome = true → Acknowledged log row.id row.message
  retries : row.retryCount ≤ maxRetries
  lastError : row.publishedAt = none → row.retryCount ≠ 0 → row.lastError.isSome = true

/-- What a mark rests on. -/
def Justified (contents : List (Int × OutboxMessage)) (maxRetries : Nat)
    (log : List (ι × OutboxEvent)) : Mark → Prop
  | .published id _ => ∃ message, (id, message) ∈ contents ∧ Acknowledged log id message
  | .failed _ retryCount _ => retryCount ≤ maxRetries

/-- The parts of the rows that no batch changes. -/
def contentsOf (rows : List OutboxRecord) : List (Int × OutboxMessage) :=
  rows.map (fun row => (row.id, row.message))

structure OutboxInv (contents : List (Int × OutboxMessage)) (maxRetries : Nat)
    (w : OutboxWorld ι) : Prop where
  contents : contentsOf w.outbox.rows = contents
  sound : ∀ row ∈ w.outbox.rows, RowSound maxRetries w.log row

section

variable {contents : List (Int × OutboxMessage)} {maxRetries : Nat}
  {log log' : List (ι × OutboxEvent)} {row : OutboxRecord} {mark : Mark} {marks : List Mark}

theorem Acknowledged.mono {id : Int} {message : OutboxMessage} (h : Acknowledged log id message)
    (hlog : log ⊆ log') : Acknowledged log' id message := by
  obtain ⟨i, row, hmem, hrest⟩ := h
  exact ⟨i, row, hlog hmem, hrest⟩

theorem RowSound.mono (h : RowSound maxRetries log row) (hlog : log ⊆ log') :
    RowSound maxRetries log' row :=
  ⟨fun hpublished => (h.acknowledged hpublished).mono hlog, h.retries, h.lastError⟩

theorem Justified.mono (h : Justified contents maxRetries log mark) (hlog : log ⊆ log') :
    Justified contents maxRetries log' mark := by
  cases mark with
  | published id publishedAt =>
    obtain ⟨message, hmem, hacknowledged⟩ := h
    exact ⟨message, hmem, hacknowledged.mono hlog⟩
  | failed id retryCount lastError => exact h

theorem onRow_message (mark : Mark) (row : OutboxRecord) :
    (mark.onRow row).message = row.message := by
  unfold Mark.onRow
  split
  · cases mark <;> rfl
  · rfl

theorem marked_message (marks : List Mark) (row : OutboxRecord) :
    (marked marks row).message = row.message := by
  induction marks generalizing row with
  | nil => rfl
  | cons mark rest ih => exact (ih (mark.onRow row)).trans (onRow_message mark row)

/-- A justified mark keeps a row sound. -/
theorem RowSound.onRow (h : RowSound maxRetries log row)
    (hkeys : (contents.map Prod.fst).Nodup) (hmem : (row.id, row.message) ∈ contents)
    (hmark : Justified contents maxRetries log mark) :
    RowSound maxRetries log (mark.onRow row) := by
  unfold Mark.onRow
  by_cases hid : row.id = mark.id
  · rw [if_pos hid]
    cases mark with
    | published id publishedAt =>
      obtain ⟨message, hcontent, hacknowledged⟩ := hmark
      have hpair : (row.id, row.message) = (id, message) :=
        List.inj_on_of_nodup_map hkeys hmem hcontent hid
      rw [Prod.mk.injEq] at hpair
      refine ⟨?_, h.retries, nofun⟩
      intro _
      change Acknowledged log row.id row.message
      rw [hpair.1, hpair.2]
      exact hacknowledged
    | failed id retryCount lastError => exact ⟨h.acknowledged, hmark, fun _ _ => rfl⟩
  · rw [if_neg hid]
    exact h

theorem RowSound.marked (h : RowSound maxRetries log row)
    (hkeys : (contents.map Prod.fst).Nodup) (hmem : (row.id, row.message) ∈ contents)
    (hmarks : ∀ mark ∈ marks, Justified contents maxRetries log mark) :
    RowSound maxRetries log (marked marks row) := by
  induction marks generalizing row with
  | nil => exact h
  | cons mark rest ih =>
    refine ih (h.onRow hkeys hmem (hmarks mark List.mem_cons_self)) ?_ ?_
    · rw [mark.onRow_id, onRow_message]
      exact hmem
    · exact fun mark' hmark' => hmarks mark' (List.mem_cons_of_mem mark hmark')

end

/-! ## What is asked of a batch -/

/-- The publishing of a row, and the error that it raised. -/
def publishEvent (attempt : OutboxRecord × Option PyError) : OutboxEvent :=
  ⟨.publish attempt.1, match attempt.2 with
    | none => .ok ()
    | some e => .error e⟩

/-- The mark of a row after its attempt. -/
def markOf (clock : Int → DateTime) (attempt : OutboxRecord × Option PyError) : Mark :=
  match attempt with
  | (row, none) => .published row.id (clock row.id)
  | (row, some e) =>
    .failed row.id (row.retryCount + 1) (String.ofList (e.message.toList.take 4000))

/-- The calls of a batch: every selected row is published or fails, and every one is marked. -/
inductive BatchBody (publisher : OutboxPublisher) (clock : Int → DateTime) :
    List OutboxEvent → Prop
  | empty : BatchBody publisher clock
      [⟨.selectForUpdate publisher.maxRetries publisher.batchSize, .ok []⟩]
  | batch (attempts : List (OutboxRecord × Option PyError)) (committed : Except PyError Unit) :
      attempts ≠ [] → BatchBody publisher clock
        ([⟨.selectForUpdate publisher.maxRetries publisher.batchSize,
            .ok (attempts.map Prod.fst)⟩] ++
          attempts.map publishEvent ++ [⟨.commit (attempts.map (markOf clock)), committed⟩])

/-- The calls of a batch, with the end of its session. -/
def WholeBatch (publisher : OutboxPublisher) (clock : Int → DateTime) (events : List OutboxEvent) :
    Prop :=
  ∃ body, BatchBody publisher clock body ∧ events = body ++ [⟨.close, .ok ()⟩]

/-- The calls of whole batches, one after another. -/
def WholeBatches (publisher : OutboxPublisher) (clocks : List (Int → DateTime))
    (events : List OutboxEvent) : Prop :=
  ∃ batches, List.Forall₂ (WholeBatch publisher) clocks batches ∧ events = batches.flatten

variable [DecidableEq ι]

/-- The calls of one publisher. -/
def OutboxWorld.eventsOf (w : OutboxWorld ι) (i : ι) : List OutboxEvent :=
  (w.log.filter (fun entry => entry.1 = i)).map Prod.snd

/-! ## One call -/

section

variable {i : ι} {op : OutboxOp} {answer : Answer} {r : Except PyError op.Reply}
  {w w' : OutboxWorld ι}

/-- What a call does: it is logged, and only a commit changes rows. -/
theorem exec_cases (h : exec i op answer w = some (r, w')) :
    w'.log = w.log ++ [(i, ⟨op, r⟩)] ∧
    (w'.outbox = w.outbox ∨ ∃ marks, op = .commit marks ∧
      w'.outbox = w.outbox.mapRows (marked marks) (marked_id marks)) ∧
    (r = .ok (w.carryOut i op).1 ∨ op.mayFail = true ∧ ∃ e,
      r = .error e ∧ e.isException = true) := by
  have houtbox : (w.carryOut i op).2.outbox = w.outbox ∨ ∃ marks, op = .commit marks ∧
      (w.carryOut i op).2.outbox = w.outbox.mapRows (marked marks) (marked_id marks) := by
    cases op with
    | commit marks => exact .inr ⟨marks, rfl, rfl⟩
    | _ => exact .inl rfl
  unfold exec at h
  cases hfail : op.mayFail with
  | false =>
    simp only [hfail, Bool.false_eq_true, if_false] at h
    cases h
    exact ⟨rfl, houtbox, .inl rfl⟩
  | true =>
    simp only [hfail, if_true] at h
    cases answer with
    | ok =>
      cases h
      exact ⟨rfl, houtbox, .inl rfl⟩
    | lost kind message =>
      cases h
      exact ⟨rfl, .inl rfl, .inr ⟨rfl, _, rfl, rfl⟩⟩
    | late kind message =>
      cases h
      exact ⟨rfl, houtbox, .inr ⟨rfl, _, rfl, rfl⟩⟩

theorem eventsOf_of_log (hlog : w'.log = w.log ++ [(i, ⟨op, r⟩)]) :
    w'.eventsOf i = w.eventsOf i ++ [⟨op, r⟩] := by
  unfold OutboxWorld.eventsOf
  rw [hlog, List.filter_append, List.map_append]
  simp

end

/-! ## A batch among others -/

section

variable (contents : List (Int × OutboxMessage)) (publisher : OutboxPublisher)

/-- Every publisher keeps the outbox sound and adds only its own calls to the log. -/
def outboxRely : Rely ι PyError OutboxOp OutboxOp.Reply Answer (OutboxWorld ι) where
  exec := exec
  cond := always
  inv := OutboxInv contents publisher.maxRetries
  guar i w w' := ∃ event, w'.log = w.log ++ [(i, event)]

/-- What publisher `i` knows of the log: its own calls, and the marks that it may commit. -/
structure Knows (i : ι) (events : List OutboxEvent) (marks : List Mark) (w : OutboxWorld ι) :
    Prop where
  events : w.eventsOf i = events
  justified : ∀ mark ∈ marks, Justified contents publisher.maxRetries w.log mark

variable {contents publisher} {i : ι} {events : List OutboxEvent} {marks : List Mark}

theorem knows_stable :
    Stable (outboxRely contents publisher) i (Knows contents publisher i events marks) := by
  rintro w w' j hj - - ⟨event, hlog⟩ hknows
  constructor
  · rw [← hknows.events]
    unfold OutboxWorld.eventsOf
    rw [hlog, List.filter_append, List.map_append]
    simp [hj]
  · intro mark hmark
    refine (hknows.justified mark hmark).mono ?_
    rw [hlog]
    exact List.subset_append_left _ _

/-- A call from a point where its marks, if it commits any, are justified. -/
theorem triple_of {P : OutboxWorld ι → Prop} {op : OutboxOp}
    {R : Except PyError op.Reply → OutboxWorld ι → Prop}
    (hkeys : (contents.map Prod.fst).Nodup)
    (hcommit : ∀ w, P w → ∀ marks, op = .commit marks →
      ∀ mark ∈ marks, Justified contents publisher.maxRetries w.log mark)
    (hR : ∀ w r w', OutboxInv contents publisher.maxRetries w → P w →
      w'.log = w.log ++ [(i, ⟨op, r⟩)] →
      (r = .ok (w.carryOut i op).1 ∨
        op.mayFail = true ∧ ∃ e, r = .error e ∧ e.isException = true) → R r w') :
    Triple (outboxRely contents publisher) i P op R := by
  intro w answer r w' hinv hP _ hexec
  obtain ⟨hlog, houtbox, hreply⟩ := exec_cases hexec
  refine ⟨?_, ⟨_, hlog⟩, hR w r w' hinv hP hlog hreply⟩
  have hsubset : w.log ⊆ w'.log := by
    rw [hlog]
    exact List.subset_append_left _ _
  rcases houtbox with hsame | ⟨marks, hop, hmarked⟩
  · constructor
    · rw [hsame]
      exact hinv.contents
    · intro row hrow
      rw [hsame] at hrow
      exact (hinv.sound row hrow).mono hsubset
  · constructor
    · rw [← hinv.contents, hmarked]
      change contentsOf (w.outbox.rows.map (marked marks)) = _
      unfold contentsOf
      rw [List.map_map]
      refine List.map_congr_left ?_
      intro row _
      simp only [Function.comp_apply, marked_id, marked_message]
    · intro row hrow
      rw [hmarked] at hrow
      obtain ⟨old, hold, rfl⟩ := (Table.mem_mapRows (marked_id marks)).mp hrow
      have hmem : (old.id, old.message) ∈ contents := by
        rw [← hinv.contents]
        exact List.mem_map_of_mem hold
      exact ((hinv.sound old hold).marked hkeys hmem (hcommit w hP marks hop)).mono hsubset

/-- The log after one more call of the publisher. -/
theorem Knows.call {w w' : OutboxWorld ι} (h : Knows contents publisher i events marks w)
    {op : OutboxOp} {r : Except PyError op.Reply} (hlog : w'.log = w.log ++ [(i, ⟨op, r⟩)]) :
    Knows contents publisher i (events ++ [⟨op, r⟩]) marks w' := by
  constructor
  · rw [eventsOf_of_log hlog, h.events]
  · intro mark hmark
    refine (h.justified mark hmark).mono ?_
    rw [hlog]
    exact List.subset_append_left _ _

variable {clock : Int → DateTime} {row : OutboxRecord}

/-- The handler of a failed publish stays within the range of floats. -/
theorem backoff_ok {retryCount : Nat} (h : retryCount < 1024) :
    OutboxPublisher.backoff retryCount = .ok () := by
  unfold OutboxPublisher.backoff Memory.VectorSyncWorker.backoff
  rw [if_neg (by omega)]

/-- After publishing a row: it may be marked as its attempt went. -/
structure Attempted (contents : List (Int × OutboxMessage)) (publisher : OutboxPublisher) (i : ι)
    (events : List OutboxEvent) (marks : List Mark) (clock : Int → DateTime) (row : OutboxRecord)
    (error : Option PyError) (result : Except PyError Unit) (w : OutboxWorld ι) : Prop where
  event : publishEvent (row, error) = ⟨.publish row, result⟩
  isException : ∀ e, error = some e → e.isException = true
  knows : Knows contents publisher i (events ++ [publishEvent (row, error)])
    (marks ++ [markOf clock (row, error)]) w

theorem publish_outline (hkeys : (contents.map Prod.fst).Nodup)
    (hcontent : (row.id, row.message) ∈ contents)
    (hretry : row.retryCount < publisher.maxRetries) :
    Outline (outboxRely contents publisher) i (Knows contents publisher i events marks)
      (Prog.perform (OutboxOp.publish row))
      (fun r w => ∃ error, Attempted contents publisher i events marks clock row error r w) := by
  refine Outline.perform ?_ (triple_of hkeys (fun _ _ _ hop => by cases hop) ?_)
  · rintro r w w' j hj hinv hinv' hguar ⟨error, hevent, hexception, hknows⟩
    exact ⟨error, hevent, hexception, knows_stable w w' j hj hinv hinv' hguar hknows⟩
  · intro w r w' _ hknows hlog hreply
    have hcalled := hknows.call hlog
    have hmarks : ∀ mark', Justified contents publisher.maxRetries w'.log mark' →
        ∀ mark ∈ marks ++ [mark'], Justified contents publisher.maxRetries w'.log mark := by
      intro mark' hmark' mark hmark
      rcases List.mem_append.mp hmark with hold | hnew
      · exact hcalled.justified mark hold
      · rw [List.mem_singleton.mp hnew]
        exact hmark'
    rcases hreply with rfl | ⟨-, e, rfl, hexception⟩
    · refine ⟨none, rfl, nofun, hcalled.events, hmarks _ ?_⟩
      refine ⟨row.message, hcontent, i, row, ?_, rfl, rfl⟩
      rw [hlog]
      exact List.mem_append_right _ List.mem_cons_self
    · refine ⟨some e, rfl, ?_, hcalled.events, hmarks _ hretry⟩
      rintro e' heq
      cases heq
      exact hexception

/-- The round of a row ends with its mark, whatever publishing raises. -/
theorem publishRow_outline (hkeys : (contents.map Prod.fst).Nodup)
    (hmax : publisher.maxRetries ≤ 1000) (hcontent : (row.id, row.message) ∈ contents)
    (hretry : row.retryCount < publisher.maxRetries) :
    Outline (outboxRely contents publisher) i (Knows contents publisher i events marks)
      (OutboxPublisher.publishRow row (clock row.id)) (fun r w => ∃ error,
        r = .ok (markOf clock (row, error)) ∧ Knows contents publisher i
          (events ++ [publishEvent (row, error)]) (marks ++ [markOf clock (row, error)]) w) := by
  have hattempt : Outline (outboxRely contents publisher) i
      (Knows contents publisher i events marks) (Prog.perform (OutboxOp.publish row)).attempt
      (fun r w => ∃ result, r = .ok result ∧
        ∃ error, Attempted contents publisher i events marks clock row error result w) :=
    (publish_outline hkeys hcontent hretry).attempt (fun r w _ hr => ⟨r, rfl, hr⟩)
  refine hattempt.bind ?_ ?_
  · intro result
    refine Outline.pre (P := fun w =>
      ∃ error, Attempted contents publisher i events marks clock row error result w) ?_ ?_
    · cases result with
      | ok _ =>
        refine Outline.pure ?_
        rintro w - ⟨error, hattempted⟩
        have hevent := hattempted.event
        cases error with
        | none => exact ⟨none, rfl, hattempted.knows⟩
        | some e => cases hevent
      | error e =>
        have hcaught : ∀ w, (outboxRely contents publisher).inv w →
            (∃ error, Attempted contents publisher i events marks clock row error (.error e) w) →
            e.isException = true := by
          rintro w - ⟨error, hattempted⟩
          have hevent := hattempted.event
          cases error with
          | none => cases hevent
          | some e' =>
            cases hevent
            exact hattempted.isException _ rfl
        refine Outline.assume hcaught ?_
        intro hexception
        dsimp only
        rw [if_pos hexception, backoff_ok (by omega)]
        refine Outline.pure ?_
        rintro w - ⟨error, hattempted⟩
        have hevent := hattempted.event
        cases error with
        | none => cases hevent
        | some e' =>
          cases hevent
          exact ⟨_, rfl, hattempted.knows⟩
    · rintro w - ⟨_, heq, hattempted⟩
      cases heq
      exact hattempted
  · rintro e w - ⟨_, heq, -⟩
    cases heq

/-- The loop goes through all rows. -/
theorem publishEach_outline (hkeys : (contents.map Prod.fst).Nodup)
    (hmax : publisher.maxRetries ≤ 1000) {rows : List OutboxRecord}
    (hrows : ∀ row ∈ rows, (row.id, row.message) ∈ contents ∧
      row.retryCount < publisher.maxRetries) :
    Outline (outboxRely contents publisher) i (Knows contents publisher i events marks)
      (Prog.foldEach rows marks fun marks row => do
        let mark ← OutboxPublisher.publishRow row (clock row.id)
        return marks ++ [mark])
      (fun r w => ∃ attempts : List (OutboxRecord × Option PyError), attempts.map Prod.fst = rows ∧
        r = .ok (marks ++ attempts.map (markOf clock)) ∧
        Knows contents publisher i (events ++ attempts.map publishEvent)
          (marks ++ attempts.map (markOf clock)) w) := by
  induction rows generalizing events marks with
  | nil =>
    refine Outline.pure ?_
    intro w _ hknows
    refine ⟨[], rfl, by rw [List.map_nil, List.append_nil], ?_⟩
    rw [List.map_nil, List.map_nil, List.append_nil, List.append_nil]
    exact hknows
  | cons row rest ih =>
    obtain ⟨hcontent, hretry⟩ := hrows row List.mem_cons_self
    have hround : Outline (outboxRely contents publisher) i
        (Knows contents publisher i events marks) (do
          let mark ← OutboxPublisher.publishRow row (clock row.id)
          return marks ++ [mark] : OutboxAction (List Mark))
        (fun r w => ∃ error, r = .ok (marks ++ [markOf clock (row, error)]) ∧
          Knows contents publisher i (events ++ [publishEvent (row, error)])
            (marks ++ [markOf clock (row, error)]) w) := by
      refine (publishRow_outline hkeys hmax hcontent hretry).bind ?_ ?_
      · intro mark
        refine Outline.pure ?_
        rintro w - ⟨error, heq, hknows⟩
        cases heq
        exact ⟨error, rfl, hknows⟩
      · rintro e w - ⟨_, heq, -⟩
        cases heq
    unfold Prog.foldEach
    refine hround.bind ?_ ?_
    · intro marks'
      refine Outline.of_exists (fun error => ?_)
      refine Outline.assume (fun w _ h => Except.ok.inj h.1) ?_
      rintro rfl
      refine ((ih (fun row' hrow' => hrows row' (List.mem_cons_of_mem row hrow'))).pre
        (fun w _ h => h.2)).post ?_
      rintro r w - ⟨attempts, rfl, rfl, hknows⟩
      refine ⟨(row, error) :: attempts, rfl, ?_, ?_⟩
      · rw [List.append_assoc]
        rfl
      · rw [List.append_assoc, List.append_assoc] at hknows
        exact hknows
    · rintro e w - ⟨_, heq, -⟩
      cases heq

/-- What the rows of a batch are known to be. -/
theorem selected_spec {w : OutboxWorld ι} (hinv : OutboxInv contents publisher.maxRetries w)
    {row : OutboxRecord} (hrow : row ∈ w.selected i publisher.maxRetries publisher.batchSize) :
    (row.id, row.message) ∈ contents ∧ row.retryCount < publisher.maxRetries := by
  have hsorted := List.mem_of_mem_filter (List.mem_of_mem_take hrow)
  rw [List.mem_insertionSort, List.mem_filter] at hsorted
  obtain ⟨hmem, hselectable⟩ := hsorted
  unfold OutboxRecord.isSelectable at hselectable
  rw [Bool.and_eq_true, decide_eq_true_eq] at hselectable
  refine ⟨?_, hselectable.2⟩
  rw [← hinv.contents]
  exact List.mem_map_of_mem hmem

/-- The selection of a batch. -/
theorem select_outline (hkeys : (contents.map Prod.fst).Nodup) :
    Outline (outboxRely contents publisher) i (Knows contents publisher i events [])
      (Prog.perform (OutboxOp.selectForUpdate publisher.maxRetries publisher.batchSize))
      (fun r w => ∃ rows, r = .ok rows ∧
        (∀ row ∈ rows, (row.id, row.message) ∈ contents ∧
          row.retryCount < publisher.maxRetries) ∧
        Knows contents publisher i (events ++
          [⟨.selectForUpdate publisher.maxRetries publisher.batchSize, .ok rows⟩]) [] w) := by
  refine Outline.perform ?_ (triple_of hkeys (fun _ _ _ heq => by cases heq) ?_)
  · rintro r w w' j hj hinv hinv' hguar ⟨rows, heq, hrows, hknows⟩
    exact ⟨rows, heq, hrows, knows_stable w w' j hj hinv hinv' hguar hknows⟩
  · intro w r w' hinv hknows hlog hreply
    rcases hreply with rfl | ⟨hfails, -⟩
    · exact ⟨_, rfl, fun row hrow => selected_spec hinv hrow, hknows.call hlog⟩
    · cases hfails

theorem commit_outline (hkeys : (contents.map Prod.fst).Nodup) :
    Outline (outboxRely contents publisher) i (Knows contents publisher i events marks)
      (Prog.perform (OutboxOp.commit marks)) (fun r w =>
        Knows contents publisher i (events ++ [⟨.commit marks, r⟩]) [] w) := by
  refine Outline.perform (fun r => knows_stable) (triple_of hkeys ?_ ?_)
  · intro w hknows marks' heq
    cases heq
    exact hknows.justified
  · intro w r w' _ hknows hlog _
    exact ⟨(hknows.call hlog).events, nofun⟩

theorem publishRows_outline (hkeys : (contents.map Prod.fst).Nodup)
    (hmax : publisher.maxRetries ≤ 1000) :
    Outline (outboxRely contents publisher) i (Knows contents publisher i events [])
      (publisher.publishRows clock) (fun _ w => ∃ body, BatchBody publisher clock body ∧
        Knows contents publisher i (events ++ body) [] w) := by
  refine (select_outline hkeys).bind ?_ ?_
  · intro rows
    refine Outline.of_exists (fun rows' => ?_)
    refine Outline.assume (fun w _ h => Except.ok.inj h.1) ?_
    rintro rfl
    refine Outline.assume (fun w _ h => h.2.1) ?_
    intro hrows
    by_cases hempty : rows.isEmpty = true
    · rw [if_pos hempty]
      refine Outline.pure ?_
      rintro w - ⟨-, -, hknows⟩
      rw [List.isEmpty_iff.mp hempty] at hknows
      exact ⟨_, .empty, hknows⟩
    · rw [if_neg hempty]
      refine ((publishEach_outline hkeys hmax hrows).pre (fun w _ h => h.2.2)).bind ?_ ?_
      · intro marks
        refine Outline.of_exists (fun attempts => ?_)
        refine Outline.assume (fun w _ h => h.1) ?_
        rintro rfl
        refine Outline.assume (fun w _ h => Except.ok.inj h.2.1) ?_
        rintro rfl
        have hne : attempts ≠ [] := by
          rintro rfl
          exact hempty rfl
        have hbody : ∀ committed w, Knows contents publisher i
            (events ++ [⟨.selectForUpdate publisher.maxRetries publisher.batchSize,
              .ok (attempts.map Prod.fst)⟩] ++ attempts.map publishEvent ++
              [⟨.commit ([] ++ attempts.map (markOf clock)), committed⟩]) [] w →
            ∃ body, BatchBody publisher clock body ∧
              Knows contents publisher i (events ++ body) [] w := by
          intro committed w hknows
          refine ⟨_, .batch attempts committed hne, ?_⟩
          rw [List.append_assoc, List.append_assoc] at hknows
          rw [List.append_assoc]
          exact hknows
        refine ((commit_outline hkeys).pre (fun w _ h => h.2.2)).bind ?_ ?_
        · intro a
          exact Outline.pure (fun w _ hknows => hbody _ w hknows)
        · intro e w _ hknows
          exact hbody _ w hknows
      · rintro e w - ⟨_, -, heq, -⟩
        cases heq
  · rintro e w - ⟨_, heq, -⟩
    cases heq

/-- The end of a session; closing it does not fail. -/
theorem close_outline (hkeys : (contents.map Prod.fst).Nodup) :
    Outline (outboxRely contents publisher) i (Knows contents publisher i events [])
      (Prog.perform OutboxOp.close).attempt (fun r w => (∃ closed, r = .ok closed) ∧
        Knows contents publisher i (events ++ [⟨.close, .ok ()⟩]) [] w) := by
  have hclose : Outline (outboxRely contents publisher) i
      (Knows contents publisher i events []) (Prog.perform OutboxOp.close)
      (fun _ w => Knows contents publisher i (events ++ [⟨.close, .ok ()⟩]) [] w) := by
    refine Outline.perform (fun r => knows_stable)
      (triple_of hkeys (fun _ _ _ heq => by cases heq) ?_)
    intro w r w' _ hknows hlog hreply
    rcases hreply with rfl | ⟨hfails, -⟩
    · exact hknows.call hlog
    · cases hfails
  exact hclose.attempt (fun r w _ hknows => ⟨⟨r, rfl⟩, hknows⟩)

/-- A batch ends with all its calls in the log. -/
theorem publishBatch_outline (hkeys : (contents.map Prod.fst).Nodup)
    (hmax : publisher.maxRetries ≤ 1000) :
    Outline (outboxRely contents publisher) i (Knows contents publisher i events [])
      (publisher.publishBatch clock) (fun _ w => ∃ batch, WholeBatch publisher clock batch ∧
        Knows contents publisher i (events ++ batch) [] w) := by
  have hrows : Outline (outboxRely contents publisher) i
      (Knows contents publisher i events []) (publisher.publishRows clock).attempt
      (fun r w => (∃ result, r = .ok result) ∧ ∃ body, BatchBody publisher clock body ∧
        Knows contents publisher i (events ++ body) [] w) :=
    (publishRows_outline hkeys hmax).attempt (fun r w _ h => ⟨⟨r, rfl⟩, h⟩)
  refine hrows.bind ?_ ?_
  · intro result
    refine Outline.pre (Outline.of_exists (fun body => ?_)) (fun w _ h => h.2)
    refine Outline.assume (fun w _ h => h.1) ?_
    intro hbody
    refine ((close_outline hkeys).pre (fun w _ h => h.2)).bind ?_ ?_
    · intro closed
      refine Outline.ofExcept ?_
      rintro w - ⟨-, hknows⟩
      rw [List.append_assoc] at hknows
      exact ⟨_, ⟨body, hbody, rfl⟩, hknows⟩
    · rintro e w - ⟨⟨_, heq⟩, -⟩
      cases heq
  · rintro e w - ⟨⟨_, heq⟩, -⟩
    cases heq

/-- Batches one after another. -/
theorem publishBatches_outline (hkeys : (contents.map Prod.fst).Nodup)
    (hmax : publisher.maxRetries ≤ 1000) (clocks : List (Int → DateTime)) :
    Outline (outboxRely contents publisher) i (Knows contents publisher i events [])
      (publisher.publishBatches clocks) (fun r w => r = .ok () ∧
        ∃ batches, WholeBatches publisher clocks batches ∧ w.eventsOf i = events ++ batches) := by
  induction clocks generalizing events with
  | nil =>
    refine Outline.pure ?_
    intro w _ hknows
    refine ⟨rfl, [], ⟨[], .nil, rfl⟩, ?_⟩
    rw [List.append_nil, hknows.events]
  | cons clock rest ih =>
    have hbatch : Outline (outboxRely contents publisher) i
        (Knows contents publisher i events []) (do
          let _ ← (publisher.publishBatch clock).attempt
          return () : OutboxAction Unit)
        (fun r w => r = .ok () ∧ ∃ batch, WholeBatch publisher clock batch ∧
          Knows contents publisher i (events ++ batch) [] w) := by
      have hattempt : Outline (outboxRely contents publisher) i
          (Knows contents publisher i events []) (publisher.publishBatch clock).attempt
          (fun r w => (∃ result, r = .ok result) ∧ ∃ batch, WholeBatch publisher clock batch ∧
            Knows contents publisher i (events ++ batch) [] w) :=
        (publishBatch_outline hkeys hmax).attempt (fun r w _ h => ⟨⟨r, rfl⟩, h⟩)
      refine hattempt.bind ?_ ?_
      · intro result
        exact Outline.pure (fun w _ h => ⟨rfl, h.2⟩)
      · rintro e w - ⟨⟨_, heq⟩, -⟩
        cases heq
    refine hbatch.bind ?_ ?_
    · intro _
      refine Outline.pre (Outline.of_exists (fun batch => ?_)) (fun w _ h => h.2)
      refine Outline.assume (fun w _ h => h.1) ?_
      intro hwhole
      refine (ih.pre (fun w _ h => h.2)).post ?_
      rintro r w - ⟨hr, _, ⟨batches, hforall, rfl⟩, hevents⟩
      refine ⟨hr, _, ⟨batch :: batches, .cons hwhole hforall, rfl⟩, ?_⟩
      rw [hevents, List.append_assoc]
      rfl
    · rintro e w - ⟨heq, -⟩
      cases heq

end

/-! ## Runs -/

/-- Any publishers over an outbox with new rows. -/
def startOf (publisher : OutboxPublisher) (outbox : Table OutboxRecord.id)
    (clocks : ι → List (Int → DateTime)) : Config ι PyError OutboxOp OutboxOp.Reply
      (OutboxWorld ι) Unit :=
  ⟨⟨outbox, [], []⟩, fun i => publisher.publishBatches (clocks i)⟩

theorem covered_startOf {publisher : OutboxPublisher} (hmax : publisher.maxRetries ≤ 1000)
    {outbox : Table OutboxRecord.id}
    (hnew : ∀ row ∈ outbox, ∃ id message createdAt, row = newRecord id message createdAt)
    (clocks : ι → List (Int → DateTime)) :
    Covered (outboxRely (contentsOf outbox.rows) publisher)
      (fun i r w => r = .ok () ∧ WholeBatches publisher (clocks i) (w.eventsOf i))
      (startOf publisher outbox clocks) := by
  have hkeys : ((contentsOf outbox.rows).map Prod.fst).Nodup := by
    unfold contentsOf
    rw [List.map_map]
    exact outbox.keys_nodup
  refine ⟨⟨rfl, ?_⟩, ?_⟩
  · intro row hrow
    obtain ⟨id, message, createdAt, rfl⟩ := hnew row hrow
    exact ⟨nofun, Nat.zero_le _, fun _ hne => absurd rfl hne⟩
  · intro i
    have hmarks : ∀ mark ∈ ([] : List Mark), Justified (contentsOf outbox.rows) publisher.maxRetries
        ([] : List (ι × OutboxEvent)) mark := fun mark hmark => absurd hmark List.not_mem_nil
    refine ⟨_, knows_stable, ⟨rfl, hmarks⟩,
      (publishBatches_outline hkeys hmax (clocks i)).post ?_⟩
    rintro r w - ⟨hr, batches, hwhole, hevents⟩
    refine ⟨hr, ?_⟩
    rw [hevents]
    exact hwhole

/-- In every state that any publishers reach, every row that was added is acknowledged, selectable
or exhausted, every publisher can go on, and one that has finished has gone through whole
batches. -/
theorem outboxKeepsEvents (publisher : OutboxPublisher) (outbox : Table OutboxRecord.id)
    (clocks : ι → List (Int → DateTime)) (hmin : 1 ≤ publisher.maxRetries)
    (hmax : publisher.maxRetries ≤ 1000)
    (hnew : ∀ row ∈ outbox, ∃ id message createdAt, row = newRecord id message createdAt)
    {c : Config ι PyError OutboxOp OutboxOp.Reply (OutboxWorld ι) Unit}
    (hsteps : Steps exec always (startOf publisher outbox clocks) c) :
    contentsOf c.world.outbox.rows = contentsOf outbox.rows ∧
    (∀ row ∈ c.world.outbox, row.retryCount ≤ publisher.maxRetries ∧
      (row.publishedAt.isSome = true ∧ Acknowledged c.world.log row.id row.message ∨
        row.isSelectable publisher.maxRetries = true ∨
        row.isExhausted publisher.maxRetries = true)) ∧
    ∀ i, (∃ c', Step exec always i c c') ∨
      c.programs i = .done (.ok ()) ∧ WholeBatches publisher (clocks i) (c.world.eventsOf i) := by
  have hcovered : Covered (outboxRely (contentsOf outbox.rows) publisher)
      (fun i r w => r = .ok () ∧ WholeBatches publisher (clocks i) (w.eventsOf i)) c :=
    (covered_startOf hmax hnew clocks).steps hsteps
  refine ⟨hcovered.inv.contents, ?_, ?_⟩
  · intro row hrow
    have hsound := hcovered.inv.sound row hrow
    refine ⟨hsound.retries, ?_⟩
    cases hpublished : row.publishedAt with
    | some publishedAt =>
      have hsome : row.publishedAt.isSome = true := by rw [hpublished]; rfl
      exact .inl ⟨rfl, hsound.acknowledged hsome⟩
    | none =>
      rcases Nat.lt_or_eq_of_le hsound.retries with hless | hequal
      · refine .inr (.inl ?_)
        simp [OutboxRecord.isSelectable, hpublished, hless]
      · have herror := hsound.lastError hpublished (by omega)
        refine .inr (.inr ?_)
        simp [OutboxRecord.isExhausted, hpublished, hequal, herror]
  · intro i
    cases hprogram : c.programs i with
    | done r =>
      obtain ⟨hr, hwhole⟩ := hcovered.result hprogram
      rw [hr]
      exact .inr ⟨rfl, hwhole⟩
    | call op next =>
      have hexec : ∃ r w, exec i op .ok c.world = some (r, w) := ⟨_, _, rfl⟩
      obtain ⟨r, w, hexec⟩ := hexec
      exact .inl ⟨_, .mk hprogram trivial hexec⟩

/-! ## One failed publish -/

def uploadedMessage : OutboxMessage :=
  ⟨"document.uploaded.v1", "00000000-0000-0000-0000-000000000001", [], []⟩

def oneRow : Table OutboxRecord.id := Table.empty.put (newRecord 1 uploadedMessage 0)

/-- A batch whose only publish fails. -/
def failedOnce : List (Unit × Answer) :=
  [((), .ok), ((), .lost "RuntimeError" "kafka delivery failed"), ((), .ok), ((), .ok)]

theorem outboxKeepsEvents_failedOnce :
    ∃ c, runSchedule exec always failedOnce (startOf ⟨10, 2⟩ oneRow fun () => [fun _ => 0]) =
        some c ∧ WholeBatches ⟨10, 2⟩ [fun _ => 0] (c.world.eventsOf ()) := by
  have hnew : ∀ row ∈ oneRow, ∃ id message createdAt, row = newRecord id message createdAt := by
    intro row hrow
    rcases Table.mem_put.mp hrow with rfl | ⟨hold, -⟩
    · exact ⟨_, _, _, rfl⟩
    · exact absurd hold (Table.not_mem_empty row)
  refine ⟨_, rfl, ?_⟩
  obtain ⟨-, -, hruns⟩ := outboxKeepsEvents ⟨10, 2⟩ oneRow (fun () => [fun _ => 0]) (by decide)
    (by decide) hnew (steps_of_runSchedule (rfl : runSchedule exec always failedOnce _ = some _))
  rcases hruns () with ⟨c', hstep⟩ | ⟨-, hwhole⟩
  · obtain @⟨op, next, choice, reply, world, hprogram, -, -⟩ := hstep
    cases hprogram
  · exact hwhole

end HotAirBalloon.Outbox
