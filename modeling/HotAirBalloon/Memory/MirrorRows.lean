import HotAirBalloon.Memory.Erasure
import HotAirBalloon.Memory.Isolation
import HotAirBalloon.Memory.VectorSteps

/-!
# Vectors and their rows

The jobs that delete a record delete its vector first. `erase_user_memory` holds no lock in between,
so `sync_once` may store the vector again before the row goes. When no vector is stored again
between its deletion and that of its row, every vector has a row (`vectors_housed`).
-/

namespace HotAirBalloon.Memory

open Python Library

variable {ι : Type} [DecidableEq ι]

/-! ## What a run has deleted -/

/-- The keys that a run has deleted, and those that were stored since. -/
structure Deletions where
  deleted : List (String × String) := []
  restored : List (String × String) := []

/-- After one more call. -/
def Deletions.after (i : ι) (deletions : Deletions) (entry : ι × Event) : Deletions :=
  match entry.2 with
  | ⟨.deleteIds vectorNamespace vectorIds, .ok _⟩ =>
    if entry.1 = i then
      let keys := vectorIds.map (Prod.mk vectorNamespace)
      ⟨keys ++ deletions.deleted, deletions.restored.filter (· ∉ keys)⟩
    else deletions
  | ⟨.upsert vector, _⟩ => { deletions with restored := vector.key :: deletions.restored }
  | _ => deletions

def deletions (i : ι) (log : List (ι × Event)) : Deletions := log.foldl (Deletions.after i) {}

/-- A run deletes no row whose vector was stored since the run has deleted it. -/
def sparesRestored (i : ι) (op : Op) (w : World ι) : Bool :=
  match op with
  | .sql (.deleteMemories ids) => (w.visible i).memories.rows.all fun row =>
    !decide (row.id ∈ ids ∧ row.vectorKey ∈ (deletions i w.log).restored)
  | _ => true

/-! ## The invariant -/

/-- A key has a row that no session is about to delete. -/
def Housed (w : World ι) (key : String × String) : Prop :=
  ∃ row ∈ w.server.committed.memories, row.vectorKey = key ∧
    ∀ j, Change.memory (.erase row.id) ∉ w.server.changes j

structure MirrorInv (w : World ι) : Prop where
  server : ServerInv w
  housed : ∀ key, w.index.Holds key → Housed w key
  puts : ∀ i row, Change.memory (.put row) ∈ w.server.changes i →
    ∃ old ∈ w.server.committed.memories, old.id = row.id ∧ old.vectorKey = row.vectorKey
  gone : ∀ i, ∀ key ∈ (deletions i w.log).deleted, key ∉ (deletions i w.log).restored →
    ¬ w.index.Holds key

/-- What a step leaves: the locked rows of the others, the keys of rows, and what was deleted. -/
structure MirrorGuar (i : ι) (w w' : World ι) : Prop where
  session : SessionGuar i w w'
  rows : ∀ new ∈ w'.server.committed.memories,
    ∃ old ∈ w.server.committed.memories, old.id = new.id ∧ old.vectorKey = new.vectorKey
  deleted : ∀ j, ∀ key ∈ (deletions j w.log).deleted, key ∈ (deletions j w'.log).deleted

/-- What a call may rely on. -/
def MirrorReady (i : ι) (op : Op) (w : World ι) : Prop :=
  match op with
  | .sql (.insertMemory _) => False
  | .sql (.deleteMemories ids) => ∀ row ∈ (w.visible i).memories, row.id ∈ ids →
      ¬ w.index.Holds row.vectorKey
  | .upsert vector => Housed w vector.key
  | _ => True

/-! ## Steps -/

section

variable {i j : ι} {op : Op} {delivery : Delivery} {reply : Except PyError op.Reply}
  {w w' : World ι}

theorem deletions_append (log : List (ι × Event)) (entry : ι × Event) :
    deletions i (log ++ [entry]) = (deletions i log).after i entry := by
  unfold deletions
  rw [List.foldl_append]
  rfl

theorem deleted_after (j : ι) (hexec : exec i op delivery w = some (reply, w'))
    {key : String × String} (hkey : key ∈ (deletions j w.log).deleted) :
    key ∈ (deletions j w'.log).deleted := by
  rw [exec_log hexec, deletions_append]
  unfold Deletions.after
  split
  · split
    · exact List.mem_append_right _ hkey
    · exact hkey
  · exact hkey
  · exact hkey

namespace MirrorInv

/-- What a session sees has the key of the committed row of its id. -/
theorem visible (h : MirrorInv w) {row : AssistantMemoryRecord}
    (hrow : row ∈ (w.visible i).memories) :
    ∃ old ∈ w.server.committed.memories, old.id = row.id ∧ old.vectorKey = row.vectorKey := by
  rcases mem_visible_memories hrow with hput | hold
  · exact h.puts i row hput
  · exact ⟨row, hold, rfl, rfl⟩

theorem vectorKey_eq (h : MirrorInv w) {row old : AssistantMemoryRecord}
    (hrow : row ∈ (w.visible i).memories) (hold : old ∈ w.server.committed.memories)
    (hid : old.id = row.id) : old.vectorKey = row.vectorKey := by
  obtain ⟨other, hother, hid', hkey⟩ := h.visible hrow
  rw [Table.eq_of_key_eq hold hother (hid.trans hid'.symm)]
  exact hkey

/-- A session sees every row that it does not delete. -/
theorem exists_visible (h : MirrorInv w) {old : AssistantMemoryRecord}
    (hold : old ∈ w.server.committed.memories)
    (hkept : Change.memory (.erase old.id) ∉ w.server.changes i) :
    ∃ row ∈ (w.visible i).memories, row.id = old.id ∧ row.vectorKey = old.vectorKey := by
  have hnot : Edit.erase old.id ∉ (w.server.changes i).filterMap Change.memory? :=
    fun hmem => hkept ((mem_filterMap_memory? _).mp hmem)
  obtain ⟨row, hrow, hid⟩ := Table.exists_key_of_not_erased hnot ⟨old, hold, rfl⟩
  have hvisible : row ∈ (w.visible i).memories := by
    unfold World.visible Server.visible
    rw [memories_applyAll]
    exact hrow
  exact ⟨row, hvisible, hid, (h.vectorKey_eq hvisible hold hid.symm).symm⟩

/-- A row that a statement deletes has no vector. -/
theorem not_erased (h : MirrorInv w) {stmt : Sql} {changes : List Change}
    (hready : MirrorReady i (.sql stmt) w) (hexecuted : Executed i stmt w w' changes)
    {row : AssistantMemoryRecord} (hrow : row ∈ w.server.committed.memories)
    (hholds : w.index.Holds row.vectorKey) : Change.memory (.erase row.id) ∉ changes := by
  intro hmem
  obtain ⟨a, houtcome⟩ := hexecuted.outcome
  generalize herase : (Edit.erase row.id : Edit AssistantMemoryRecord.id) = edit at hmem
  cases memoryEdit houtcome hmem with
  | @erased seen ids hseen hlisted =>
    have hid : row.id = seen.id := Edit.erase.inj herase
    exact hready seen hseen hlisted (h.vectorKey_eq hseen hrow hid ▸ hholds)
  | _ => cases herase

/-- A key keeps its row, unless the row is deleted, which then has no vector. -/
theorem housed_after (h : MirrorInv w) (hready : MirrorReady i op w)
    (hexec : exec i op delivery w = some (reply, w')) {key : String × String}
    (hhoused : Housed w key)
    (hholds : ∀ stmt, op = .sql stmt → w.index.Holds key) : Housed w' key := by
  obtain ⟨row, hrow, rfl, hkept⟩ := hhoused
  rcases ServerInv.committed_cases hexec with hsame | ⟨rfl, hcommitted, -⟩
  · refine ⟨row, by rwa [hsame], rfl, fun j hmem => ?_⟩
    rcases ServerInv.change_cases hexec hmem with hold | ⟨rfl, stmt, changes, rfl, hexecuted, hnew⟩
    · exact hkept j hold
    · exact h.not_erased hready hexecuted hrow (hholds stmt rfl) hnew
  · obtain ⟨new, hnew, hid, hkey⟩ := h.exists_visible hrow (hkept i)
    refine ⟨new, by rwa [hcommitted], hkey, fun j hmem => ?_⟩
    rw [hid] at hmem
    rcases ServerInv.change_cases hexec hmem with hold | ⟨-, stmt, -, heq, -⟩
    · exact hkept j hold
    · cases heq

omit [DecidableEq ι] in
theorem pair_mem {vectorNamespace : String} {vectorIds : List String} {key : String × String}
    (hkey : key ∈ vectorIds.map (Prod.mk vectorNamespace)) :
    ¬ ∀ id ∈ vectorIds, key ≠ (vectorNamespace, id) := by
  obtain ⟨id, hid, rfl⟩ := List.mem_map.mp hkey
  exact fun hne => hne id hid rfl

/-- What was deleted and not stored since is not there. -/
theorem gone_after (h : MirrorInv w) (hexec : exec i op delivery w = some (reply, w'))
    {key : String × String} (hkey : key ∈ (deletions j w'.log).deleted)
    (hnot : key ∉ (deletions j w'.log).restored) : ¬ w'.index.Holds key := by
  intro hholds
  rw [exec_log hexec, deletions_append] at hkey hnot
  have hgone : key ∈ (deletions j w.log).deleted → key ∉ (deletions j w.log).restored →
      (∀ vector, op = .upsert vector → vector.key ≠ key) → False := by
    intro hdeleted hrestored hne
    apply h.gone j key hdeleted hrestored
    rcases index_cases hexec
      with hsame | ⟨vector, rfl, hput⟩ | ⟨vectorNamespace, vectorIds, -, hdelete⟩
    · rwa [hsame] at hholds
    · rw [hput] at hholds
      exact (VectorIndex.holds_put.mp hholds).resolve_left (hne vector rfl)
    · rw [hdelete] at hholds
      exact (VectorIndex.holds_deleteIds.mp hholds).1
  generalize hafter : (deletions j w.log).after j (i, ⟨op, reply⟩) = after at hkey hnot
  unfold Deletions.after at hafter
  split at hafter
  · rename_i vectorNamespace vectorIds _ heq
    cases heq
    rw [index_of_deleteIds hexec] at hholds
    split at hafter
    · subst hafter
      rw [List.mem_filter] at hnot
      by_cases hlisted : key ∈ vectorIds.map (Prod.mk vectorNamespace)
      · exact pair_mem hlisted (VectorIndex.holds_deleteIds.mp hholds).2
      · refine hgone ((List.mem_append.mp hkey).resolve_left hlisted) ?_ (fun _ heq => nomatch heq)
        exact fun hrestored => hnot ⟨hrestored, decide_eq_true hlisted⟩
    · subst hafter
      exact hgone hkey hnot (fun _ heq => nomatch heq)
  · rename_i vector _ heq
    cases heq
    subst hafter
    obtain ⟨hne, hrestored⟩ := not_or.mp (fun hmem => hnot (List.mem_cons.mpr hmem))
    refine hgone hkey hrestored (fun vector' heq => ?_)
    cases heq
    exact Ne.symm hne
  · rename_i hupsert
    subst hafter
    refine hgone hkey hnot (fun vector heq => ?_)
    subst heq
    exact absurd rfl (hupsert vector reply)

theorem of_exec (h : MirrorInv w) (hready : MirrorReady i op w)
    (hexec : exec i op delivery w = some (reply, w')) : MirrorInv w' := by
  refine ⟨h.server.of_exec hexec, ?_, ?_, fun j key => h.gone_after hexec⟩
  · intro key hholds
    rcases index_cases hexec with hsame | ⟨vector, rfl, hput⟩ | ⟨_, _, rfl, hdelete⟩
    · rw [hsame] at hholds
      exact h.housed_after hready hexec (h.housed key hholds) (fun _ _ => hholds)
    · refine h.housed_after hready hexec ?_ (fun _ heq => nomatch heq)
      rw [hput] at hholds
      rcases VectorIndex.holds_put.mp hholds with rfl | hold
      · exact hready
      · exact h.housed key hold
    · rw [hdelete] at hholds
      exact h.housed_after hready hexec (h.housed key (VectorIndex.holds_deleteIds.mp hholds).1)
        (fun _ heq => nomatch heq)
  · intro j row hput
    rcases ServerInv.change_cases hexec hput with hold | ⟨rfl, stmt, changes, rfl, hexecuted, hnew⟩
    · obtain ⟨old, hmem, hid, hkey⟩ := h.puts j row hold
      exact ⟨old, (h.server.memories_iff_of_pending hexec hold hput hid).mpr hmem, hid, hkey⟩
    · rw [hexecuted.committed]
      obtain ⟨a, houtcome⟩ := hexecuted.outcome
      rcases (memoryEdit houtcome hnew).put_cases with rfl | ⟨seen, hseen, hid, hkey⟩
      · exact hready.elim
      · obtain ⟨old, hold, hid', hkey'⟩ := h.visible hseen
        exact ⟨old, hold, hid'.trans hid, hkey'.trans hkey⟩

theorem guar (h : MirrorInv w) (hexec : exec i op delivery w = some (reply, w')) :
    MirrorGuar i w w' where
  session := h.server.guar hexec
  rows new hnew := by
    rcases ServerInv.committed_cases hexec with hsame | ⟨-, hcommitted, -⟩
    · rw [hsame] at hnew
      exact ⟨new, hnew, rfl, rfl⟩
    · rw [hcommitted] at hnew
      exact h.visible hnew
  deleted j _ := deleted_after j hexec

end MirrorInv

end

/-! ## Outlines -/

def mirrorRely : Rely ι PyError Op Op.Reply Delivery (World ι) where
  exec := exec
  cond i op w := sparesRestored i op w = true
  inv := MirrorInv
  guar := MirrorGuar

section

open Prog VectorSyncWorker

variable {i j : ι} {w w' : World ι} {α : Type}

theorem mirrorTriple {P : World ι → Prop} {op : Op} {R : Except PyError op.Reply → World ι → Prop}
    (hready : ∀ w, MirrorInv w → P w → sparesRestored i op w = true → MirrorReady i op w)
    (hR : ∀ w delivery r w', MirrorInv w → P w → MirrorGuar i w w' →
      exec i op delivery w = some (r, w') → R r w') : Triple mirrorRely i P op R := by
  intro w delivery r w' hinv hP hcond hexec
  have hguar := hinv.guar hexec
  exact ⟨hinv.of_exec (hready w hinv hP hcond) hexec, hguar, hR w delivery r w' hinv hP hguar hexec⟩

/-- Operations that add and delete no record, and store no vector. -/
def LeavesRows : Op → Prop
  | .sql (.insertMemory _) | .sql (.deleteMemories _) | .upsert _ => False
  | _ => True

omit [DecidableEq ι] in
theorem mirrorReady_of_leavesRows {op : Op} (h : LeavesRows op) : MirrorReady i op w := by
  cases op with
  | sql stmt =>
    cases stmt with
    | insertMemory => exact h
    | deleteMemories => exact h.elim
    | _ => trivial
  | upsert => exact h.elim
  | _ => trivial

theorem outline_leavesRows {P : World ι → Prop} {p : Action α} (hp : p.Calls LeavesRows) :
    Outline mirrorRely i P p (fun _ _ => True) := by
  refine Outline.pre (Outline.of_calls (fun op hop => ?_) hp) (fun _ _ _ => trivial)
  exact mirrorTriple (fun _ _ _ _ => mirrorReady_of_leavesRows hop) (fun _ _ _ _ _ _ _ _ => trivial)

theorem outline_mirrorSession {P : World ι → Prop} {body : Action α}
    (h : Outline mirrorRely i P body (fun _ _ => True)) :
    Outline mirrorRely i P (inSession body) (fun _ _ => True) :=
  outline_closing h (fun _ => outline_leavesRows (calls_send trivial))

/-! ### Synchronisation -/

/-- A worker holds the records that it has selected, and has written nothing. -/
structure Holding (i : ι) (records : List AssistantMemoryRecord) (w : World ι) : Prop where
  clean : w.server.changes i = []
  held : ∀ record ∈ records,
    record ∈ w.server.committed.memories ∧ w.server.Writes i (.memory record.id)

theorem stable_holding (records : List AssistantMemoryRecord) :
    Stable mirrorRely i (Holding i records) := by
  intro w w' j hj _ _ hguar h
  refine ⟨(hguar.session.changes i (Ne.symm hj)).trans h.clean, fun record hrecord => ?_⟩
  obtain ⟨hmem, hwrites⟩ := h.held record hrecord
  exact ⟨(hguar.session.memories i (Ne.symm hj) record hwrites).mpr hmem,
    hguar.session.writes i (Ne.symm hj) _ hwrites⟩

/-- The row of a record that a worker holds is not about to be deleted. -/
theorem Holding.housed {records : List AssistantMemoryRecord} (h : Holding i records w)
    (hinv : MirrorInv w) {record : AssistantMemoryRecord} (hrecord : record ∈ records) :
    Housed w record.vectorKey := by
  obtain ⟨hmem, hwrites⟩ := h.held record hrecord
  refine ⟨record, hmem, rfl, fun j herase => ?_⟩
  have hj : w.server.Writes j (.memory record.id) := hinv.server.writes j _ herase
  obtain rfl := hinv.server.exclusive.eq_of_writes hwrites hj
  rw [h.clean] at herase
  cases herase

theorem outline_holdUnsynced (batchSize : Nat) :
    Outline mirrorRely i (fun w : World ι => w.server.changes i = [])
      (sql (.selectUnsyncedForUpdate batchSize)) (okOnly (Holding i)) := by
  refine Outline.perform (fun r => ?_) (mirrorTriple (fun _ _ _ _ => trivial) ?_)
  · cases r with
    | ok records => exact stable_holding records
    | error e => exact stable_const True
  · intro w delivery r w' _ hnil _ hexec
    cases r with
    | error e => trivial
    | ok records =>
      obtain ⟨changes, houtcome, hexecuted⟩ := executed_of_ok hexec
      obtain rfl := changes_writeEffect houtcome
      refine ⟨?_, fun record hrecord => ⟨?_, ?_⟩⟩
      · rw [hexecuted.changes_eq, Function.update_self, hnil]
        rfl
      · cases houtcome
        have hsorted := List.mem_of_mem_filter (List.mem_of_mem_take hrecord)
        have hmem := List.mem_of_mem_filter (List.mem_mergeSort.mp hsorted)
        rw [visible_of_nil hnil] at hmem
        rw [hexecuted.committed]
        exact hmem
      · cases houtcome
        exact hexecuted.writes (List.mem_map.mpr ⟨record, hrecord, rfl⟩) (by decide)

/-- The operations of a round of the loop, which leave the server as it is. -/
theorem outline_holding {records : List AssistantMemoryRecord} {op : Op}
    (hready : ∀ w, MirrorInv w → Holding i records w → MirrorReady i op w)
    (hserver : ∀ w : World ι, ∀ delivery r w', exec i op delivery w = some (r, w') →
      w'.server = w.server) :
    Outline mirrorRely i (Holding i records) (send op) (fun _ => Holding i records) := by
  refine Outline.perform (fun _ => stable_holding records)
    (mirrorTriple (fun w hinv h _ => hready w hinv h) ?_)
  intro w delivery r w' _ h _ hexec
  refine ⟨?_, ?_⟩ <;> rw [hserver w delivery r w' hexec]
  · exact h.clean
  · exact h.held

theorem outline_holdingRecord {records : List AssistantMemoryRecord}
    {record : AssistantMemoryRecord} (hrecord : record ∈ records) (syncedAt : DateTime) :
    Outline mirrorRely i (Holding i records) (syncRecord record syncedAt)
      (fun _ => Holding i records) := by
  have hembed : ∀ (w : World ι) delivery r w',
      exec i (.embed record.content) delivery w = some (r, w') → w'.server = w.server := by
    intro w delivery r w' hexec
    rcases server_cases hexec with hsame | ⟨_, _, heq, -⟩ | ⟨heq, -⟩ | ⟨heq, -⟩
    · exact hsame
    all_goals cases heq
  have hupsert : ∀ (w : World ι) delivery r w',
      exec i (.upsert (storedVector record)) delivery w = some (r, w') → w'.server = w.server := by
    intro w delivery r w' hexec
    rcases server_cases hexec with hsame | ⟨_, _, heq, -⟩ | ⟨heq, -⟩ | ⟨heq, -⟩
    · exact hsame
    all_goals cases heq
  refine Outline.bind (Q := fun _ => Holding i records) ?_ (fun result => ?_) (fun _ _ _ h => h)
  · refine Outline.attempt (Q := fun _ => Holding i records) ?_ (fun _ _ _ h => h)
    have hembedded : Outline mirrorRely i (Holding i records) (send (.embed record.content))
        (fun _ => Holding i records) := outline_holding (fun _ _ _ => trivial) hembed
    refine hembedded.bind (fun _ => ?_) (fun _ _ _ h => h)
    exact outline_holding (fun w hinv h => h.housed hinv hrecord) hupsert
  · cases result with
    | ok stored => exact Outline.pure (fun _ _ h => h)
    | error e =>
      dsimp only
      split
      · refine Outline.bind (Q := fun _ => Holding i records) (Outline.ofExcept (fun _ _ h => h)) ?_
          (fun _ _ _ h => h)
        exact fun _ => Outline.pure (fun _ _ h => h)
      · exact Outline.raise (fun _ _ h => h)

theorem outline_mirrorSync (worker : VectorSyncWorker) (clock : Uuid → DateTime) :
    Outline mirrorRely i (fun w : World ι => w.server.changes i = []) (worker.syncOnce clock)
      (fun _ _ => True) := by
  refine outline_mirrorSession ?_
  refine (outline_holdUnsynced worker.batchSize).bind (fun records => ?_) (fun _ _ _ _ => trivial)
  refine Outline.bind (Q := fun _ _ => True) ?_ (fun outcomes => outline_leavesRows ?_)
    (fun _ _ _ _ => trivial)
  · refine Outline.foldRest (fun rest _ => Holding i rest) (fun record rest outcomes => ?_)
      (fun _ _ _ _ => trivial)
    refine (outline_holdingRecord List.mem_cons_self (clock record.id)).bind (fun outcome => ?_)
      (fun _ _ _ _ => trivial)
    refine Outline.pure (fun w _ h => ⟨h.clean, fun other hother => ?_⟩)
    exact h.held other (List.mem_cons_of_mem record hother)
  · refine Calls.bind (Calls.forEach fun outcome _ => ?_) (fun _ => ?_)
    · cases outcome with
      | synced record syncedAt => exact calls_flushUpdate (calls_sql trivial)
      | failed record e => exact calls_flushUpdate (calls_sql trivial)
    · exact Calls.bind (calls_send trivial) (fun _ => Calls.pure _)

end

/-! ### The jobs that delete -/

section

open Prog

variable {i j : ι} {w w' : World ι} {α : Type} {rows : List AssistantMemoryRecord}
  {keys : List (String × String)}

/-- A run has read rows, and has deleted the vectors of some keys. -/
structure Unvectored (i : ι) (rows : List AssistantMemoryRecord) (keys : List (String × String))
    (w : World ι) : Prop where
  keyed : ∀ row ∈ rows, ∀ old ∈ w.server.committed.memories, old.id = row.id →
    old.vectorKey = row.vectorKey
  deleted : ∀ key ∈ keys, key ∈ (deletions i w.log).deleted

theorem Unvectored.of_guar (h : Unvectored i rows keys w) (hguar : MirrorGuar j w w') :
    Unvectored i rows keys w' where
  keyed row hrow new hnew hid := by
    obtain ⟨old, hold, hid', hkey⟩ := hguar.rows new hnew
    exact hkey.symm.trans (h.keyed row hrow old hold (hid'.trans hid))
  deleted key hkey := hguar.deleted i key (h.deleted key hkey)

theorem Unvectored.mono {matched : List AssistantMemoryRecord} (h : Unvectored i rows keys w)
    (hsubset : matched ⊆ rows) : Unvectored i matched keys w :=
  ⟨fun row hrow => h.keyed row (hsubset hrow), h.deleted⟩

theorem stable_unvectored : Stable mirrorRely i (Unvectored i rows keys) :=
  fun _ _ _ _ _ _ hguar h => h.of_guar hguar

theorem Unvectored.of_visible (hinv : MirrorInv w)
    (hvisible : ∀ row ∈ rows, row ∈ (w.visible i).memories) : Unvectored i rows [] w where
  keyed row hrow _ hold hid := hinv.vectorKey_eq (hvisible row hrow) hold hid
  deleted _ hkey := absurd hkey List.not_mem_nil

/-- The keys that some groups have under their namespaces. -/
def groupKeys (groups : List (String × List AssistantMemoryRecord)) : List (String × String) :=
  groups.flatMap fun group => (group.2.map (·.vectorId)).map (Prod.mk group.1)

omit [DecidableEq ι] in
theorem vectorKey_mem_groupKeys {row : AssistantMemoryRecord} (hrow : row ∈ rows) :
    row.vectorKey ∈ groupKeys (groupByNamespace rows) := by
  refine List.mem_flatMap.mpr ⟨_, mem_groupByNamespace hrow,
    List.mem_map.mpr ⟨row.vectorId, ?_, rfl⟩⟩
  exact List.mem_map_of_mem (List.mem_filter.mpr ⟨hrow, decide_eq_true rfl⟩)

/-- The vectors of one namespace. -/
theorem outline_deleteGroup (before : List (String × List AssistantMemoryRecord))
    (group : String × List AssistantMemoryRecord) :
    Outline mirrorRely i (Unvectored i rows (groupKeys before))
      (send (.deleteIds group.1 (group.2.map (·.vectorId))))
      (okOnly fun _ => Unvectored i rows (groupKeys (before ++ [group]))) := by
  refine Outline.perform (fun r => ?_) (mirrorTriple (fun _ _ _ _ => trivial) ?_)
  · cases r with
    | ok _ => exact stable_unvectored
    | error e => exact stable_const True
  · intro w delivery r w' _ h hguar hexec
    cases r with
    | error e => trivial
    | ok _ =>
      refine ⟨(h.of_guar hguar).keyed, fun key hkey => ?_⟩
      unfold groupKeys at hkey
      rw [List.flatMap_append, List.flatMap_singleton, List.mem_append] at hkey
      rcases hkey with hbefore | hnow
      · exact (h.of_guar hguar).deleted key hbefore
      · rw [exec_log hexec, deletions_append]
        show key ∈ (if i = i then _ else _ : Deletions).deleted
        rw [if_pos rfl]
        exact List.mem_append_left _ hnow

/-- The vectors of some rows are deleted, namespace by namespace. -/
theorem outline_deleteVectors : Outline mirrorRely i (Unvectored i rows []) (deleteVectors rows)
    (okOnly fun _ => Unvectored i rows (rows.map AssistantMemoryRecord.vectorKey)) := by
  refine Outline.foldEach (fun before _ => Unvectored i rows (groupKeys before)) []
    (fun before group deletedVectors => ?_) (fun _ w _ h => ⟨h.keyed, fun key hkey => ?_⟩)
  · refine (outline_deleteGroup before group).bind (fun _ => ?_) (fun _ _ _ _ => trivial)
    exact Outline.pure (fun _ _ h => h)
  · obtain ⟨row, hrow, rfl⟩ := List.mem_map.mp hkey
    exact h.deleted _ (vectorKey_mem_groupKeys hrow)

/-- The rows go after their vectors, which are still gone. -/
theorem outline_deleteRows {ids : List Uuid} (hids : ∀ id ∈ ids, id ∈ rows.map (·.id)) :
    Outline mirrorRely i (Unvectored i rows (rows.map AssistantMemoryRecord.vectorKey))
      (sql (.deleteMemories ids)) (fun _ _ => True) := by
  refine Outline.perform (fun _ => stable_const True)
    (mirrorTriple ?_ (fun _ _ _ _ _ _ _ _ => trivial))
  intro w hinv h hcond seen hseen hlisted
  obtain ⟨row, hrow, hid⟩ := List.mem_map.mp (hids seen.id hlisted)
  obtain ⟨old, hold, hid', hkey⟩ := hinv.visible hseen
  have hsame : seen.vectorKey = row.vectorKey :=
    hkey.symm.trans (h.keyed row hrow old hold (hid'.trans hid.symm))
  have hspared := List.all_eq_true.mp hcond seen hseen
  rw [Bool.not_eq_true', decide_eq_false_iff_not, not_and] at hspared
  refine hinv.gone i seen.vectorKey (h.deleted _ ?_) (hspared hlisted)
  rw [hsame]
  exact List.mem_map_of_mem hrow

/-- A query for rows. -/
theorem outline_readLive : Outline mirrorRely i (fun _ : World ι => True) (sql .selectLiveMemories)
    (okOnly fun rows => Unvectored i rows []) := by
  refine Outline.perform (fun r => ?_) (mirrorTriple (fun _ _ _ _ => trivial) ?_)
  · cases r with
    | ok rows => exact stable_unvectored
    | error e => exact stable_const True
  · intro w delivery r w' hinv _ hguar hexec
    cases r with
    | error e => trivial
    | ok rows =>
      obtain ⟨changes, houtcome⟩ := outcome_of_reply hexec
      cases houtcome
      refine Unvectored.of_guar (Unvectored.of_visible hinv fun row hrow => ?_) hguar
      exact List.mem_of_mem_filter hrow

theorem outline_readDeleted (batchSize : Nat) : Outline mirrorRely i (fun _ : World ι => True)
    (sql (.selectDeletedMemoriesForUpdate batchSize))
      (okOnly fun rows => Unvectored i rows []) := by
  refine Outline.perform (fun r => ?_) (mirrorTriple (fun _ _ _ _ => trivial) ?_)
  · cases r with
    | ok rows => exact stable_unvectored
    | error e => exact stable_const True
  · intro w delivery r w' hinv _ hguar hexec
    cases r with
    | error e => trivial
    | ok rows =>
      obtain ⟨changes, houtcome⟩ := outcome_of_reply hexec
      cases houtcome
      refine Unvectored.of_guar (Unvectored.of_visible hinv fun row hrow => ?_) hguar
      have hsorted := List.mem_of_mem_filter (List.mem_of_mem_take hrow)
      exact List.mem_of_mem_filter (List.mem_mergeSort.mp hsorted)

/-- The end of a session that has read rows. -/
theorem outline_readSession {body : Action α} {found : α → List AssistantMemoryRecord}
    (h : Outline mirrorRely i (fun _ : World ι => True) body
      (okOnly fun a => Unvectored i (found a) [])) :
    Outline mirrorRely i (fun _ : World ι => True) (inSession body)
      (okOnly fun a => Unvectored i (found a) []) := by
  refine outline_closing h (fun r => ?_)
  cases r with
  | error e => exact outline_leavesRows (calls_send trivial)
  | ok a =>
    refine Outline.perform (fun _ => stable_unvectored) (mirrorTriple (fun _ _ _ _ => trivial) ?_)
    exact fun _ _ _ _ _ h hguar _ => h.of_guar hguar

/-! ### Erasure and retention -/

theorem outline_eraseRows (eraser : UserMemoryEraser) (ownerUserId : Uuid) :
    Outline mirrorRely i (Unvectored i rows (rows.map AssistantMemoryRecord.vectorKey))
      (eraser.eraseRows ownerUserId (rows.map (·.id))) (fun _ _ => True) := by
  refine outline_mirrorSession (Outline.bind (Q := fun _ _ => True) ?_ (fun _ => ?_)
    (fun _ _ _ _ => trivial))
  · unfold ShortTermRetentionJob.unlessEmpty
    split
    · exact Outline.pure (fun _ _ _ => trivial)
    · refine (outline_deleteRows (fun _ hid => hid)).bind (fun _ => ?_) (fun _ _ _ _ => trivial)
      exact Outline.pure (fun _ _ _ => trivial)
  refine outline_leavesRows (Calls.bind (calls_sql trivial) (fun _ => ?_))
  refine Calls.bind (calls_unlessEmpty fun _ => calls_sql trivial) (fun _ => ?_)
  refine Calls.bind (calls_sql trivial) (fun _ => ?_)
  refine Calls.bind ?_ (fun _ => ?_)
  · unfold UserMemoryEraser.eraseCheckpoints
    split
    · exact Calls.forEach (fun _ _ => calls_send trivial)
    · exact Calls.pure ()
  refine Calls.bind (calls_unlessEmpty fun _ => calls_sql trivial) (fun _ => ?_)
  exact Calls.bind (calls_send trivial) (fun _ => Calls.pure _)

theorem outline_eraseUserMemory (eraser : UserMemoryEraser) (ownerUserId : Uuid) :
    Outline mirrorRely i (fun _ : World ι => True) (eraser.eraseUserMemory ownerUserId)
      (fun _ _ => True) := by
  have hread : Outline mirrorRely i (fun _ : World ι => True)
      (do
        let userTurnIds ← sql (.selectTurnIds ownerUserId)
        let memoryRows ← sql .selectLiveMemories
        return (userTurnIds, memoryRows) : Action (List Uuid × List AssistantMemoryRecord))
      (okOnly fun found => Unvectored i found.2 []) := by
    refine Outline.bind (outline_leavesRows (calls_sql trivial)) (fun userTurnIds => ?_)
      (fun _ _ _ _ => trivial)
    exact outline_readLive.bindOk (fun rows => Outline.pure (fun _ _ h => h))
  refine (outline_readSession hread).bind (fun found => ?_) (fun _ _ _ _ => trivial)
  have hmatched : UserMemoryEraser.matchedRows ownerUserId found.1 found.2 ⊆ found.2 :=
    fun row hrow => List.mem_of_mem_filter hrow
  refine Outline.bind (outline_deleteVectors.pre (fun _ _ h => h.mono hmatched)) (fun _ => ?_)
    (fun _ _ _ _ => trivial)
  refine (outline_eraseRows eraser ownerUserId).bind (fun _ => ?_) (fun _ _ _ _ => trivial)
  exact Outline.pure (fun _ _ _ => trivial)

theorem outline_deleteSoftDeleted (job : MemoryRetentionJob) :
    Outline mirrorRely i (fun _ : World ι => True) job.deleteSoftDeletedBatch
      (fun _ _ => True) := by
  refine (outline_readSession (outline_readDeleted job.batchSize)).bind (fun rows => ?_)
    (fun _ _ _ _ => trivial)
  split
  · exact Outline.pure (fun _ _ _ => trivial)
  refine outline_deleteVectors.bind (fun _ => ?_) (fun _ _ _ _ => trivial)
  refine Outline.bind (Q := fun _ _ => True) (outline_mirrorSession ?_)
    (fun _ => Outline.pure (fun _ _ _ => trivial)) (fun _ _ _ _ => trivial)
  refine (outline_deleteRows (fun _ hid => mem_deletableRowIds.mp hid)).bind (fun _ => ?_)
    (fun _ _ _ _ => trivial)
  exact outline_leavesRows (calls_send trivial)

theorem outline_purgeOnce (job : MemoryRetentionJob) (now : DateTime) :
    Outline mirrorRely i (fun _ : World ι => True) (job.purgeOnce now) (fun _ _ => True) := by
  refine Outline.bind (outline_leavesRows (calls_inSession trivial ?_)) (fun _ => ?_)
    (fun _ _ _ _ => trivial)
  · refine Calls.bind (calls_sql trivial) (fun expiredRows => ?_)
    split
    · exact Calls.pure _
    · refine Calls.bind (Calls.forEach fun _ _ =>
        calls_flushUpdate (calls_sql trivial)) (fun _ => ?_)
      exact Calls.bind (calls_send trivial) (fun _ => Calls.pure _)
  refine (outline_deleteSoftDeleted job).bind (fun deleted => ?_) (fun _ _ _ _ => trivial)
  refine outline_leavesRows (Calls.bind (calls_inSession trivial ?_) (fun _ => Calls.pure _))
  refine Calls.bind (calls_sql trivial) (fun candidates => ?_)
  refine Calls.bind (Calls.forEach fun _ _ => ?_) (fun _ => ?_)
  · exact Calls.bind (calls_sql trivial) (fun _ => Calls.pure ())
  · exact Calls.bind (calls_send trivial) (fun _ => Calls.pure _)

end

/-! ## Runs -/

/-- The calls on the index and its rows. -/
def Call.mirrors : Call → Bool
  | syncOnce _ | purgeOnce _ | eraseUserMemory _ => true
  | _ => false

theorem outline_mirrors {i : ι} (components : Components) {call : Call}
    (hcall : call.mirrors = true) :
    Outline mirrorRely i (fun w : World ι => w.server.changes i = []) (call.program components)
      (fun _ _ => True) := by
  have hreturn : ∀ {α : Type} {p : Action α} {f : α → CallResult},
      Outline mirrorRely i (fun w : World ι => w.server.changes i = []) p (fun _ _ => True) →
      Outline mirrorRely i (fun w : World ι => w.server.changes i = []) (p >>= fun a => pure (f a))
        (fun _ _ => True) :=
    fun h => h.bind (fun _ => Outline.pure (fun _ _ _ => trivial)) (fun _ _ _ _ => trivial)
  cases call with
  | syncOnce clock => exact hreturn (outline_mirrorSync components.syncWorker clock)
  | purgeOnce now =>
    exact hreturn ((outline_purgeOnce components.memoryRetention now).pre (fun _ _ _ => trivial))
  | eraseUserMemory u =>
    exact hreturn ((outline_eraseUserMemory components.eraser u).pre (fun _ _ _ => trivial))
  | _ => cases hcall

theorem MirrorInv.idle {tables : Tables} {index : VectorIndex}
    (hstart : ∀ vector ∈ index, ∃ row ∈ tables.memories, row.vectorKey = vector.key) :
    MirrorInv (World.idle tables index : World ι) where
  server := .idle _ _
  housed key hholds := by
    obtain ⟨vector, hmem, rfl⟩ := hholds
    obtain ⟨row, hrow, hkey⟩ := hstart vector hmem
    exact ⟨row, hrow, hkey, fun _ => List.not_mem_nil⟩
  puts _ _ h := absurd h List.not_mem_nil
  gone _ _ h := absurd h List.not_mem_nil

/-- Any number of calls that synchronise, purge and erase, from any state in which every vector has
a row. Where no run deletes a row whose vector was stored since the run has deleted it, every vector
has a row in every state. -/
theorem vectors_housed {ι : Type} [DecidableEq ι] (components : Components) (call : ι → Call)
    (hcalls : ∀ i, (call i).mirrors = true) {tables : Tables} {index : VectorIndex}
    (hstart : ∀ vector ∈ index, ∃ row ∈ tables.memories, row.vectorKey = vector.key)
    {c : System ι} (hsteps : Steps exec (fun i op w => sparesRestored i op w = true)
      (System.start components call (World.idle tables index)) c) :
    ∀ vector ∈ c.world.index, ∃ row ∈ c.world.server.committed.memories,
      row.vectorKey = vector.key := by
  have hcovered : Covered mirrorRely (fun _ _ _ => True)
      (System.start components call (World.idle tables index)) := by
    refine ⟨MirrorInv.idle hstart, fun i => ⟨fun w => w.server.changes i = [], ?_, rfl, ?_⟩⟩
    · exact fun _ _ j hj _ _ hguar hnil => (hguar.session.changes i (Ne.symm hj)).trans hnil
    · exact outline_mirrors components (hcalls i)
  have hinv : MirrorInv c.world := (hcovered.steps hsteps).inv
  intro vector hvector
  obtain ⟨row, hrow, hkey, -⟩ := hinv.housed vector.key ⟨vector, hvector, rfl⟩
  exact ⟨row, hrow, hkey⟩

/-! ### A vector that is stored again -/

/-- A user is erased while the user's record is synchronised. -/
def restoringCalls (ownerUserId : Uuid) : Bool → Call
  | false => .eraseUserMemory ownerUserId
  | true => .syncOnce (fun _ => 8)

def restoringStart (ownerUserId : Uuid) : System Bool :=
  System.start (.wired .ascii id id) (restoringCalls ownerUserId)
    (World.idle preferenceTables .empty)

theorem restoringCalls_mirrors (ownerUserId : Uuid) (i : Bool) :
    (restoringCalls ownerUserId i).mirrors = true := by
  cases i <;> rfl

/-- The synchronisation, and the erasure of another user after it. -/
theorem vectors_housed_preference : ∃ c : System Bool,
    runSchedule exec (fun i op w => sparesRestored i op w = true)
      (List.replicate 6 (true, .arrives) ++ List.replicate 7 (false, .arrives))
      (restoringStart (.ofNat 11)) = some c ∧
    ∃ vector ∈ c.world.index, ∃ row ∈ c.world.server.committed.memories,
      row.vectorKey = vector.key := by
  have hrun : (runSchedule exec (fun i op w => sparesRestored i op w = true)
      (List.replicate 6 (true, .arrives) ++ List.replicate 7 (false, .arrives))
      (restoringStart (.ofNat 11))).any (fun c => !c.world.index.rows.isEmpty) = true := by
    decide +kernel
  obtain ⟨c, hc, hvector⟩ := (Option.any_eq_true _ _).mp hrun
  rw [Bool.not_eq_true', List.isEmpty_eq_false_iff_exists_mem] at hvector
  obtain ⟨vector, hmem⟩ := hvector
  exact ⟨c, hc, vector, hmem, vectors_housed (.wired .ascii id id) (restoringCalls (.ofNat 11))
    (restoringCalls_mirrors (.ofNat 11)) (fun vector h => absurd h (Table.not_mem_empty vector))
    (steps_of_runSchedule hc) vector hmem⟩

/-- The record is synchronised after the erasure has deleted its vector and before it deletes the
row. -/
theorem vector_restored : ¬ ∀ (components : Components) (call : Bool → Call) (tables : Tables)
    (index : VectorIndex) (c : System Bool), (∀ i, (call i).mirrors = true) →
    (∀ vector ∈ index, ∃ row ∈ tables.memories, row.vectorKey = vector.key) →
    Steps exec always (System.start components call (World.idle tables index)) c →
    (∀ i, ∃ r, c.programs i = .done r) →
    ∀ vector ∈ c.world.index, ∃ row ∈ c.world.server.committed.memories,
      row.vectorKey = vector.key := by
  intro hclaim
  have hrun : (runSchedule exec always
      (List.replicate 4 (false, .arrives) ++ List.replicate 6 (true, .arrives) ++
        List.replicate 7 (false, .arrives)) (restoringStart (.ofNat 10))).any (fun c =>
      (c.programs false).isDone && (c.programs true).isDone && !c.world.index.rows.isEmpty &&
          c.world.server.committed.memories.rows.isEmpty) = true := by
    decide +kernel
  obtain ⟨c, hc, hfacts⟩ := (Option.any_eq_true _ _).mp hrun
  rw [Bool.and_eq_true, Bool.and_eq_true, Bool.and_eq_true, Bool.not_eq_true',
    List.isEmpty_eq_false_iff_exists_mem, List.isEmpty_iff] at hfacts
  obtain ⟨⟨⟨herased, hsynced⟩, vector, hmem⟩, hnone⟩ := hfacts
  have hdone : ∀ i, ∃ r, c.programs i = .done r := by
    intro i
    cases i with
    | false => exact Prog.exists_of_isDone herased
    | true => exact Prog.exists_of_isDone hsynced
  obtain ⟨row, hrow, -⟩ :=
    hclaim (.wired .ascii id id) (restoringCalls (.ofNat 10)) preferenceTables
    .empty c (restoringCalls_mirrors (.ofNat 10))
    (fun vector h =>
      absurd h (Table.not_mem_empty vector)) (steps_of_runSchedule hc) hdone vector hmem
  rw [Table.mem_def, hnone] at hrow
  cases hrow

end HotAirBalloon.Memory
