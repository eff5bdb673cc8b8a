import HotAirBalloon.Memory.Locking

/-!
# Deduplication of user facts

Any number of calls of `record_or_get_user_fact` at once. A call locks the row it finds and merges
its turn ids into it, or inserts a row; the entry of the partial unique index keeps every other
session from inserting the same fact until the call ends. A call that loses this race looks the
winner's row up again, and returns it without a merge: the turn ids it was given are kept exactly
when that row already has them.
-/

namespace HotAirBalloon.Memory

open Python Library

variable {ι : Type}

/-! ## What is kept -/

/-- The partial unique index on active user facts. -/
def UserFactsUnique (t : Tables) : Prop :=
  ∀ row ∈ t.memories, ∀ row' ∈ t.memories, ∀ ownerUserId kind contentSha256,
    isUserFact ownerUserId kind contentSha256 row = true →
    isUserFact ownerUserId kind contentSha256 row' = true → row = row'

/-- What a call hands over is in a row: the owner, the kind and the hash of its statement, and its
turn ids. -/
structure Holds (repository : MemoryRecordRepository) (memory : MemoryRecordWrite)
    (row : AssistantMemoryRecord) : Prop where
  live : isLive row = true
  owner : row.ownerUserId = memory.ownerUserId
  kind : row.kind = memory.kind
  hash : row.contentSha256 = repository.contentHash memory.content
  sources : memory.sourceTurnIds ⊆ row.sourceTurnIds

/-- Calls of `record_or_get_user_fact`. -/
structure FactCalls (ι : Type) where
  memory : ι → MemoryRecordWrite
  memoryId : ι → Uuid
  now : ι → DateTime

def FactCalls.start (components : Components) (calls : FactCalls ι) (tables : Tables)
    (index : VectorIndex) : System ι :=
  System.start components (fun i =>
    .recordOrGetUserFact (calls.memory i) (calls.memoryId i) (calls.now i))
    (World.idle tables index)

/-- Facts are unique, and the row that a call has returned holds what was handed over by every call
that has returned it. -/
structure LineageKept (components : Components) (calls : FactCalls ι) (c : System ι) : Prop where
  unique : UserFactsUnique c.world.server.committed
  named : ∀ i id created, c.programs i = .done (.ok (.fact id created)) →
    ∃ row ∈ c.world.server.committed.memories, row.id = id ∧
      Holds components.repository (calls.memory i) row ∧
      ∀ j created', c.programs j = .done (.ok (.fact id created')) →
        (calls.memory j).sourceTurnIds ⊆ row.sourceTurnIds

/-- The call has looked up its fact before. -/
def lookedUp [DecidableEq ι] (i : ι) (log : List (ι × Event)) : Bool :=
  log.any fun (j, event) => decide (j = i) && match event.op with
    | .sql (.selectUserFactForUpdate ..) => true
    | _ => false

/-- A call that looks up its fact again, because its insert has failed, finds a row that has its
turn ids. -/
def findsOwnTurns [DecidableEq ι] (calls : FactCalls ι) (i : ι) (op : Op) (w : World ι) : Prop :=
  match op with
  | .sql (.selectUserFactForUpdate ownerUserId kind contentSha256) => lookedUp i w.log = true →
    ∀ row ∈ w.server.committed.memories, isUserFact ownerUserId kind contentSha256 row = true →
      (calls.memory i).sourceTurnIds ⊆ row.sourceTurnIds
  | _ => True

/-! ## The invariant -/

/-- The row with more turn ids. -/
def Grown (row row' : AssistantMemoryRecord) : Prop :=
  ∃ sourceTurnIds, row' = { row with sourceTurnIds := sourceTurnIds } ∧
    row.sourceTurnIds ⊆ sourceTurnIds

/-- What a call has written and not committed: nothing, a new fact, or more turn ids. -/
inductive PendingFact (i : ι) (w : World ι) : List Change → Prop
  | nothing : PendingFact i w []
  | inserted {row : AssistantMemoryRecord} {ownerUserId : Uuid}
    (owner : row.ownerUserId = some ownerUserId)
      (locked : w.server.Writes i (.userFact ownerUserId row.kind row.contentSha256))
      (absent : ∀ other ∈ w.server.committed.memories, other.id ≠ row.id ∧
        isUserFact ownerUserId row.kind row.contentSha256 other = false) :
      PendingFact i w [.memory (.put row)]
  | merged {row row' : AssistantMemoryRecord} (mem : row ∈ w.server.committed.memories)
      (grown : Grown row row') : PendingFact i w [.memory (.put row')]

structure FactInv (w : World ι) : Prop where
  server : ServerInv w
  unique : UserFactsUnique w.server.committed
  pending : ∀ i, PendingFact i w (w.server.changes i)

/-- What a step may do: the rows of facts only grow. -/
structure FactGuar [DecidableEq ι] (i : ι) (w w' : World ι) : Prop extends SessionGuar i w w' where
  grown : ∀ row ∈ w.server.committed.memories, ∃ row' ∈ w'.server.committed.memories, Grown row row'

/-- What a call must see to before it sends a statement. -/
def FactAdmissible (i : ι) (op : Op) (w : World ι) : Prop :=
  match op with
  | .sql (.insertMemory row) => w.server.changes i = [] ∧ isLive row = true ∧ row.ownerUserId.isSome
  | .sql (.updateSourceTurnIds id sourceTurnIds) => w.server.changes i = [] ∧
      ∀ row ∈ w.server.committed.memories, row.id = id → row.sourceTurnIds ⊆ sourceTurnIds
  | .sql (.selectUserFactForUpdate ..) | .commit | .rollback => True
  | _ => False

theorem isUserFact_iff {ownerUserId : Uuid} {kind contentSha256 : String}
    {row : AssistantMemoryRecord} :
    isUserFact ownerUserId kind contentSha256 row = true ↔ row.ownerUserId = some ownerUserId ∧
      row.kind = kind ∧ row.contentSha256 = contentSha256 ∧ isLive row = true := by
  unfold isUserFact
  rw [decide_eq_true_eq]

namespace Grown

theorem refl (row : AssistantMemoryRecord) : Grown row row :=
  ⟨row.sourceTurnIds, rfl, List.Subset.refl _⟩

variable {row row' : AssistantMemoryRecord}

theorem id_eq (h : Grown row row') : row'.id = row.id := by
  obtain ⟨sourceTurnIds, rfl, -⟩ := h
  rfl

theorem isUserFact_eq (h : Grown row row') (ownerUserId : Uuid) (kind contentSha256 : String) :
    isUserFact ownerUserId kind contentSha256 row' =
      isUserFact ownerUserId kind contentSha256 row := by
  obtain ⟨sourceTurnIds, rfl, -⟩ := h
  rfl

theorem holds {repository : MemoryRecordRepository} {memory : MemoryRecordWrite}
    (h : Grown row row') (hholds : Holds repository memory row) : Holds repository memory row' := by
  obtain ⟨sourceTurnIds, rfl, hsubset⟩ := h
  exact ⟨hholds.live, hholds.owner, hholds.kind, hholds.hash,
    List.Subset.trans hholds.sources hsubset⟩

theorem trans {row'' : AssistantMemoryRecord} (h : Grown row row') (h' : Grown row' row'') :
    Grown row row'' := by
  obtain ⟨sourceTurnIds, rfl, hsubset⟩ := h
  obtain ⟨sourceTurnIds', rfl, hsubset'⟩ := h'
  exact ⟨sourceTurnIds', rfl, List.Subset.trans hsubset hsubset'⟩

end Grown

/-! ### Commits -/

section

variable {w w' : World ι} {i j : ι}

/-- What is committed after a fact was inserted or has grown. -/
theorem visible_memories {changes : List Change} (hchanges : w.server.changes i = changes)
    {row' : AssistantMemoryRecord} : row' ∈ (w.visible i).memories ↔
      row' ∈ w.server.committed.memories.applyEdits (changes.filterMap Change.memory?) := by
  unfold World.visible Server.visible
  rw [memories_applyAll, hchanges]

theorem PendingFact.mem_visible_put {row row' : AssistantMemoryRecord}
    (hchanges : w.server.changes i = [.memory (.put row)]) :
    row' ∈ (w.visible i).memories ↔
      row' = row ∨ (row' ∈ w.server.committed.memories ∧ row'.id ≠ row.id) := by
  rw [visible_memories hchanges]
  exact Table.mem_put

/-- A row that is visible is a new fact, or has grown from a committed row. -/
theorem FactInv.visible_cases (h : FactInv w) {row' : AssistantMemoryRecord}
    (hmem : row' ∈ (w.visible i).memories) :
    (∃ row ∈ w.server.committed.memories, Grown row row') ∨
    (w.server.changes i = [.memory (.put row')] ∧ ∃ ownerUserId,
      row'.ownerUserId = some ownerUserId ∧
      w.server.Writes i (.userFact ownerUserId row'.kind row'.contentSha256) ∧
      ∀ other ∈ w.server.committed.memories, other.id ≠ row'.id ∧
        isUserFact ownerUserId row'.kind row'.contentSha256 other = false) := by
  have hpending := h.pending i
  generalize hchanges : w.server.changes i = changes at hpending
  cases hpending with
  | nothing =>
    rw [visible_of_nil hchanges] at hmem
    exact .inl ⟨row', hmem, .refl row'⟩
  | inserted howner hlocked habsent =>
    rcases (PendingFact.mem_visible_put hchanges).mp hmem with rfl | ⟨hold, -⟩
    · exact .inr ⟨rfl, _, howner, hlocked, habsent⟩
    · exact .inl ⟨row', hold, .refl row'⟩
  | merged hrow hgrown =>
    rcases (PendingFact.mem_visible_put hchanges).mp hmem with rfl | ⟨hold, -⟩
    · exact .inl ⟨_, hrow, hgrown⟩
    · exact .inl ⟨row', hold, .refl row'⟩

/-- A committed row is still there, or has grown. -/
theorem FactInv.grown_visible (h : FactInv w) {row : AssistantMemoryRecord}
    (hmem : row ∈ w.server.committed.memories) :
    ∃ row' ∈ (w.visible i).memories, Grown row row' := by
  have hpending := h.pending i
  generalize hchanges : w.server.changes i = changes at hpending
  cases hpending with
  | nothing =>
    rw [visible_of_nil hchanges]
    exact ⟨row, hmem, .refl row⟩
  | inserted howner hlocked habsent =>
    refine ⟨row, ?_, .refl row⟩
    rw [PendingFact.mem_visible_put hchanges]
    exact .inr ⟨hmem, (habsent row hmem).1⟩
  | @merged old new hold hgrown =>
    by_cases hid : row.id = old.id
    · obtain rfl := Table.eq_of_key_eq hmem hold hid
      exact ⟨new, (PendingFact.mem_visible_put hchanges).mpr (.inl rfl), hgrown⟩
    · refine ⟨row, ?_, .refl row⟩
      rw [PendingFact.mem_visible_put hchanges, hgrown.id_eq]
      exact .inr ⟨hmem, hid⟩

/-- A commit keeps the facts unique: a new fact was absent, and a row that has grown is the same
fact. -/
theorem FactInv.unique_visible (h : FactInv w) : UserFactsUnique (w.visible i) := by
  intro row hrow row' hrow' ownerUserId kind contentSha256 hfact hfact'
  have hnew : ∀ {new old : AssistantMemoryRecord}, old ∈ w.server.committed.memories →
      isUserFact ownerUserId kind contentSha256 new = true →
      isUserFact ownerUserId kind contentSha256 old = true →
      ∀ owner, new.ownerUserId = some owner →
      (∀ other ∈ w.server.committed.memories, other.id ≠ new.id ∧
        isUserFact owner new.kind new.contentSha256 other = false) → False := by
    intro new old hold hfact hfact' owner howner habsent
    obtain ⟨howner', rfl, rfl, -⟩ := isUserFact_iff.mp hfact
    obtain rfl : owner = ownerUserId := Option.some.inj (howner.symm.trans howner')
    have hfalse := (habsent old hold).2
    rw [hfact'] at hfalse
    cases hfalse
  rcases h.visible_cases hrow with ⟨old, hold, hgrown⟩ | ⟨hput, owner, howner, -, habsent⟩ <;>
    rcases h.visible_cases hrow' with ⟨old', hold', hgrown'⟩ | ⟨hput', owner', howner', -, habsent'⟩
  · rw [hgrown.isUserFact_eq] at hfact
    rw [hgrown'.isUserFact_eq] at hfact'
    obtain rfl := h.unique old hold old' hold' _ _ _ hfact hfact'
    exact Table.eq_of_key_eq hrow hrow' (hgrown.id_eq.trans hgrown'.id_eq.symm)
  · rw [hgrown.isUserFact_eq] at hfact
    exact (hnew hold hfact' hfact owner' howner' habsent').elim
  · rw [hgrown'.isUserFact_eq] at hfact'
    exact (hnew hold' hfact hfact' owner howner habsent).elim
  · rw [hput] at hput'
    cases hput'
    rfl

/-- What a session has written stays pending while its locks and the committed rows do. -/
theorem PendingFact.of_committed {changes : List Change} (h : PendingFact i w changes)
    (hwrites : ∀ key, w.server.Writes i key → w'.server.Writes i key)
    (hcommitted : w'.server.committed = w.server.committed) : PendingFact i w' changes := by
  cases h with
  | nothing => exact .nothing
  | inserted howner hlocked habsent =>
    refine .inserted howner (hwrites _ hlocked) ?_
    rw [hcommitted]
    exact habsent
  | merged hrow hgrown =>
    refine .merged ?_ hgrown
    rw [hcommitted]
    exact hrow

/-- A commit of another session leaves what a session has written as it is: they do not lock one
row, and not one fact. -/
theorem FactInv.pending_of_visible (h : FactInv w) (hj : j ≠ i)
    (hwrites : ∀ key, w.server.Writes j key → w'.server.Writes j key)
    (hmemories : ∀ row, w.server.Writes j (.memory row.id) →
      (row ∈ w'.server.committed.memories ↔ row ∈ w.server.committed.memories))
    (hcommitted : w'.server.committed = w.visible i) :
    PendingFact j w' (w.server.changes j) := by
  have hpending := h.pending j
  generalize hchanges : w.server.changes j = changes at hpending
  have hlocked : ∀ change ∈ changes, w.server.Writes j change.lockKey := by
    rw [← hchanges]
    exact h.server.writes j
  cases hpending with
  | nothing => exact .nothing
  | @inserted row ownerUserId howner hfact habsent =>
    refine .inserted howner (hwrites _ hfact) ?_
    intro other hother
    rw [hcommitted] at hother
    rcases h.visible_cases hother with ⟨old, hold, hgrown⟩ | ⟨hput, owner, howner', hfact', -⟩
    · rw [hgrown.id_eq, hgrown.isUserFact_eq]
      exact habsent old hold
    · constructor
      · intro heq
        have hi : w.server.Writes i (Change.memory (.put other)).lockKey :=
          h.server.writes i _ (by rw [hput]; exact List.mem_singleton_self _)
        change w.server.Writes i (.memory other.id) at hi
        rw [heq] at hi
        exact hj (h.server.exclusive.eq_of_writes (hlocked _ (List.mem_singleton_self _)) hi)
      · by_contra hsame
        rw [Bool.not_eq_false, isUserFact_iff] at hsame
        obtain ⟨howner'', hkind, hhash, -⟩ := hsame
        obtain rfl : owner = ownerUserId := Option.some.inj (howner'.symm.trans howner'')
        rw [hkind, hhash] at hfact'
        exact hj (h.server.exclusive.eq_of_writes hfact hfact')
  | @merged row row' hrow hgrown =>
    refine .merged ((hmemories row ?_).mpr hrow) hgrown
    have hj' := hlocked _ (List.mem_singleton_self _)
    rw [← hgrown.id_eq]
    exact hj'

end

section

variable [DecidableEq ι] {i j : ι} {op : Op} {delivery : Delivery}
  {reply : Except PyError op.Reply} {w w' : World ι}

/-- The changes of a session whose statement has written a fact. -/
theorem PendingFact.of_executed (h : FactInv w) {stmt : Sql} {changes : List Change}
    (hadm : FactAdmissible i (.sql stmt) w) (hexecuted : Executed i stmt w w' changes) :
    PendingFact i w' (w'.server.changes i) := by
  have hchanges : w'.server.changes i = w.server.changes i ++ changes := by
    rw [hexecuted.changes_eq, Function.update_self]
  have hwrites : ∀ key, w.server.Writes i key → w'.server.Writes i key :=
    fun _ => hexecuted.keeps_writes
  have hold : PendingFact i w' (w.server.changes i) :=
    (h.pending i).of_committed hwrites hexecuted.committed
  obtain ⟨a, houtcome⟩ := hexecuted.outcome
  cases stmt with
  | insertMemory row =>
    obtain ⟨hnil, hlive, hsome⟩ := hadm
    obtain ⟨ownerUserId, howner⟩ := Option.isSome_iff_exists.mp hsome
    obtain ⟨rfl, hid, -, hduplicates⟩ := outcome_insertMemory houtcome
    rw [visible_of_nil hnil] at hid hduplicates
    rw [hchanges, hnil]
    have hlock : (LockKey.userFact ownerUserId row.kind row.contentSha256, LockMode.forUpdate) ∈
        (w.effect i (.insertMemory row)).locks := by
      refine List.mem_cons_of_mem _ (List.mem_cons_of_mem _ ?_)
      simp [userFactLock, howner, hlive]
    refine .inserted howner (hexecuted.writes hlock (by decide)) ?_
    · rw [hexecuted.committed]
      intro other hother
      refine ⟨hid other hother, ?_⟩
      by_contra hsame
      rw [Bool.not_eq_false] at hsame
      have hany : (w.server.committed.memories.rows.any
          (isUserFact ownerUserId row.kind row.contentSha256)) = true :=
        List.any_eq_true.mpr ⟨other, hother, hsame⟩
      simp [duplicatesUserFact, howner, hlive, hany] at hduplicates
  | updateSourceTurnIds id sourceTurnIds =>
    obtain ⟨hnil, hsources⟩ := hadm
    rcases changes_updateMemory houtcome with rfl | ⟨row, hrow, rfl, rfl, -⟩
    · rw [hchanges, List.append_nil]
      exact hold
    · rw [visible_of_nil hnil] at hrow
      rw [hchanges, hnil]
      have hgrown : Grown row { row with sourceTurnIds := sourceTurnIds } :=
        ⟨sourceTurnIds, rfl, hsources row hrow rfl⟩
      refine .merged ?_ hgrown
      rw [hexecuted.committed]
      exact hrow
  | selectUserFactForUpdate ownerUserId kind contentSha256 =>
    obtain rfl := changes_writeEffect houtcome
    rw [hchanges, List.append_nil]
    exact hold
  | _ => exact hadm.elim

/-- A step keeps the invariant, and facts only grow. -/
theorem FactInv.of_exec (h : FactInv w) (hadm : FactAdmissible i op w)
    (hexec : exec i op delivery w = some (reply, w')) : FactInv w' ∧ FactGuar i w w' := by
  have hserver' := h.server.of_exec hexec
  have hguar := h.server.guar hexec
  rcases ServerInv.committed_cases hexec with hcommitted | ⟨rfl, hcommitted, hnil⟩
  · refine ⟨⟨hserver', ?_, ?_⟩, hguar, ?_⟩
    · rw [hcommitted]
      exact h.unique
    · intro j
      by_cases hj : j = i
      · subst hj
        rcases server_cases hexec
          with hsame | ⟨stmt, changes, rfl, hexecuted⟩ | ⟨-, hsame⟩ | ⟨-, hsame⟩
        · rw [hsame]
          refine (h.pending j).of_committed ?_ hcommitted
          rw [hsame]
          exact fun _ hkey => hkey
        · exact PendingFact.of_executed h hadm hexecuted
        · rw [hsame]
          simp only [Server.commit, Function.update_self]
          exact .nothing
        · rw [hsame]
          simp only [Server.rollback, Function.update_self]
          exact .nothing
      · rw [hguar.changes j hj]
        exact (h.pending j).of_committed (hguar.writes j hj) hcommitted
    · rw [hcommitted]
      exact fun row hrow => ⟨row, hrow, .refl row⟩
  · refine ⟨⟨hserver', ?_, ?_⟩, hguar, ?_⟩
    · rw [hcommitted]
      exact h.unique_visible
    · intro j
      by_cases hj : j = i
      · subst hj
        rw [hnil]
        exact .nothing
      · rw [hguar.changes j hj]
        exact h.pending_of_visible hj (hguar.writes j hj) (hguar.memories j hj) hcommitted
    · rw [hcommitted]
      exact fun row hrow => h.grown_visible hrow

end

/-! ## The call -/

def factRely [DecidableEq ι] (calls : FactCalls ι) :
    Rely ι PyError Op Op.Reply Delivery (World ι) where
  exec := exec
  cond := findsOwnTurns calls
  inv := FactInv
  guar := FactGuar

/-- A session that has looked up its fact and written nothing. -/
structure LookedUp [DecidableEq ι] (i : ι) (w : World ι) : Prop where
  lookedUp : lookedUp i w.log = true
  clean : w.server.changes i = []

/-- A row that a session has locked, as it will be committed. -/
structure Sees (i : ι) (row : AssistantMemoryRecord) (w : World ι) : Prop where
  visible : row ∈ (w.visible i).memories
  locked : w.server.Writes i (.memory row.id)

/-- The row of an id holds what a call hands over. -/
def Named (repository : MemoryRecordRepository) (memory : MemoryRecordWrite) (id : Uuid)
    (w : World ι) : Prop :=
  ∃ row ∈ w.server.committed.memories, row.id = id ∧ Holds repository memory row

section

variable [DecidableEq ι] {calls : FactCalls ι} {i j : ι} {w w' : World ι}

theorem lookedUp_mono {log log' : List (ι × Event)} (hlog : log <+: log')
    (h : lookedUp i log = true) : lookedUp i log' = true := by
  obtain ⟨rest, rfl⟩ := hlog
  unfold lookedUp at h ⊢
  rw [List.any_append, h, Bool.true_or]

theorem Named.of_guar {repository : MemoryRecordRepository} {memory : MemoryRecordWrite} {id : Uuid}
    (h : Named repository memory id w) (hguar : FactGuar j w w') :
    Named repository memory id w' := by
  obtain ⟨row, hrow, rfl, hholds⟩ := h
  obtain ⟨row', hrow', hgrown⟩ := hguar.grown row hrow
  exact ⟨row', hrow', hgrown.id_eq, hgrown.holds hholds⟩

theorem Named.stable (repository : MemoryRecordRepository) (memory : MemoryRecordWrite)
    (id : Uuid) : Stable (factRely calls) i (Named repository memory id) :=
  fun _ _ _ _ _ _ hguar h => h.of_guar hguar

theorem LookedUp.stable : Stable (factRely calls) i (LookedUp i) := by
  intro w w' j hj _ _ hguar h
  refine ⟨lookedUp_mono hguar.log h.lookedUp, ?_⟩
  rw [hguar.changes i hj.symm]
  exact h.clean

theorem Sees.stable (row : AssistantMemoryRecord) : Stable (factRely calls) i (Sees i row) := by
  intro w w' j hj _ _ hguar h
  refine ⟨?_, hguar.writes i hj.symm _ h.locked⟩
  rw [hguar.visible_memories_iff hj.symm h.locked]
  exact h.visible

theorem stable_lookedUp : Stable (factRely calls) i (fun w => lookedUp i w.log = true) :=
  fun _ _ _ _ _ _ hguar h => lookedUp_mono hguar.log h

theorem factTriple {P : World ι → Prop} {op : Op} {R : Except PyError op.Reply → World ι → Prop}
    (hadm : ∀ w, P w → FactAdmissible i op w)
    (hR : ∀ w delivery r w', P w → findsOwnTurns calls i op w →
      exec i op delivery w = some (r, w') → R r w') :
    Triple (factRely calls) i P op R := by
  intro w delivery r w' hinv hP hcond hexec
  obtain ⟨hinv', hguar⟩ := hinv.of_exec (hadm w hP) hexec
  exact ⟨hinv', hguar, hR w delivery r w' hP hcond hexec⟩

theorem lookedUp_of_exec {ownerUserId : Uuid} {kind contentSha256 : String} {delivery : Delivery}
    {r : Except PyError (Option AssistantMemoryRecord)}
    (hexec : exec i (.sql (.selectUserFactForUpdate ownerUserId kind contentSha256)) delivery w =
      some (r, w')) : lookedUp i w'.log = true := by
  rw [exec_log hexec]
  simp [lookedUp]

/-- What a look-up returns is locked and committed, and is the fact that was asked for. -/
theorem sees_of_select {ownerUserId : Uuid} {kind contentSha256 : String} {delivery : Delivery}
    {found : Option AssistantMemoryRecord} (hclean : w.server.changes i = [])
    (hexec : exec i (.sql (.selectUserFactForUpdate ownerUserId kind contentSha256)) delivery w =
      some (.ok found, w')) :
    LookedUp i w' ∧ ∀ existing ∈ found, Sees i existing w' ∧
      isUserFact ownerUserId kind contentSha256 existing = true ∧
      existing ∈ w.server.committed.memories ∧ existing ∈ w'.server.committed.memories := by
  obtain ⟨changes, houtcome, hexecuted⟩ := executed_of_ok hexec
  obtain rfl := changes_writeEffect houtcome
  have hclean' : w'.server.changes i = [] := by
    rw [hexecuted.changes_eq, Function.update_self, hclean]
    rfl
  refine ⟨⟨lookedUp_of_exec hexec, hclean'⟩, ?_⟩
  intro existing hexisting
  have hhead :
      ((w.visible i).memories.rows.filter (isUserFact ownerUserId kind contentSha256)).head? =
      some existing := by
    have hfound : found = ((w.visible i).memories.rows.filter
        (isUserFact ownerUserId kind contentSha256)).head? := by
      cases houtcome
      rfl
    rw [← hfound]
    exact hexisting
  have hmem := List.mem_of_mem_head? hhead
  have hlock : (LockKey.memory existing.id, LockMode.forUpdate) ∈
      (w.effect i (.selectUserFactForUpdate ownerUserId kind contentSha256)).locks :=
    List.mem_map.mpr ⟨existing, hmem, rfl⟩
  obtain ⟨hrow, hfact⟩ := List.mem_filter.mp hmem
  rw [visible_of_nil hclean] at hrow
  have hcommitted : existing ∈ w'.server.committed.memories := by
    rw [hexecuted.committed]
    exact hrow
  refine ⟨⟨?_, hexecuted.writes hlock (by decide)⟩, hfact, hrow, hcommitted⟩
  rw [visible_of_nil hclean']
  exact hcommitted

/-- A commit makes a row that the session sees everybody's. -/
theorem named_of_commit {repository : MemoryRecordRepository} {memory : MemoryRecordWrite}
    {row : AssistantMemoryRecord} {delivery : Delivery} (h : Sees i row w)
    (hholds : Holds repository memory row) (hexec : exec i .commit delivery w = some (.ok (), w')) :
    Named repository memory row.id w' := by
  refine ⟨row, ?_, rfl, hholds⟩
  rw [server_of_commit_ok hexec]
  exact h.visible

/-! ### Its statements -/

section

variable {repository : MemoryRecordRepository} {memory : MemoryRecordWrite} {ownerUserId : Uuid}

/-- The look-up of a fact. -/
def selectFact (repository : MemoryRecordRepository) (memory : MemoryRecordWrite)
    (ownerUserId : Uuid) : Action (Option AssistantMemoryRecord) :=
  sql (.selectUserFactForUpdate ownerUserId memory.kind (repository.contentHash memory.content))

/-- What the first look-up leaves. -/
def Found (i : ι) (repository : MemoryRecordRepository) (memory : MemoryRecordWrite)
    (ownerUserId : Uuid) (found : Option AssistantMemoryRecord) (w : World ι) : Prop :=
  LookedUp i w ∧ ∀ existing ∈ found, Sees i existing w ∧
    isUserFact ownerUserId memory.kind (repository.contentHash memory.content) existing = true

theorem Found.stable (found : Option AssistantMemoryRecord) :
    Stable (factRely calls) i (Found i repository memory ownerUserId found) := by
  intro w w' j hj hinv hinv' hguar h
  refine ⟨LookedUp.stable w w' j hj hinv hinv' hguar h.1, ?_⟩
  intro existing hexisting
  obtain ⟨hsees, hfact⟩ := h.2 existing hexisting
  exact ⟨Sees.stable existing w w' j hj hinv hinv' hguar hsees, hfact⟩

theorem outline_firstLookup :
    Outline (factRely calls) i (fun w => w.server.changes i = [])
      (selectFact repository memory ownerUserId)
      (okOnly (Found i repository memory ownerUserId)) := by
  refine Outline.perform ?_ (factTriple (fun _ _ => trivial) ?_)
  · intro r
    cases r with
    | ok found => exact Found.stable found
    | error e => exact stable_const True
  · intro w delivery r w' hclean _ hexec
    cases r with
    | error e => trivial
    | ok found =>
      obtain ⟨hlooked, hfound⟩ := sees_of_select hclean hexec
      exact ⟨hlooked, fun existing hexisting =>
        ⟨(hfound existing hexisting).1, (hfound existing hexisting).2.1⟩⟩

/-- A fact that is found has what is asked for, as soon as it has the turn ids. -/
theorem holds_of_isUserFact {row : AssistantMemoryRecord}
    (howner : memory.ownerUserId = some ownerUserId)
    (hfact : isUserFact ownerUserId memory.kind (repository.contentHash memory.content) row = true)
    (hsources : memory.sourceTurnIds ⊆ row.sourceTurnIds) : Holds repository memory row := by
  obtain ⟨howner', hkind, hhash, hlive⟩ := isUserFact_iff.mp hfact
  exact ⟨hlive, howner'.trans howner.symm, hkind, hhash, hsources⟩

/-- The second look-up: the fact that it finds has the turn ids of the call already. -/
theorem outline_secondLookup (howner : (calls.memory i).ownerUserId = some ownerUserId) :
    Outline (factRely calls) i (LookedUp i) (selectFact repository (calls.memory i) ownerUserId)
      (okOnly fun found w => ∀ existing ∈ found,
        Named repository (calls.memory i) existing.id w) := by
  refine Outline.perform ?_ (factTriple (fun _ _ => trivial) ?_)
  · intro r
    cases r with
    | error e => exact stable_const True
    | ok found =>
      intro w w' j hj _ _ hguar h existing hexisting
      exact (h existing hexisting).of_guar hguar
  · intro w delivery r w' hlooked hcond hexec
    cases r with
    | error e => trivial
    | ok found =>
      intro existing hexisting
      obtain ⟨-, hfact, hbefore, hafter⟩ :=
        (sees_of_select hlooked.clean hexec).2 existing hexisting
      have hsources := hcond hlooked.lookedUp existing hbefore hfact
      exact ⟨existing, hafter, rfl, holds_of_isUserFact howner hfact hsources⟩

/-- The turn ids of the fact that was found and those of the call. -/
def mergedIds (existing : AssistantMemoryRecord) (memory : MemoryRecordWrite) : List Uuid :=
  (existing.sourceTurnIds ++ memory.sourceTurnIds).eraseDups

theorem outline_flush {existing : AssistantMemoryRecord} :
    Outline (factRely calls) i (fun w => w.server.changes i = [] ∧ Sees i existing w)
      (MemoryRecordRepository.flushSourceTurnIds existing (mergedIds existing memory))
      (okOnly fun _ => Sees i { existing with sourceTurnIds := mergedIds existing memory }) := by
  unfold MemoryRecordRepository.flushSourceTurnIds
  split
  · rename_i hsame
    refine Outline.pure ?_
    rintro w - ⟨-, hsees⟩
    change Sees i { existing with sourceTurnIds := mergedIds existing memory } w
    rw [← hsame]
    exact hsees
  have hupdate : Outline (factRely calls) i (fun w => w.server.changes i = [] ∧ Sees i existing w)
      (sql (.updateSourceTurnIds existing.id (mergedIds existing memory)))
      (okOnly fun _ => fun w =>
        Sees i { existing with sourceTurnIds := mergedIds existing memory } w) := by
    refine Outline.perform ?_ (factTriple ?_ ?_)
    · intro r
      cases r with
      | ok n => exact Sees.stable _
      | error e => exact stable_const True
    · rintro w ⟨hclean, hsees⟩
      refine ⟨hclean, ?_⟩
      intro row hrow hid
      have hexisting := hsees.visible
      rw [visible_of_nil hclean] at hexisting
      obtain rfl := Table.eq_of_key_eq hrow hexisting hid
      intro turnId hturn
      exact List.mem_eraseDups.mpr (List.mem_append_left _ hturn)
    · rintro w delivery r w' ⟨hclean, hsees⟩ - hexec
      cases r with
      | error e => trivial
      | ok n =>
        obtain ⟨changes, houtcome, hexecuted⟩ := executed_of_ok hexec
        have hfind := Table.find?_eq_some_iff.mpr ⟨hsees.visible, rfl⟩
        have hput : changes = [.memory (.put
            { existing with sourceTurnIds := mergedIds existing memory })] := by
          unfold World.effect Sql.effect updateMemory at houtcome
          dsimp only at houtcome
          rw [hfind] at houtcome
          exact changes_writeEffect houtcome
        have hchanges : w'.server.changes i = [.memory (.put
            { existing with sourceTurnIds := mergedIds existing memory })] := by
          rw [hexecuted.changes_eq, Function.update_self, hclean, hput]
          rfl
        refine ⟨(PendingFact.mem_visible_put hchanges).mpr (.inl rfl), ?_⟩
        exact hexecuted.keeps_writes hsees.locked
  refine hupdate.bindOk (fun n => ?_)
  split
  · exact Outline.pure (fun w _ h => h)
  · exact Outline.raise (fun _ _ _ => trivial)

theorem outline_insert {row : AssistantMemoryRecord} (hholds : Holds repository memory row)
    (howner : row.ownerUserId.isSome = true) :
    Outline (factRely calls) i (LookedUp i)
      (do
        let _ ← sql (.insertMemory row)
        send .commit)
      (fun r w => match r with
        | .ok _ => Named repository memory row.id w
        | .error _ => lookedUp i w.log = true) := by
  have hinsert : Outline (factRely calls) i (LookedUp i) (sql (.insertMemory row))
      (fun r w => match r with
        | .ok _ => Sees i row w ∧ lookedUp i w.log = true
        | .error _ => lookedUp i w.log = true) := by
    refine Outline.perform ?_ (factTriple (fun w h => ⟨h.clean, hholds.live, howner⟩) ?_)
    · intro r
      cases r with
      | ok n => exact (Sees.stable row).and stable_lookedUp
      | error e => exact stable_lookedUp
    · intro w delivery r w' hlooked _ hexec
      have hlog : lookedUp i w'.log = true := by
        refine lookedUp_mono ?_ hlooked.lookedUp
        rw [exec_log hexec]
        exact List.prefix_append _ _
      cases r with
      | error e => exact hlog
      | ok n =>
        obtain ⟨changes, houtcome, hexecuted⟩ := executed_of_ok hexec
        obtain ⟨hput, -⟩ := outcome_insertMemory houtcome
        have hchanges : w'.server.changes i = [.memory (.put row)] := by
          rw [hexecuted.changes_eq, Function.update_self, hlooked.clean, hput]
          rfl
        have hlock : (LockKey.memory row.id, LockMode.forUpdate) ∈
            (w.effect i (.insertMemory row)).locks := List.mem_cons_self
        refine ⟨⟨(PendingFact.mem_visible_put hchanges).mpr (.inl rfl), ?_⟩, hlog⟩
        exact hexecuted.writes hlock (by decide)
  refine hinsert.bind (fun n => ?_) (fun _ _ _ h => h)
  have hcommit : Outline (factRely calls) i (fun w => Sees i row w ∧ lookedUp i w.log = true)
      (send .commit)
      (fun r w => match r with
        | .ok _ => Named repository memory row.id w
        | .error _ => lookedUp i w.log = true) := by
    refine Outline.perform ?_ (factTriple (fun _ _ => trivial) ?_)
    · intro r
      cases r with
      | ok _ => exact Named.stable repository memory row.id
      | error e => exact stable_lookedUp
    · rintro w delivery r w' ⟨hsees, hlooked⟩ - hexec
      cases r with
      | ok _ => exact named_of_commit hsees hholds hexec
      | error e =>
        refine lookedUp_mono ?_ hlooked
        rw [exec_log hexec]
        exact List.prefix_append _ _
  exact hcommit

/-- The insert, and the second look-up when it has failed. -/
theorem outline_insertUserFact {row : AssistantMemoryRecord}
    (howner : (calls.memory i).ownerUserId = some ownerUserId)
    (hholds : Holds repository (calls.memory i) row) :
    Outline (factRely calls) i (LookedUp i)
      (MemoryRecordRepository.insertUserFact row
        (selectFact repository (calls.memory i) ownerUserId))
      (okOnly fun found => Named repository (calls.memory i) found.1) := by
  have hsome : row.ownerUserId.isSome = true := by
    rw [hholds.owner, howner]
    rfl
  refine (outline_insert hholds hsome).attemptOk.bindOk (fun committed => ?_)
  cases committed with
  | ok _ => exact Outline.pure (fun w _ h => h)
  | error e =>
    dsimp only
    split
    · have hrollback :
          Outline (factRely calls) i (fun w => lookedUp i w.log = true) (send .rollback)
          (okOnly fun _ => LookedUp i) := by
        refine Outline.perform ?_ (factTriple (fun _ _ => trivial) ?_)
        · intro r
          cases r with
          | ok _ => exact LookedUp.stable
          | error e => exact stable_const True
        · intro w delivery r w' hlooked _ hexec
          cases r with
          | error e => trivial
          | ok _ =>
            refine ⟨?_, ?_⟩
            · refine lookedUp_mono ?_ hlooked
              rw [exec_log hexec]
              exact List.prefix_append _ _
            · rw [server_of_rollback hexec]
              simp [Server.rollback]
      refine hrollback.bindOk (fun _ => ?_)
      refine (outline_secondLookup howner).bindOk (fun found => ?_)
      cases found with
      | none => exact Outline.raise (fun _ _ _ => trivial)
      | some existing => exact Outline.pure (fun w _ h => h existing rfl)
    · exact Outline.raise (fun _ _ _ => trivial)

/-- A new record holds what the call hands over. -/
theorem holds_newRecord {memoryId : Uuid} {now : DateTime} {row : AssistantMemoryRecord}
    (h : repository.newRecord memory memoryId now (strip memory.content)
      (repository.contentHash memory.content) = .ok row) : Holds repository memory row := by
  unfold MemoryRecordRepository.newRecord at h
  cases hnamespace : repository.namespaceFor memory.kind with
  | error e =>
    rw [hnamespace] at h
    cases h
  | ok vectorNamespace =>
    rw [hnamespace] at h
    cases h
    exact ⟨rfl, rfl, rfl, rfl, List.Subset.refl _⟩

theorem outline_recordOrGetUserFact (repository : MemoryRecordRepository) :
    Outline (factRely calls) i (fun w => w.server.changes i = [])
      (repository.recordOrGetUserFact (calls.memory i) (calls.memoryId i) (calls.now i))
      (okOnly fun found => Named repository (calls.memory i) found.1) := by
  unfold MemoryRecordRepository.recordOrGetUserFact
  split
  · exact Outline.raise (fun _ _ _ => trivial)
  rename_i ownerUserId howner
  split
  · exact Outline.raise (fun _ _ _ => trivial)
  have hrollback : ∀ r : Except PyError (Uuid × Bool), Outline (factRely calls) i
      (okOnly (fun found => Named repository (calls.memory i) found.1) r) (send .rollback)
      (fun _ => okOnly (fun found => Named repository (calls.memory i) found.1) r) := by
    intro r
    cases r with
    | error e =>
      refine Outline.perform (fun _ => stable_const True) (factTriple (fun _ _ => trivial) ?_)
      exact fun _ _ _ _ _ _ _ => trivial
    | ok found =>
      refine Outline.perform (fun _ => Named.stable repository (calls.memory i) found.1) ?_
      intro w delivery r w' hinv hnamed _ hexec
      have hadm : FactAdmissible i .rollback w := trivial
      obtain ⟨hinv', hguar⟩ := hinv.of_exec hadm hexec
      exact ⟨hinv', hguar, Named.of_guar hnamed hguar⟩
  refine outline_closing ?_ hrollback
  refine outline_firstLookup.bindOk (fun found => ?_)
  cases found with
  | none =>
    dsimp only
    cases hrow : repository.newRecord (calls.memory i) (calls.memoryId i) (calls.now i)
        (strip (calls.memory i).content) (repository.contentHash (calls.memory i).content) with
    | error e => exact fun _ _ _ => trivial
    | ok row => exact (outline_insertUserFact howner (holds_newRecord hrow)).pre (fun w _ h => h.1)
  | some existing =>
    refine Outline.assume (fun w _ h => (h.2 existing rfl).2) (fun hfact => ?_)
    have hholds : Holds repository (calls.memory i)
        { existing with sourceTurnIds := mergedIds existing (calls.memory i) } := by
      have hgrown : isUserFact ownerUserId (calls.memory i).kind
          (repository.contentHash (calls.memory i).content)
          { existing with sourceTurnIds := mergedIds existing (calls.memory i) } = true := hfact
      refine holds_of_isUserFact howner hgrown ?_
      intro turnId hturn
      exact List.mem_eraseDups.mpr (List.mem_append_right _ hturn)
    have hflush := (@outline_flush ι _ calls i (calls.memory i) existing).pre
      (fun w _ (h : Found i repository (calls.memory i) ownerUserId (some existing) w) =>
        ⟨h.1.clean, (h.2 existing rfl).1⟩)
    refine hflush.bindOk (fun _ => ?_)
    have hcommit : Outline (factRely calls) i
        (Sees i { existing with sourceTurnIds := mergedIds existing (calls.memory i) })
          (send .commit)
        (okOnly fun _ => Named repository (calls.memory i) existing.id) := by
      refine Outline.perform ?_ (factTriple (fun _ _ => trivial) ?_)
      · intro r
        cases r with
        | ok _ => exact Named.stable repository (calls.memory i) existing.id
        | error e => exact stable_const True
      · intro w delivery r w' hsees _ hexec
        cases r with
        | ok _ =>
          have hnamed := named_of_commit hsees hholds hexec
          exact hnamed
        | error e => trivial
    exact hcommit.bindOk (fun _ => Outline.pure (fun w _ h => h))

end

end

/-! ## Every interleaving -/

section

variable [DecidableEq ι]

/-- What a finished call promises. -/
def FactResult (repository : MemoryRecordRepository) (calls : FactCalls ι) (i : ι) :
    Except PyError CallResult → World ι → Prop
  | .ok (.fact id _) => Named repository (calls.memory i) id
  | _ => fun _ => True

omit [DecidableEq ι] in
theorem FactInv.idle {tables : Tables} (index : VectorIndex) (hunique : UserFactsUnique tables) :
    FactInv (World.idle tables index : World ι) where
  server := ServerInv.idle tables index
  unique := hunique
  pending _ := .nothing

theorem FactCalls.covered (components : Components) (calls : FactCalls ι) {tables : Tables}
    (index : VectorIndex) (hunique : UserFactsUnique tables) :
    Covered (factRely calls) (FactResult components.repository calls)
      (calls.start components tables index) := by
  refine ⟨FactInv.idle index hunique, ?_⟩
  intro i
  refine ⟨fun w => w.server.changes i = [], ?_, rfl, ?_⟩
  · intro w w' j hj _ _ hguar hclean
    rw [hguar.changes i hj.symm]
    exact hclean
  · refine (outline_recordOrGetUserFact components.repository).bind ?_ ?_
    · exact fun _ => Outline.pure (fun _ _ h => h)
    · exact fun _ _ _ _ => trivial

/-- In a run in which no second look-up finds a fact without the turn ids of its call, every call
that has returned names a fact with the turn ids of all calls that have returned it. -/
theorem lineageKept (components : Components) (calls : FactCalls ι) {tables : Tables}
    (index : VectorIndex) (hunique : UserFactsUnique tables) {c : System ι}
    (hsteps : Steps exec (findsOwnTurns calls) (calls.start components tables index) c) :
    LineageKept components calls c := by
  have hcovered := (calls.covered components index hunique).steps hsteps
  refine ⟨hcovered.inv.unique, ?_⟩
  intro i id created hdone
  obtain ⟨row, hrow, hid, hholds⟩ := hcovered.result hdone
  refine ⟨row, hrow, hid, hholds, ?_⟩
  intro j created' hdone'
  obtain ⟨row', hrow', hid', hholds'⟩ := hcovered.result hdone'
  obtain rfl := Table.eq_of_key_eq hrow hrow' (hid.trans hid'.symm)
  exact hholds'.sources

/-! ### Two calls for one fact -/

instance (calls : FactCalls ι) (i : ι) (op : Op) (w : World ι) :
    Decidable (findsOwnTurns calls i op w) := by
  unfold findsOwnTurns
  split
  · exact inferInstanceAs (Decidable (_ → ∀ row ∈ w.server.committed.memories.rows, _))
  · exact .isTrue trivial

end

/-- Two promotions of one statement, each with the turn that it was extracted from. -/
def racingCalls (turnId : Bool → Uuid) : FactCalls Bool where
  memory i := {
    kind := "conversation_summary"
    content := "The operator prefers metric units."
    ownerUserId := some (.ofNat 10)
    siteCode := none
    requiredPermissions := []
    sourceTurnIds := [turnId i] }
  memoryId i := if i then .ofNat 301 else .ofNat 300
  now _ := 7

/-- Both calls look up the fact before either inserts it; the second insert fails. -/
def racingSchedule : List (Bool × Delivery) :=
  [(false, .arrives), (true, .arrives), (false, .arrives), (false, .arrives), (false, .arrives),
    (true, .arrives), (true, .arrives), (true, .arrives), (true, .arrives)]

def racingStart (turnId : Bool → Uuid) : System Bool :=
  (racingCalls turnId).start (.wired .ascii id id) .empty .empty

def twoTurns (i : Bool) : Uuid := if i then .ofNat 101 else .ofNat 100

def twoTurnsRun : Option (System Bool) :=
  runSchedule exec always racingSchedule (racingStart twoTurns)

/-- The second call returns the record of the first, which does not have its turn. -/
theorem not_lineageKept : ∃ c, Steps exec always (racingStart twoTurns) c ∧
    ¬ LineageKept (.wired .ascii id id) (racingCalls twoTurns) c := by
  have hrun : twoTurnsRun.any (fun c =>
      decide ((c.programs true).result? = some (.fact (.ofNat 300) false)) &&
      c.world.server.committed.memories.rows.all (fun row =>
        decide (row.id = .ofNat 300 → row.sourceTurnIds = [.ofNat 100]))) := by
    decide
  obtain ⟨c, hsome, hfacts⟩ := (Option.any_eq_true _ _).mp hrun
  rw [Bool.and_eq_true] at hfacts
  obtain ⟨hreturned, hrows⟩ := hfacts
  refine ⟨c, steps_of_runSchedule hsome, ?_⟩
  intro hkept
  have hprogram := Prog.result?_eq_some.mp (of_decide_eq_true hreturned)
  obtain ⟨row, hrow, hid, hholds, -⟩ := hkept.named true _ _ hprogram
  have hturns := of_decide_eq_true (List.all_eq_true.mp hrows row hrow) hid
  have hmem : Uuid.ofNat 101 ∈ row.sourceTurnIds := hholds.sources (List.mem_singleton_self _)
  rw [hturns] at hmem
  revert hmem
  decide

def oneTurnRun : Option (System Bool) :=
  runSchedule exec (findsOwnTurns (racingCalls fun _ => .ofNat 100)) racingSchedule
    (racingStart fun _ => .ofNat 100)

theorem oneTurnRun_isSome : oneTurnRun.isSome := by decide

theorem lineageKept_oneTurn : LineageKept (.wired .ascii id id) (racingCalls fun _ => .ofNat 100)
    (oneTurnRun.get oneTurnRun_isSome) := by
  refine lineageKept _ _ .empty ?_ (steps_of_runSchedule (Option.some_get oneTurnRun_isSome).symm)
  intro row hrow
  cases hrow

end HotAirBalloon.Memory
