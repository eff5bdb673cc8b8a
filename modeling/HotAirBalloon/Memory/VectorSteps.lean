import HotAirBalloon.Memory.Locking

/-!
# Steps on memory records and vectors

What a statement may do to the memory records, and what a call may do to the vector index.
-/

namespace HotAirBalloon.Memory

open Python Library

/-! ## Memory records -/

/-- What a statement may do to the memory records. -/
inductive MemoryEdit (t : Tables) : Sql → Edit AssistantMemoryRecord.id → Prop
  | insert {row : AssistantMemoryRecord} (absent : ∀ other ∈ t.memories, other.id ≠ row.id) :
      MemoryEdit t (.insertMemory row) (.put row)
  | sources {row : AssistantMemoryRecord} {sourceTurnIds : List Uuid} (mem : row ∈ t.memories) :
      MemoryEdit t (.updateSourceTurnIds row.id sourceTurnIds)
        (.put { row with sourceTurnIds := sourceTurnIds })
  | synced {row : AssistantMemoryRecord} {syncedAt : DateTime} (mem : row ∈ t.memories) :
      MemoryEdit t (.markSynced row.id syncedAt)
        (.put { row with syncedAt := some syncedAt, syncLastError := none })
  | failed {row : AssistantMemoryRecord} {retryCount : Int} {message : String}
      (mem : row ∈ t.memories) :
      MemoryEdit t (.recordSyncError row.id retryCount message)
        (.put { row with syncRetryCount := retryCount, syncLastError := some message })
  | deleted {row : AssistantMemoryRecord} {deletedAt : DateTime} (mem : row ∈ t.memories) :
      MemoryEdit t (.markDeleted row.id deletedAt) (.put { row with deletedAt := some deletedAt })
  | erased {row : AssistantMemoryRecord} {ids : List Uuid} (mem : row ∈ t.memories)
      (listed : row.id ∈ ids) : MemoryEdit t (.deleteMemories ids) (.erase row.id)

/-- A row that is written is new, or has the id and the vector of the row that it replaces. -/
theorem MemoryEdit.put_cases {t : Tables} {stmt : Sql} {row : AssistantMemoryRecord}
    (h : MemoryEdit t stmt (.put row)) : stmt = .insertMemory row ∨
      ∃ seen ∈ t.memories, seen.id = row.id ∧ seen.vectorKey = row.vectorKey := by
  cases h with
  | insert => exact Or.inl rfl
  | sources mem => exact Or.inr ⟨_, mem, rfl, rfl⟩
  | synced mem => exact Or.inr ⟨_, mem, rfl, rfl⟩
  | failed mem => exact Or.inr ⟨_, mem, rfl, rfl⟩
  | deleted mem => exact Or.inr ⟨_, mem, rfl, rfl⟩

theorem memoryEdit {stmt : Sql} {locked : LockKey → LockMode → Bool} {t : Tables} {a : stmt.Reply}
    {changes : List Change} (h : (stmt.effect locked t).outcome = .ok (a, changes))
    {edit : Edit AssistantMemoryRecord.id} (hmem : Change.memory edit ∈ changes) :
    MemoryEdit t stmt edit := by
  have hkind : RowKind.memory ∈ stmt.writes := kind_mem_writes h _ hmem
  cases stmt with
  | insertMemory row =>
    obtain ⟨rfl, habsent, -⟩ := outcome_insertMemory h
    cases List.mem_singleton.mp hmem
    exact .insert habsent
  | updateSourceTurnIds id sourceTurnIds =>
    rcases changes_updateMemory h with rfl | ⟨row, hrow, rfl, rfl, -⟩
    · cases hmem
    · cases List.mem_singleton.mp hmem
      exact .sources hrow
  | markSynced id syncedAt =>
    rcases changes_updateMemory h with rfl | ⟨row, hrow, rfl, rfl, -⟩
    · cases hmem
    · cases List.mem_singleton.mp hmem
      exact .synced hrow
  | recordSyncError id retryCount message =>
    rcases changes_updateMemory h with rfl | ⟨row, hrow, rfl, rfl, -⟩
    · cases hmem
    · cases List.mem_singleton.mp hmem
      exact .failed hrow
  | markDeleted id deletedAt =>
    rcases changes_updateMemory h with rfl | ⟨row, hrow, rfl, rfl, -⟩
    · cases hmem
    · cases List.mem_singleton.mp hmem
      exact .deleted hrow
  | deleteMemories ids =>
    cases changes_ite h
    obtain ⟨row, hrow, heq⟩ := List.mem_map.mp hmem
    cases heq
    obtain ⟨hmem, hlisted⟩ := List.mem_filter.mp hrow
    exact .erased hmem (by simpa using hlisted)
  | _ => simp [Sql.writes] at hkind

section

variable {ι : Type} {w : World ι} {i : ι}

/-- A record that a session sees was written by it or is committed. -/
theorem mem_visible_memories {row : AssistantMemoryRecord} (h : row ∈ (w.visible i).memories) :
    Change.memory (.put row) ∈ w.server.changes i ∨ row ∈ w.server.committed.memories := by
  unfold World.visible Server.visible at h
  rw [memories_applyAll] at h
  exact (Table.put_or_mem h).imp_left (mem_filterMap_memory? _).mp

end

/-! ## The vector index -/

/-- The index has a vector of a key. -/
def VectorIndex.Holds (index : VectorIndex) (key : String × String) : Prop :=
  ∃ vector ∈ index, vector.key = key

namespace VectorIndex

variable {index : VectorIndex} {key : String × String}

theorem holds_put {vector : StoredVector} :
    Holds (index.put vector) key ↔ vector.key = key ∨ index.Holds key := by
  constructor
  · rintro ⟨stored, hmem, rfl⟩
    rcases Table.mem_put.mp hmem with rfl | ⟨hold, -⟩
    · exact Or.inl rfl
    · exact Or.inr ⟨stored, hold, rfl⟩
  · intro h
    by_cases hkey : vector.key = key
    · exact ⟨vector, Table.mem_put.mpr (Or.inl rfl), hkey⟩
    · obtain ⟨stored, hmem, rfl⟩ := h.resolve_left hkey
      exact ⟨stored, Table.mem_put.mpr (Or.inr ⟨hmem, fun heq => hkey heq.symm⟩), rfl⟩

theorem holds_deleteIds {vectorNamespace : String} {vectorIds : List String} :
    Holds (index.deleteIds vectorNamespace vectorIds) key ↔
      index.Holds key ∧ ∀ id ∈ vectorIds, key ≠ (vectorNamespace, id) := by
  have hkept : ∀ vector : StoredVector,
      (!decide (vector.vectorNamespace = vectorNamespace ∧ vector.vectorId ∈ vectorIds)) = true ↔
        ∀ id ∈ vectorIds, vector.key ≠ (vectorNamespace, id) := by
    intro vector
    rw [Bool.not_eq_true', decide_eq_false_iff_not]
    constructor
    · intro hnot id hid heq
      obtain ⟨hnamespace, hvector⟩ := Prod.mk.inj heq
      exact hnot ⟨hnamespace, hvector ▸ hid⟩
    · rintro hne ⟨hnamespace, hid⟩
      exact hne _ hid (Prod.ext hnamespace rfl)
  constructor
  · rintro ⟨vector, hmem, rfl⟩
    obtain ⟨hold, hkeep⟩ := Table.mem_filter.mp hmem
    exact ⟨⟨vector, hold, rfl⟩, (hkept vector).mp hkeep⟩
  · rintro ⟨⟨vector, hold, rfl⟩, hne⟩
    exact ⟨vector, Table.mem_filter.mpr ⟨hold, (hkept vector).mpr hne⟩, rfl⟩

end VectorIndex

section

variable {ι : Type} [DecidableEq ι] {i : ι} {op : Op} {delivery : Delivery}
  {reply : Except PyError op.Reply} {w w' : World ι}

/-- What a call does to the index. -/
theorem index_cases (h : exec i op delivery w = some (reply, w')) :
    w'.index = w.index ∨ (∃ vector, op = .upsert vector ∧ w'.index = w.index.put vector) ∨
    ∃ vectorNamespace vectorIds, op = .deleteIds vectorNamespace vectorIds ∧
      w'.index = w.index.deleteIds vectorNamespace vectorIds := by
  obtain ⟨-, ⟨-, hindex, -⟩ | ⟨r, w₀, hcarry, -, hindex, -⟩⟩ := exec_cases h
  · exact Or.inl hindex
  · cases op with
    | sql stmt =>
      obtain ⟨⟨r', server⟩, -, heq⟩ := Option.map_eq_some_iff.mp hcarry
      cases heq
      exact Or.inl hindex
    | upsert vector =>
      cases hcarry
      exact Or.inr (Or.inl ⟨vector, rfl, hindex⟩)
    | deleteIds vectorNamespace vectorIds =>
      cases hcarry
      exact Or.inr (Or.inr ⟨vectorNamespace, vectorIds, rfl, hindex⟩)
    | _ =>
      cases hcarry
      exact Or.inl hindex

/-- An upsert that returns has stored its vector. -/
theorem holds_of_upsert {vector : StoredVector}
    (h : exec i (.upsert vector) delivery w = some (.ok (), w')) : w'.index.Holds vector.key := by
  obtain ⟨-, ⟨-, -, e, herror⟩ | ⟨r, w₀, hcarry, -, hindex, -⟩⟩ := exec_cases h
  · cases herror
  · cases hcarry
    rw [hindex]
    exact VectorIndex.holds_put.mpr (Or.inl rfl)

theorem index_of_deleteIds {vectorNamespace : String} {vectorIds : List String}
    (h : exec i (.deleteIds vectorNamespace vectorIds) delivery w = some (.ok (), w')) :
    w'.index = w.index.deleteIds vectorNamespace vectorIds := by
  obtain ⟨-, ⟨-, -, e, herror⟩ | ⟨r, w₀, hcarry, -, hindex, -⟩⟩ := exec_cases h
  · cases herror
  · cases hcarry
    exact hindex

end

end HotAirBalloon.Memory
