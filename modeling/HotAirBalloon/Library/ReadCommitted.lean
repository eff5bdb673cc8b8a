import Mathlib.Tactic

/-!
# A database server at READ COMMITTED

Sessions over one committed database. A statement sees the committed database with the changes
of its own session on top. It first takes row locks, and waits while another session holds a
conflicting one; then it ends with an error or with a reply and some changes. The changes reach
the committed database when the session commits.

Statements are atomic; what another session commits between two statements is seen by the
second.
-/

namespace HotAirBalloon.Library

/-- Row lock modes, weakest first. -/
inductive LockMode where
  | keyShare
  | noKeyUpdate
  | forUpdate
  deriving DecidableEq

def LockMode.conflicts : LockMode → LockMode → Bool
  | keyShare, forUpdate | forUpdate, keyShare => true
  | keyShare, _ | _, keyShare => false
  | _, _ => true

theorem LockMode.conflicts_comm (m m' : LockMode) : m.conflicts m' = m'.conflicts m := by
  cases m <;> cases m' <;> rfl

structure Lock (ι Key : Type) where
  session : ι
  key : Key
  mode : LockMode

/-- What a statement asks for and what it then does. -/
structure Effect (ε Key Change α : Type) where
  locks : List (Key × LockMode)
  outcome : Except ε (α × List Change)

structure Server (ι Db Key Change : Type) where
  committed : Db
  changes : ι → List Change
  locks : List (Lock ι Key)

namespace Server

variable {ι ε Db Key Change α : Type} [DecidableEq ι] [DecidableEq Key]

/-- A server without open transactions. -/
def idle (db : Db) : Server ι Db Key Change := ⟨db, fun _ => [], []⟩

/-- Changes in the order in which they were made. -/
def applyAll (apply : Change → Db → Db) (changes : List Change) (db : Db) : Db :=
  changes.foldl (fun db change => apply change db) db

variable (apply : Change → Db → Db) (s : Server ι Db Key Change) (i : ι)

/-- What a session sees. -/
def visible : Db := applyAll apply (s.changes i) s.committed

/-- Another session holds a lock that conflicts. -/
def lockedByOther (key : Key) (mode : LockMode) : Bool :=
  s.locks.any (fun lock => lock.session ≠ i ∧ lock.key = key ∧ lock.mode.conflicts mode)

/-- Run a statement in a session; `none` while it waits for a lock. -/
def statement (effect : (Key → LockMode → Bool) → Db → Effect ε Key Change α) :
    Option (Except ε α × Server ι Db Key Change) :=
  let e := effect (s.lockedByOther i) (s.visible apply i)
  if e.locks.any (fun lock => s.lockedByOther i lock.1 lock.2) then none
  else
    match e.outcome with
    | .error err => some (.error err, s)
    | .ok (a, changes) => some (.ok a, { s with
        changes := Function.update s.changes i (s.changes i ++ changes)
        locks := s.locks ++ e.locks.map (fun lock => ⟨i, lock.1, lock.2⟩) })

/-- The locks of the other sessions. -/
def release : List (Lock ι Key) := s.locks.filter (fun lock => lock.session ≠ i)

def commit : Server ι Db Key Change where
  committed := s.visible apply i
  changes := Function.update s.changes i []
  locks := s.release i

def rollback : Server ι Db Key Change where
  committed := s.committed
  changes := Function.update s.changes i []
  locks := s.release i

/-! ## Locks exclude each other -/

/-- No two sessions hold conflicting locks on a key. -/
def Exclusive : Prop :=
  ∀ lock ∈ s.locks, ∀ lock' ∈ s.locks, lock.session ≠ lock'.session → lock.key = lock'.key →
    lock.mode.conflicts lock'.mode = false

/-- A session holds a lock that excludes every other writer of a key. -/
def Writes (key : Key) : Prop :=
  ∃ lock ∈ s.locks, lock.session = i ∧ lock.key = key ∧ lock.mode ≠ .keyShare

variable {s i} {apply}

theorem lockedByOther_eq_false {key : Key} {mode : LockMode}
    (h : s.lockedByOther i key mode = false) {lock : Lock ι Key} (hlock : lock ∈ s.locks)
    (hsession : lock.session ≠ i) (hkey : lock.key = key) :
    lock.mode.conflicts mode = false := by
  by_contra hconflict
  have htrue : s.lockedByOther i key mode = true := by
    unfold lockedByOther
    rw [List.any_eq_true]
    exact ⟨lock, hlock, by simp [hsession, hkey, hconflict]⟩
  rw [htrue] at h
  cases h

omit [DecidableEq ι] [DecidableEq Key] in
theorem exclusive_idle (db : Db) : (idle db : Server ι Db Key Change).Exclusive := by
  intro lock hlock
  cases hlock

omit [DecidableEq Key] in
theorem mem_release {lock : Lock ι Key} :
    lock ∈ s.release i ↔ lock ∈ s.locks ∧ lock.session ≠ i := by
  unfold release
  rw [List.mem_filter, decide_eq_true_eq]

omit [DecidableEq Key] in
theorem exclusive_release (h : s.Exclusive) {s' : Server ι Db Key Change}
    (hlocks : s'.locks = s.release i) : s'.Exclusive := by
  intro lock hlock lock' hlock'
  rw [hlocks, mem_release] at hlock hlock'
  exact h lock hlock.1 lock' hlock'.1

/-- The cases of a statement that does not wait. -/
theorem statement_cases {effect : (Key → LockMode → Bool) → Db → Effect ε Key Change α}
    {r : Except ε α} {s' : Server ι Db Key Change} (h : s.statement apply i effect = some (r, s')) :
    (∀ lock ∈ (effect (s.lockedByOther i) (s.visible apply i)).locks,
      s.lockedByOther i lock.1 lock.2 = false) ∧
    ((∃ err, (effect (s.lockedByOther i) (s.visible apply i)).outcome = .error err ∧
      r = .error err ∧ s' = s) ∨
    (∃ a changes, (effect (s.lockedByOther i) (s.visible apply i)).outcome = .ok (a, changes) ∧
      r = .ok a ∧ s'.committed = s.committed ∧
      s'.changes = Function.update s.changes i (s.changes i ++ changes) ∧
      s'.locks = s.locks ++ (effect (s.lockedByOther i) (s.visible apply i)).locks.map
        (fun lock => ⟨i, lock.1, lock.2⟩))) := by
  unfold statement at h
  dsimp only at h
  split at h
  · cases h
  · rename_i hfree
    refine ⟨?_, ?_⟩
    · intro lock hlock
      by_contra hlocked
      apply hfree
      rw [List.any_eq_true]
      exact ⟨lock, hlock, by simpa using hlocked⟩
    · split at h
      · rename_i err houtcome
        cases h
        exact .inl ⟨err, houtcome, rfl, rfl⟩
      · rename_i a changes houtcome
        cases h
        exact .inr ⟨a, changes, houtcome, rfl, rfl, rfl, rfl⟩

theorem exclusive_statement {effect : (Key → LockMode → Bool) → Db → Effect ε Key Change α}
    {r : Except ε α} {s' : Server ι Db Key Change} (hs : s.Exclusive)
    (h : s.statement apply i effect = some (r, s')) : s'.Exclusive := by
  obtain ⟨hfree, ⟨err, -, -, rfl⟩ | ⟨a, changes, -, -, -, -, hlocks⟩⟩ := statement_cases h
  · exact hs
  · -- a new lock is session `i`'s, and was free of conflicts with the others
    have hnew : ∀ lock ∈ s.locks, ∀ lock', lock' ∈ (effect (s.lockedByOther i)
        (s.visible apply i)).locks.map (fun lock => (⟨i, lock.1, lock.2⟩ : Lock ι Key)) →
        lock.session ≠ lock'.session → lock.key = lock'.key →
        lock.mode.conflicts lock'.mode = false := by
      intro lock hlock lock' hlock' hsession hkey
      obtain ⟨asked, hasked, rfl⟩ := List.mem_map.mp hlock'
      exact lockedByOther_eq_false (hfree asked hasked) hlock hsession hkey
    intro lock hlock lock' hlock' hsession hkey
    rw [hlocks, List.mem_append] at hlock hlock'
    rcases hlock with hlock | hlock <;> rcases hlock' with hlock' | hlock'
    · exact hs lock hlock lock' hlock' hsession hkey
    · exact hnew lock hlock lock' hlock' hsession hkey
    · rw [LockMode.conflicts_comm]
      exact hnew lock' hlock' lock hlock hsession.symm hkey.symm
    · obtain ⟨asked, -, rfl⟩ := List.mem_map.mp hlock
      obtain ⟨asked', -, rfl⟩ := List.mem_map.mp hlock'
      exact absurd rfl hsession

omit [DecidableEq Key] [DecidableEq ι] in
/-- Two sessions do not write one key. -/
theorem Exclusive.eq_of_writes (hs : s.Exclusive) {j : ι} {key : Key} (hi : s.Writes i key)
    (hj : s.Writes j key) : i = j := by
  obtain ⟨lock, hlock, rfl, rfl, hmode⟩ := hi
  obtain ⟨lock', hlock', rfl, hkey, hmode'⟩ := hj
  by_contra hne
  have hfree := hs lock hlock lock' hlock' hne hkey.symm
  revert hfree hmode hmode'
  cases lock.mode <;> cases lock'.mode <;> simp [LockMode.conflicts]

omit [DecidableEq ι] [DecidableEq Key] in
/-- A session keeps its locks until it ends; the others do not touch them. -/
theorem Writes.of_subset {s' : Server ι Db Key Change} {key : Key} (h : s.Writes i key)
    (hlocks : ∀ lock ∈ s.locks, lock.session = i → lock ∈ s'.locks) : s'.Writes i key := by
  obtain ⟨lock, hlock, hsession, hrest⟩ := h
  exact ⟨lock, hlocks lock hlock hsession, hsession, hrest⟩

end Server

end HotAirBalloon.Library
