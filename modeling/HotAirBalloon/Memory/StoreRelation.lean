import HotAirBalloon.Evidence.RoundTrip
import HotAirBalloon.Memory.Erasure
import HotAirBalloon.Memory.InMemory

/-!
# The in-memory store beside the tables

`Simulates` relates the dicts of the in-memory store to the tables and to what the calls to come
will still write: the owner of a conversation is that of its row, its turns are the last ones of
the table, its snapshots are what the evidence rows decode to, and ids and times continue those of
the rows. Each statement that the PostgreSQL store sends keeps the relation.
-/

namespace HotAirBalloon.Memory

open Python Library Evidence

/-! ## The end of a list -/

section

variable {α β : Type}

theorem rtake_map (f : α → β) (l : List α) (n : ℕ) : (l.map f).rtake n = (l.rtake n).map f := by
  unfold List.rtake
  rw [List.length_map, List.map_drop]

/-- The last elements of what was cut are the last elements of the whole. -/
theorem rtake_rtake {l : List α} {n m : ℕ} (h : n ≤ m) : (l.rtake m).rtake n = l.rtake n := by
  unfold List.rtake
  rw [List.drop_drop, List.length_drop]
  congr 1
  omega

/-- Cutting before something is appended changes nothing, when the result is cut again. -/
theorem rtake_append_rtake (l l' : List α) (m : ℕ) :
    (l.rtake m ++ l').rtake m = (l ++ l').rtake m := by
  unfold List.rtake
  rw [← List.drop_append_of_le_length (by omega : l.length - m ≤ l.length), List.drop_drop,
    List.length_drop, List.length_append]
  congr 1
  omega

end

/-! ## In-memory operations -/

namespace InMemoryConversationStore

variable {store : InMemoryConversationStore} {conversationId ownerUserId : Uuid}

/-- `_trim` keeps the last turns, none for a negative maximum. -/
theorem drop_overflow (turns : List ConversationTurn) (maxTurns : Int)
    (hover : ¬ (turns.length : Int) ≤ maxTurns) :
    turns.drop ((turns.length : Int) - maxTurns).toNat = turns.rtake maxTurns.toNat := by
  unfold List.rtake
  by_cases hneg : maxTurns < 0
  · rw [List.drop_of_length_le (by omega), List.drop_of_length_le (by omega)]
  · congr 1
    omega

theorem trim_extendTurns (turns : List ConversationTurn) :
    (store.extendTurns conversationId turns).trim conversationId = { store with
      state := Function.update store.state conversationId
        ((store.state conversationId ++ turns).rtake store.maxTurnsPerConversation.toNat) } := by
  unfold trim extendTurns
  dsimp only
  rw [Function.update_self]
  split
  · rename_i hfits
    have hall : (store.state conversationId ++ turns).rtake store.maxTurnsPerConversation.toNat =
        store.state conversationId ++ turns := by
      unfold List.rtake
      have hzero : (store.state conversationId ++ turns).length -
          store.maxTurnsPerConversation.toNat = 0 := by omega
      rw [hzero, List.drop_zero]
    rw [hall]
  · rename_i hover
    rw [Function.update_idem, drop_overflow _ _ hover]

/-- Turns that are appended one by one, or together. -/
theorem trim_extendTurns_trim (store : InMemoryConversationStore) (conversationId : Uuid)
    (turns turns' : List ConversationTurn) :
    (((store.extendTurns conversationId turns).trim conversationId).extendTurns conversationId
      turns').trim conversationId =
      (store.extendTurns conversationId (turns ++ turns')).trim conversationId := by
  rw [trim_extendTurns, trim_extendTurns, trim_extendTurns]
  dsimp only
  rw [Function.update_self, Function.update_idem, rtake_append_rtake, List.append_assoc]

end InMemoryConversationStore

/-! ## Newest first -/

theorem notAfter_iff {a b : DateTime × Uuid} :
    notAfter a b = true ↔ @LT.lt Int _ a.1 b.1 ∨ (@Eq Int a.1 b.1 ∧ a.2.int ≤ b.2.int) := by
  unfold notAfter
  exact decide_eq_true_iff

theorem notAfter_trans {a b c : DateTime × Uuid} (hab : notAfter a b = true)
    (hbc : notAfter b c = true) : notAfter a c = true := by
  rw [notAfter_iff] at hab hbc ⊢
  omega

theorem notAfter_total (a b : DateTime × Uuid) : (notAfter a b || notAfter b a) = true := by
  rw [Bool.or_eq_true, notAfter_iff, notAfter_iff]
  omega

theorem time_eq_of_notAfter {a b : DateTime × Uuid} (hab : notAfter a b = true)
    (hba : notAfter b a = true) : a.1 = b.1 := by
  rw [notAfter_iff] at hab hba
  have htimes : @Eq Int a.1 b.1 := by omega
  exact htimes

/-- Rows whose times increase, sorted newest first. -/
theorem mergeSort_newestFirst {α : Type} {time : α → DateTime} {id : α → Uuid} {rows : List α}
    (htimes : (rows.map time).Pairwise (· < ·)) :
    rows.mergeSort (fun a b => notAfter (time b, id b) (time a, id a)) = rows.reverse := by
  have hnodup : (rows.map time).Nodup := htimes.imp (fun hlt => hlt.ne)
  refine Table.mergeSort_eq ?_ ?_ rows.reverse_perm.symm ?_ ?_
  · intro a b c hab hbc
    exact notAfter_trans hbc hab
  · intro a b
    exact notAfter_total (time b, id b) (time a, id a)
  · rw [List.pairwise_reverse]
    refine (List.pairwise_map.mp htimes).imp ?_
    intro a b hlt
    exact notAfter_iff.mpr (.inl hlt)
  · intro a ha b hb hab hba
    exact List.inj_on_of_nodup_map hnodup ha hb (time_eq_of_notAfter hba hab)

/-- The newest rows, in the order of their times. -/
theorem reverse_take_newestFirst {α : Type} {time : α → DateTime} {id : α → Uuid} {rows : List α}
    (htimes : (rows.map time).Pairwise (· < ·)) (n : ℕ) :
    ((rows.mergeSort fun a b => notAfter (time b, id b) (time a, id a)).take n).reverse =
      rows.rtake n := by
  rw [mergeSort_newestFirst htimes, List.rtake_eq_reverse_take_reverse]

/-! ## The relation -/

/-- The turns and snapshots that calls will write, and when they will read evidence. -/
structure Pending where
  turns : List (Uuid × DateTime)
  snapshots : List (Uuid × ConversationEvidenceSnapshot)
  reads : List DateTime

/-- The row of a turn without its expiry, which no call of the store reads. -/
def ConversationTurnRecord.undated (row : ConversationTurnRecord) : ConversationTurnRecord :=
  { row with expiresAt := none }

def turnRows (t : Tables) : List ConversationTurnRecord :=
  t.turns.rows.map ConversationTurnRecord.undated

/-- The evidence comes back from its column as it was. -/
def RoundTrips (store : ConversationStore) (snapshot : ConversationEvidenceSnapshot) : Prop :=
  ∃ payload, snapshot.toJson store.py = .ok payload ∧
    fromJson store.py snapshot.conversationId snapshot.ownerUserId snapshot.createdAtUtc
      snapshot.expiresAtUtc (store.jsonColumn payload) = .ok snapshot

structure TurnsAgree (memory : InMemoryConversationStore) (rows : List ConversationTurnRecord)
    (pending : Pending) : Prop where
  owner : ∀ row ∈ rows, memory.owners row.conversationId = some row.ownerUserId
  state : ∀ conversationId, memory.state conversationId =
    ((rows.filter (fun row => row.conversationId = conversationId)).map
      ConversationStore.turnOf).rtake memory.maxTurnsPerConversation.toNat
  ids : (rows.map (·.id) ++ pending.turns.map Prod.fst).Nodup
  times : (rows.map (·.createdAt) ++ pending.turns.map Prod.snd).Pairwise (· < ·)

structure EvidenceAgrees (store : ConversationStore) (memory : InMemoryConversationStore)
    (rows : List ConversationEvidenceRecord) (pending : Pending) : Prop where
  owner : ∀ row ∈ rows, memory.owners row.conversationId = some row.ownerUserId
  evidence : ∀ conversationId,
    (rows.filter (fun row => row.conversationId = conversationId)).map store.snapshotOf =
      (memory.evidence conversationId).map Except.ok
  ids : (rows.map (·.id) ++ pending.snapshots.map Prod.fst).Nodup
  exchanges : (rows.map (·.exchangeId) ++ pending.snapshots.map (·.2.exchangeId)).Nodup
  times : (rows.map (·.createdAt) ++ pending.snapshots.map (·.2.createdAtUtc)).Pairwise (· < ·)
  unexpired : ∀ row ∈ rows, ∀ now ∈ pending.reads, row.expiresAt.all (now < ·)
  decodes : ∀ snapshot ∈ pending.snapshots, RoundTrips store snapshot.2
  lasts : ∀ snapshot ∈ pending.snapshots, ∀ now ∈ pending.reads,
    snapshot.2.expiresAtUtc.all (now < ·)
  fits : ∀ snapshot ∈ pending.snapshots, snapshot.2.toolName.length ≤ 128

structure Simulates (store : ConversationStore) (memory : InMemoryConversationStore) (t : Tables)
    (pending : Pending) : Prop where
  owners : ∀ conversationId, memory.owners conversationId =
    (t.conversations.find? conversationId).map (·.ownerUserId)
  turns : TurnsAgree memory (turnRows t) pending
  evidence : EvidenceAgrees store memory t.evidence.rows pending

variable {store : ConversationStore} {memory : InMemoryConversationStore} {v : Tables}
  {pending pending' : Pending} {conversationId ownerUserId : Uuid}

/-- Calls that write less and read less often. -/
structure Pending.Within (pending' pending : Pending) : Prop where
  turns : pending'.turns.Sublist pending.turns
  snapshots : pending'.snapshots.Sublist pending.snapshots
  reads : pending'.reads.Sublist pending.reads

theorem TurnsAgree.within {rows : List ConversationTurnRecord} (h : TurnsAgree memory rows pending)
    (hwithin : pending'.Within pending) : TurnsAgree memory rows pending' where
  owner := h.owner
  state := h.state
  ids := h.ids.sublist ((List.Sublist.refl _).append (hwithin.turns.map Prod.fst))
  times := h.times.sublist ((List.Sublist.refl _).append (hwithin.turns.map Prod.snd))

theorem EvidenceAgrees.within {rows : List ConversationEvidenceRecord}
    (h : EvidenceAgrees store memory rows pending) (hwithin : pending'.Within pending) :
    EvidenceAgrees store memory rows pending' where
  owner := h.owner
  evidence := h.evidence
  ids := h.ids.sublist ((List.Sublist.refl _).append (hwithin.snapshots.map _))
  exchanges := h.exchanges.sublist ((List.Sublist.refl _).append (hwithin.snapshots.map _))
  times := h.times.sublist ((List.Sublist.refl _).append (hwithin.snapshots.map _))
  unexpired := fun row hrow now hnow => h.unexpired row hrow now (hwithin.reads.subset hnow)
  decodes := fun snapshot hmem => h.decodes snapshot (hwithin.snapshots.subset hmem)
  lasts := fun snapshot hmem now hnow =>
    h.lasts snapshot (hwithin.snapshots.subset hmem) now (hwithin.reads.subset hnow)
  fits := fun snapshot hmem => h.fits snapshot (hwithin.snapshots.subset hmem)

theorem Simulates.within (h : Simulates store memory v pending)
    (hwithin : pending'.Within pending) : Simulates store memory v pending' where
  owners := h.owners
  turns := h.turns.within hwithin
  evidence := h.evidence.within hwithin

/-! ## What the session's statements do to the relation -/

/-- The in-memory store with the owner of a conversation. -/
def InMemoryConversationStore.owning (memory : InMemoryConversationStore)
    (conversationId ownerUserId : Uuid) : InMemoryConversationStore :=
  { memory with owners := Function.update memory.owners conversationId (some ownerUserId) }

theorem InMemoryConversationStore.owning_eq_self
    (h : memory.owners conversationId = some ownerUserId) :
    memory.owning conversationId ownerUserId = memory := by
  unfold owning
  rw [← h, Function.update_eq_self]

/-- Owners that are known stay when a conversation gets its owner. -/
theorem InMemoryConversationStore.owners_owning {other otherOwner : Uuid}
    (hfree : memory.owners conversationId = none ∨ memory.owners conversationId = some ownerUserId)
    (hother : memory.owners other = some otherOwner) :
    (memory.owning conversationId ownerUserId).owners other = some otherOwner := by
  unfold owning
  dsimp only
  by_cases heq : other = conversationId
  · subst heq
    rw [Function.update_self]
    rcases hfree with hnone | hsome
    · rw [hnone] at hother
      cases hother
    · exact hsome.symm.trans hother
  · rw [Function.update_of_ne heq, hother]

theorem Simulates.putConversation (h : Simulates store memory v pending)
    (row : AssistantConversationRecord)
    (hfree : memory.owners row.id = none ∨ memory.owners row.id = some row.ownerUserId) :
    Simulates store (memory.owning row.id row.ownerUserId)
      { v with conversations := v.conversations.put row } pending where
  owners := by
    intro other
    rw [Table.find?_put]
    unfold InMemoryConversationStore.owning
    dsimp only
    by_cases heq : other = row.id
    · rw [if_pos heq, heq, Function.update_self]
      rfl
    · rw [if_neg heq, Function.update_of_ne heq, h.owners]
  turns :=
    { owner := fun turn hturn =>
        InMemoryConversationStore.owners_owning hfree (h.turns.owner turn hturn)
      state := h.turns.state
      ids := h.turns.ids
      times := h.turns.times }
  evidence :=
    { owner := fun turn hturn =>
        InMemoryConversationStore.owners_owning hfree (h.evidence.owner turn hturn)
      evidence := h.evidence.evidence
      ids := h.evidence.ids
      exchanges := h.evidence.exchanges
      times := h.evidence.times
      unexpired := h.evidence.unexpired
      decodes := h.evidence.decodes
      lasts := h.evidence.lasts
      fits := h.evidence.fits }

/-- Changing the row of an owned conversation, but neither its id nor its owner. -/
theorem Simulates.replaceConversation (h : Simulates store memory v pending)
    {row : AssistantConversationRecord} (howner : memory.owners row.id = some row.ownerUserId) :
    Simulates store memory { v with conversations := v.conversations.put row } pending := by
  have hput := h.putConversation row (.inr howner)
  rwa [InMemoryConversationStore.owning_eq_self howner] at hput

theorem Simulates.find?_eq (h : Simulates store memory v pending)
    (howner : memory.owners conversationId = some ownerUserId) :
    ∃ row, v.conversations.find? conversationId = some row ∧ row.id = conversationId ∧
      row.ownerUserId = ownerUserId := by
  rw [h.owners, Option.map_eq_some_iff] at howner
  obtain ⟨row, hfind, hrow⟩ := howner
  exact ⟨row, hfind, (Table.find?_eq_some_iff.mp hfind).2, hrow⟩

theorem Simulates.ownedConversation_eq (h : Simulates store memory v pending)
    (howner : memory.owners conversationId = some ownerUserId) :
    ∃ row, ownedConversation conversationId ownerUserId v = some row ∧ row.id = conversationId ∧
      row.ownerUserId = ownerUserId := by
  obtain ⟨row, hfind, hid, hrow⟩ := h.find?_eq howner
  refine ⟨row, ?_, hid, hrow⟩
  unfold ownedConversation
  rw [hfind, Option.filter_some, if_pos (by simpa using hrow)]

theorem Simulates.ownedConversation_eq_none (h : Simulates store memory v pending)
    (howner : memory.owners conversationId ≠ some ownerUserId) :
    ownedConversation conversationId ownerUserId v = none := by
  unfold ownedConversation
  rw [h.owners] at howner
  cases hfind : v.conversations.find? conversationId with
  | none => rfl
  | some row =>
    rw [hfind] at howner
    have hne : row.ownerUserId ≠ ownerUserId := fun heq => howner (by simp [heq])
    rw [Option.filter_some, if_neg (by simpa using hne)]

theorem Simulates.hasConversation (h : Simulates store memory v pending)
    (howner : memory.owners conversationId = some ownerUserId) :
    hasConversation (conversationId, ownerUserId) v = true := by
  obtain ⟨row, hfind, hid, hrow⟩ := h.find?_eq howner
  unfold Memory.hasConversation
  rw [List.any_eq_true]
  refine ⟨row, (Table.find?_eq_some_iff.mp hfind).1, ?_⟩
  unfold AssistantConversationRecord.ownerKey
  rw [hid, hrow]
  exact decide_eq_true rfl

/-! ### Turns -/

theorem TurnsAgree.append {rows : List ConversationTurnRecord} {row : ConversationTurnRecord}
    {turns : List (Uuid × DateTime)} (h : TurnsAgree memory rows pending)
    (hpending : pending.turns = (row.id, row.createdAt) :: turns)
    (howner : memory.owners row.conversationId = some row.ownerUserId) :
    TurnsAgree ((memory.extendTurns row.conversationId [ConversationStore.turnOf row]).trim
      row.conversationId) (rows ++ [row]) { pending with turns := turns } := by
  rw [InMemoryConversationStore.trim_extendTurns]
  constructor
  · intro row' hrow'
    rcases List.mem_append.mp hrow' with hold | hnew
    · exact h.owner row' hold
    · obtain rfl := List.mem_singleton.mp hnew
      exact howner
  · intro conversationId
    rw [List.filter_append, List.map_append]
    dsimp only
    by_cases heq : conversationId = row.conversationId
    · subst heq
      rw [Function.update_self, h.state, rtake_append_rtake]
      simp
    · rw [Function.update_of_ne heq, h.state]
      have hother : [row].filter (fun row => row.conversationId = conversationId) = [] := by
        simpa using fun heq' : row.conversationId = conversationId => heq heq'.symm
      rw [hother, List.map_nil, List.append_nil]
  · have hids := h.ids
    rw [hpending, List.map_cons, List.append_cons] at hids
    rwa [List.map_append]
  · have htimes := h.times
    rw [hpending, List.map_cons, List.append_cons] at htimes
    rwa [List.map_append]

theorem Simulates.turnsOf_eq (h : Simulates store memory v pending)
    (howner : memory.owners conversationId = some ownerUserId) :
    turnsOf conversationId ownerUserId v =
      v.turns.rows.filter (fun row => row.conversationId = conversationId) := by
  refine List.filter_congr ?_
  intro row hrow
  have hrowOwner := h.turns.owner row.undated (List.mem_map_of_mem hrow)
  rw [decide_eq_decide]
  constructor
  · exact fun hboth => hboth.1
  · intro hconversation
    refine ⟨hconversation, ?_⟩
    change memory.owners row.conversationId = some row.ownerUserId at hrowOwner
    rw [hconversation, howner] at hrowOwner
    exact (Option.some.inj hrowOwner).symm

/-- The newest turns that the table gives are the last ones of the in-memory store, up to its
maximum. -/
theorem Simulates.recentTurns_eq (h : Simulates store memory v pending)
    (howner : memory.owners conversationId = some ownerUserId) {n : ℕ}
    (hlimit : n ≤ memory.maxTurnsPerConversation.toNat) :
    (recentTurns conversationId ownerUserId n v).reverse.map ConversationStore.turnOf =
      (memory.state conversationId).rtake n := by
  have htimes : (v.turns.rows.map (·.createdAt)).Pairwise (· < ·) := by
    have hall := (List.pairwise_append.mp h.turns.times).1
    unfold turnRows at hall
    rwa [List.map_map] at hall
  unfold recentTurns
  rw [h.turnsOf_eq howner, reverse_take_newestFirst, h.turns.state, rtake_rtake hlimit,
    rtake_map]
  · unfold turnRows
    rw [List.filter_map, rtake_map, List.map_map]
    rfl
  · exact htimes.sublist (List.filter_sublist.map _)

theorem Simulates.insertTurn (h : Simulates store memory v pending) {row : ConversationTurnRecord}
    {turns : List (Uuid × DateTime)} (hpending : pending.turns = (row.id, row.createdAt) :: turns)
    (howner : memory.owners row.conversationId = some row.ownerUserId) :
    ((Sql.insertTurn row).alone v).outcome = .ok (1, [.turn (.put row)]) ∧
      Simulates store
        ((memory.extendTurns row.conversationId [ConversationStore.turnOf row]).trim
          row.conversationId)
        (v.after [.turn (.put row)]) { pending with turns := turns } := by
  have hnew : v.turns.find? row.id = none := by
    rw [Table.find?_eq_none_iff]
    intro row' hrow' heq
    have hids := h.turns.ids
    rw [hpending, List.map_cons] at hids
    have hlisted : row.id ∈ (turnRows v).map (·.id) :=
      List.mem_map.mpr ⟨row'.undated, List.mem_map_of_mem hrow', heq⟩
    exact (List.nodup_append.mp hids).2.2 row.id hlisted row.id List.mem_cons_self rfl
  have hparent : Memory.hasConversation row.ownerKey v = true := h.hasConversation howner
  refine ⟨?_, ?_, ?_, ?_⟩
  · change (Memory.insertTurn row v).outcome = _
    unfold Memory.insertTurn
    simp [hnew, hparent]
  · rw [InMemoryConversationStore.trim_extendTurns]
    exact h.owners
  · have hrows : turnRows (v.after [.turn (.put row)]) = turnRows v ++ [row.undated] := by
      change (v.turns.put row).rows.map ConversationTurnRecord.undated = _
      rw [Table.rows_put_of_find?_eq_none hnew, List.map_append]
      rfl
    rw [hrows]
    exact @TurnsAgree.append memory pending (turnRows v) row.undated turns h.turns hpending howner
  · rw [InMemoryConversationStore.trim_extendTurns]
    exact {
      owner := h.evidence.owner
      evidence := h.evidence.evidence
      ids := h.evidence.ids
      exchanges := h.evidence.exchanges
      times := h.evidence.times
      unexpired := h.evidence.unexpired
      decodes := h.evidence.decodes
      lasts := h.evidence.lasts
      fits := h.evidence.fits }

/-! ### Evidence -/

theorem mapM_eq_ok {α β : Type} {f : α → Except PyError β} {l : List α} {l' : List β}
    (h : l.map f = l'.map Except.ok) : l.mapM f = .ok l' := by
  induction l generalizing l' with
  | nil =>
    obtain rfl := List.map_eq_nil_iff.mp h.symm
    rfl
  | cons a l ih =>
    cases l' with
    | nil => cases h
    | cons b l' =>
      obtain ⟨hhead, htail⟩ := List.cons.inj h
      rw [List.mapM_cons, hhead, ih htail]
      rfl

theorem EvidenceAgrees.append {rows : List ConversationEvidenceRecord}
    {row : ConversationEvidenceRecord} {snapshot : ConversationEvidenceSnapshot}
    {snapshots : List (Uuid × ConversationEvidenceSnapshot)}
    (h : EvidenceAgrees store memory rows pending)
    (hpending : pending.snapshots = (row.id, snapshot) :: snapshots)
    (howner : memory.owners row.conversationId = some row.ownerUserId)
    (hdecodes : store.snapshotOf row = .ok snapshot)
    (hexchange : row.exchangeId = snapshot.exchangeId)
    (htime : row.createdAt = snapshot.createdAtUtc)
    (hexpiry : row.expiresAt = snapshot.expiresAtUtc) :
    EvidenceAgrees store (memory.addEvidence row.conversationId snapshot) (rows ++ [row])
      { pending with snapshots := snapshots } := by
  have hfirst : (row.id, snapshot) ∈ pending.snapshots := by
    rw [hpending]
    exact List.mem_cons_self
  have hrest : snapshots ⊆ pending.snapshots := by
    rw [hpending]
    exact List.subset_cons_self _ _
  constructor
  · intro row' hrow'
    rcases List.mem_append.mp hrow' with hold | hnew
    · exact h.owner row' hold
    · obtain rfl := List.mem_singleton.mp hnew
      exact howner
  · intro conversationId
    rw [List.filter_append, List.map_append, h.evidence]
    unfold InMemoryConversationStore.addEvidence
    dsimp only
    by_cases heq : conversationId = row.conversationId
    · subst heq
      rw [Function.update_self, List.map_append]
      simp [hdecodes]
    · rw [Function.update_of_ne heq]
      have hother : [row].filter (fun row => row.conversationId = conversationId) = [] := by
        simpa using fun heq' : row.conversationId = conversationId => heq heq'.symm
      rw [hother, List.map_nil, List.append_nil]
  · have hids := h.ids
    rw [hpending, List.map_cons, List.append_cons] at hids
    rwa [List.map_append]
  · have hexchanges := h.exchanges
    rw [hpending, List.map_cons, List.append_cons] at hexchanges
    rwa [List.map_append, List.map_singleton, hexchange]
  · have htimes := h.times
    rw [hpending, List.map_cons, List.append_cons] at htimes
    rwa [List.map_append, List.map_singleton, htime]
  · intro row' hrow' now hnow
    rcases List.mem_append.mp hrow' with hold | hnew
    · exact h.unexpired row' hold now hnow
    · obtain rfl := List.mem_singleton.mp hnew
      rw [hexpiry]
      exact h.lasts _ hfirst now hnow
  · exact fun snapshot' hmem => h.decodes snapshot' (hrest hmem)
  · exact fun snapshot' hmem => h.lasts snapshot' (hrest hmem)
  · exact fun snapshot' hmem => h.fits snapshot' (hrest hmem)

theorem Simulates.evidenceOf_eq (h : Simulates store memory v pending)
    (howner : memory.owners conversationId = some ownerUserId) :
    evidenceOf conversationId ownerUserId v =
      v.evidence.rows.filter (fun row => row.conversationId = conversationId) := by
  refine List.filter_congr ?_
  intro row hrow
  have hrowOwner := h.evidence.owner row hrow
  rw [decide_eq_decide]
  constructor
  · exact fun hboth => hboth.1
  · intro hconversation
    refine ⟨hconversation, ?_⟩
    rw [hconversation, howner] at hrowOwner
    exact (Option.some.inj hrowOwner).symm

/-- The newest evidence decodes to the last snapshots of the in-memory store. -/
theorem Simulates.recentEvidence_eq (h : Simulates store memory v pending)
    (howner : memory.owners conversationId = some ownerUserId) {now : DateTime}
    (hnow : now ∈ pending.reads) (n : ℕ) :
    (recentEvidence conversationId ownerUserId now n v).reverse.mapM store.snapshotOf =
      .ok ((memory.evidence conversationId).rtake n) := by
  have htimes : (v.evidence.rows.map (·.createdAt)).Pairwise (· < ·) :=
    (List.pairwise_append.mp h.evidence.times).1
  have hunexpired : (evidenceOf conversationId ownerUserId v).filter
      (fun row => row.expiresAt.all (now < ·)) = evidenceOf conversationId ownerUserId v := by
    rw [List.filter_eq_self]
    intro row hrow
    exact h.evidence.unexpired row (List.mem_filter.mp hrow).1 now hnow
  apply mapM_eq_ok
  unfold recentEvidence
  rw [hunexpired, h.evidenceOf_eq howner, reverse_take_newestFirst, ← rtake_map, ← rtake_map,
    h.evidence.evidence]
  exact htimes.sublist (List.filter_sublist.map _)

theorem evidenceRecord_eq_ok {snapshot : ConversationEvidenceSnapshot} (id : Uuid)
    (hdecodes : RoundTrips store snapshot) :
    ∃ row, store.evidenceRecord id snapshot = .ok row ∧ row.id = id ∧
      row.conversationId = snapshot.conversationId ∧ row.ownerUserId = snapshot.ownerUserId ∧
      row.exchangeId = snapshot.exchangeId ∧ row.createdAt = snapshot.createdAtUtc ∧
      row.expiresAt = snapshot.expiresAtUtc ∧ row.toolName = snapshot.toolName ∧
      store.snapshotOf row = .ok snapshot := by
  obtain ⟨payload, hpayload, hread⟩ := hdecodes
  unfold ConversationStore.evidenceRecord
  rw [hpayload]
  exact ⟨_, rfl, rfl, rfl, rfl, rfl, rfl, rfl, rfl, hread⟩

theorem Simulates.insertEvidence (h : Simulates store memory v pending)
    {id : Uuid} {snapshot : ConversationEvidenceSnapshot}
    {snapshots : List (Uuid × ConversationEvidenceSnapshot)}
    (hpending : pending.snapshots = (id, snapshot) :: snapshots)
    (howner : memory.owners snapshot.conversationId = some snapshot.ownerUserId) :
    ∃ row, store.evidenceRecord id snapshot = .ok row ∧
      ((Sql.insertEvidence row).alone v).outcome = .ok (1, [.evidence (.put row)]) ∧
      Simulates store (memory.addEvidence snapshot.conversationId snapshot)
        (v.after [.evidence (.put row)]) { pending with snapshots := snapshots } := by
  have hfirst : (id, snapshot) ∈ pending.snapshots := by
    rw [hpending]
    exact List.mem_cons_self
  obtain ⟨row, hrecord, rfl, hconversation, howns, hexchange, htime, hexpiry, htool, hdecodes⟩ :=
    evidenceRecord_eq_ok id (h.evidence.decodes _ hfirst)
  have hfits : row.fits = true := by
    unfold ConversationEvidenceRecord.fits
    rw [htool]
    exact decide_eq_true (h.evidence.fits _ hfirst)
  have hrowOwner : memory.owners row.conversationId = some row.ownerUserId := by
    rw [hconversation, howns, howner]
  have hnew : v.evidence.find? row.id = none := by
    rw [Table.find?_eq_none_iff]
    intro row' hrow' heq
    have hids := h.evidence.ids
    rw [hpending, List.map_cons] at hids
    have hlisted : row.id ∈ v.evidence.rows.map (·.id) := List.mem_map.mpr ⟨row', hrow', heq⟩
    exact (List.nodup_append.mp hids).2.2 row.id hlisted row.id List.mem_cons_self rfl
  have hunique : (v.evidence.rows.any fun other => other.exchangeId = row.exchangeId) = false := by
    rw [List.any_eq_false]
    intro row' hrow' heq
    have hexchanges := h.evidence.exchanges
    rw [hpending, List.map_cons, ← hexchange] at hexchanges
    have hlisted : row.exchangeId ∈ v.evidence.rows.map (·.exchangeId) :=
      List.mem_map.mpr ⟨row', hrow', of_decide_eq_true heq⟩
    exact (List.nodup_append.mp hexchanges).2.2 _ hlisted _ List.mem_cons_self rfl
  have hparent : Memory.hasConversation row.ownerKey v = true := h.hasConversation hrowOwner
  refine ⟨row, hrecord, ?_, ?_, ?_, ?_⟩
  · change (Memory.insertEvidence row v).outcome = _
    unfold Memory.insertEvidence
    simp [hfits, hnew, hunique, hparent]
  · exact h.owners
  · exact {
      owner := h.turns.owner
      state := h.turns.state
      ids := h.turns.ids
      times := h.turns.times }
  · have hrows : (v.after [.evidence (.put row)]).evidence.rows = v.evidence.rows ++ [row] :=
      Table.rows_put_of_find?_eq_none hnew
    rw [hrows, ← hconversation]
    exact h.evidence.append hpending hrowOwner hdecodes hexchange htime hexpiry

theorem after_eraseEvidence (p : ConversationEvidenceRecord → Bool) :
    v.after ((v.evidence.rows.filter p).map (fun row => .evidence (.erase row.id))) =
      { v with evidence := v.evidence.filter (fun row => !p row) } := by
  rw [after_eq, ← Table.applyEdits_erase_filter]
  simp only [List.filterMap_map, Function.comp_def, Change.conversation?, Change.turn?,
    Change.evidence?, Change.memory?, Change.candidate?, List.filterMap_none,
      List.filterMap_eq_map']
  rfl

/-- The in-memory store without the evidence of a conversation. -/
def InMemoryConversationStore.withoutEvidence (memory : InMemoryConversationStore)
    (conversationId : Uuid) : InMemoryConversationStore :=
  { memory with evidence := Function.update memory.evidence conversationId [] }

theorem Simulates.deleteEvidence (h : Simulates store memory v pending)
    (howner : memory.owners conversationId = some ownerUserId) :
    ∃ changes, ((Sql.deleteEvidence conversationId ownerUserId).alone v).outcome =
        .ok ((memory.evidence conversationId).length, changes) ∧
      Simulates store (memory.withoutEvidence conversationId) (v.after changes) pending := by
  have hrows := h.evidenceOf_eq howner
  have hcount : (evidenceOf conversationId ownerUserId v).length =
      (memory.evidence conversationId).length := by
    have hlength := congrArg List.length (h.evidence.evidence conversationId)
    rwa [List.length_map, List.length_map, ← hrows] at hlength
  refine ⟨(evidenceOf conversationId ownerUserId v).map (fun row => .evidence (.erase row.id)),
    ?_, ?_⟩
  · rw [← hcount]
    rfl
  rw [hrows, after_eraseEvidence]
  have hleft : (v.evidence.rows.filter
      (fun row => !decide (row.conversationId = conversationId))).Sublist v.evidence.rows :=
    List.filter_sublist
  refine ⟨h.owners, ⟨h.turns.owner, h.turns.state, h.turns.ids, h.turns.times⟩, ?_⟩
  constructor
  · exact fun row hrow => h.evidence.owner row (hleft.subset hrow)
  · intro other
    unfold InMemoryConversationStore.withoutEvidence Table.filter
    dsimp only
    rw [List.filter_filter]
    by_cases heq : other = conversationId
    · subst heq
      rw [Function.update_self]
      simp
    · rw [Function.update_of_ne heq, ← h.evidence.evidence]
      congr 1
      refine List.filter_congr ?_
      intro row _
      by_cases hrow : row.conversationId = other
      · simp [hrow, heq]
      · simp [hrow]
  · exact h.evidence.ids.sublist ((hleft.map _).append (List.Sublist.refl _))
  · exact h.evidence.exchanges.sublist ((hleft.map _).append (List.Sublist.refl _))
  · exact h.evidence.times.sublist ((hleft.map _).append (List.Sublist.refl _))
  · exact fun row hrow => h.evidence.unexpired row (hleft.subset hrow)
  · exact h.evidence.decodes
  · exact h.evidence.lasts
  · exact h.evidence.fits

end HotAirBalloon.Memory
