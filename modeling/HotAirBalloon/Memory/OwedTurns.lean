import HotAirBalloon.Memory.Isolation
import HotAirBalloon.Memory.LedgerSteps

/-!
# Turns that a session owes

The calls of the store claim a conversation, count their turns and add them under its lock: between
the count and the inserts the session is `Owing`, and it owes nothing when it commits. A session
that writes no conversation and no turn but to delete it is always settled (`WritesNone`).
-/

namespace HotAirBalloon.Memory

open Python Library Evidence

variable {σ : Type} [DecidableEq σ] {store : ConversationStore} {i : σ}

def ledgerRely (store : ConversationStore) (σ : Type) [DecidableEq σ] :
    Rely σ PyError Op Op.Reply Delivery (Ledger σ) where
  exec := ledgerExec
  cond := always
  inv := LedgerInv store
  guar := LedgerGuar

/-! ## Rules -/

section

variable {α β : Type} {P : Ledger σ → Prop} {op : Op}

theorem ledgerTriple {R : Except PyError op.Reply → Ledger σ → Prop}
    (hready : ∀ h, LedgerInv store h → P h → LedgerReady store i op h.world)
    (hR : ∀ h delivery r w', LedgerInv store h → LedgerInv store (h.after i w') → P h →
      exec i op delivery h.world = some (r, w') → R r (h.after i w')) :
    Triple (ledgerRely store σ) i P op R := by
  intro h delivery r h' hinv hP _ hexec
  obtain ⟨⟨r', w'⟩, hexec', heq⟩ := Option.map_eq_some_iff.mp hexec
  cases heq
  obtain ⟨hinv', hguar⟩ := hinv.of_exec (hready h hinv hP) hexec'
  exact ⟨hinv', hguar, hR h delivery r w' hinv hinv' hP hexec'⟩

/-- A statement of which only the reply that arrives is asked. -/
theorem outline_statement {stmt : Sql} {Q : stmt.Reply → Ledger σ → Prop}
    (hstable : ∀ a, Stable (ledgerRely store σ) i (Q a))
    (hready : ∀ h, LedgerInv store h → P h → LedgerReady store i (.sql stmt) h.world)
    (hQ : ∀ h w' a changes, LedgerInv store h → LedgerInv store (h.after i w') → P h →
      (h.world.effect i stmt).outcome = .ok (a, changes) → Executed i stmt h.world w' changes →
        Q a (h.after i w')) :
    Outline (ledgerRely store σ) i P (sql stmt) (okOnly Q) := by
  refine Outline.perform ?_ (ledgerTriple hready ?_)
  · intro r
    cases r with
    | ok a => exact hstable a
    | error e => exact stable_const True
  · intro h delivery r w' hinv hinv' hP hexec
    cases r with
    | error e => trivial
    | ok a =>
      obtain ⟨changes, houtcome, hexecuted⟩ := executed_of_ok hexec
      exact hQ h w' a changes hinv hinv' hP houtcome hexecuted

/-- A session is closed whatever its body has done. -/
theorem outline_ledgerSession {body : Action α}
    (h : Outline (ledgerRely store σ) i P body (fun _ _ => True)) :
    Outline (ledgerRely store σ) i P (inSession body) (fun _ _ => True) := by
  refine outline_closing h (fun _ => Outline.perform (fun _ => stable_const True) ?_)
  exact ledgerTriple (fun _ _ _ => trivial) (fun _ _ _ _ _ _ _ _ => trivial)

/-- A transaction commits when it is settled. -/
theorem outline_ledgerTransaction {body : Action α} {Q : α → Ledger σ → Prop}
    (h : Outline (ledgerRely store σ) i P body (okOnly Q))
    (hsettled : ∀ a h, LedgerInv store h → Q a h → Settled i h.world) :
    Outline (ledgerRely store σ) i P (transaction body) (fun _ _ => True) := by
  refine outline_ledgerSession (h.bind (fun a => ?_) (fun _ _ _ _ => trivial))
  have hcommit : Outline (ledgerRely store σ) i (Q a) (send .commit) (fun _ _ => True) :=
    Outline.perform (fun _ => stable_const True)
      (ledgerTriple (hsettled a) (fun _ _ _ _ _ _ _ _ => trivial))
  exact hcommit.bind (fun _ => Outline.pure (fun _ _ _ => trivial)) (fun _ _ _ _ => trivial)

end

/-! ## Calls that write no row -/

/-- A session has written no conversation and no turn, except to delete it. -/
structure WritesNone (i : σ) (h : Ledger σ) : Prop where
  conversations : ∀ row, Change.conversation (.put row) ∉ h.world.server.changes i
  turns : ∀ turn, Change.turn (.put turn) ∉ h.world.server.changes i

omit [DecidableEq σ] in
theorem WritesNone.of_nil {h : Ledger σ} (hnil : h.world.server.changes i = []) :
    WritesNone i h := by
  refine ⟨?_, ?_⟩
  · rw [hnil]
    exact fun _ => List.not_mem_nil
  · rw [hnil]
    exact fun _ => List.not_mem_nil

omit [DecidableEq σ] in
theorem WritesNone.settled {h : Ledger σ} (hnone : WritesNone i h) : Settled i h.world := by
  intro k _
  refine Ahead.of_committed ?_ ?_
  · intro row hrow _
    exact (mem_visible_conversations hrow).resolve_left (hnone.conversations row)
  · intro turn hturn _
    exact (mem_visible_turns hturn).resolve_left (hnone.turns turn)

theorem stable_ledgerChanges {P : List Change → Prop} :
    Stable (ledgerRely store σ) i (fun h => P (h.world.server.changes i)) := by
  intro h h' j hji _ _ hguar hP
  rw [hguar.session.changes i (Ne.symm hji)]
  exact hP

theorem WritesNone.stable : Stable (ledgerRely store σ) i (WritesNone i) := by
  intro h h' j hji hinv hinv' hguar hnone
  have hchanges := hguar.session.changes i (Ne.symm hji)
  refine ⟨?_, ?_⟩
  · rw [hchanges]
    exact hnone.conversations
  · rw [hchanges]
    exact hnone.turns

/-- Calls that write no conversation and no turn, except to delete it. -/
def WritesNoRow : Op → Prop
  | .sql (.claimConversation ..) | .sql (.advanceConversation ..) | .sql (.closeConversation ..)
  | .sql (.markConsolidated ..) | .sql (.insertTurn ..) | .sql (.updateTurnExpiry ..) => False
  | _ => True

theorem writesNoRow_of_background {op : Op} (h : Background op) : WritesNoRow op := by
  cases op with
  | sql stmt => cases stmt <;> trivial
  | _ => trivial

theorem put_not_mem {stmt : Sql} {locked : LockKey → LockMode → Bool} {t : Tables} {a : stmt.Reply}
    {changes : List Change} (h : (stmt.effect locked t).outcome = .ok (a, changes))
    (hstmt : WritesNoRow (.sql stmt)) :
    (∀ row, Change.conversation (.put row) ∉ changes) ∧ ∀ turn,
      Change.turn (.put turn) ∉ changes := by
  constructor
  · intro row hmem
    have hkind := kind_mem_writes h _ hmem
    cases stmt with
    | deleteConversations ids =>
      rw [changes_writeEffect h] at hmem
      simp at hmem
    | claimConversation | advanceConversation | closeConversation | markConsolidated =>
      exact hstmt.elim
    | _ => simp [Sql.writes, Change.kind] at hkind
  · intro turn hmem
    cases turnEdit h hmem with
    | insert => exact hstmt.elim
    | expiry mem => exact hstmt.elim

theorem WritesNone.of_exec {h : Ledger σ} {op : Op} (hnone : WritesNone i h) (hop : WritesNoRow op)
    {delivery : Delivery} {reply : Except PyError op.Reply} {w' : World σ}
    (hexec : exec i op delivery h.world = some (reply, w')) : WritesNone i (h.after i w') := by
  have hof : ∀ changes, w'.server.changes i = h.world.server.changes i ++ changes →
      (∀ row, Change.conversation (.put row) ∉ changes) →
      (∀ turn, Change.turn (.put turn) ∉ changes) → WritesNone i (h.after i w') := by
    intro changes heq hconversations hturns
    refine ⟨?_, ?_⟩
    · intro row hmem
      have hmem' : Change.conversation (.put row) ∈ w'.server.changes i := hmem
      rw [heq] at hmem'
      rcases List.mem_append.mp hmem' with hold | hnew
      · exact hnone.conversations row hold
      · exact hconversations row hnew
    · intro turn hmem
      have hmem' : Change.turn (.put turn) ∈ w'.server.changes i := hmem
      rw [heq] at hmem'
      rcases List.mem_append.mp hmem' with hold | hnew
      · exact hnone.turns turn hold
      · exact hturns turn hnew
  rcases server_cases hexec with hserver | ⟨stmt, changes, rfl, hexecuted⟩ | ⟨rfl, hserver⟩ |
    ⟨rfl, hserver⟩
  · refine hof [] ?_ (fun _ => List.not_mem_nil) (fun _ => List.not_mem_nil)
    rw [hserver, List.append_nil]
  · obtain ⟨a, houtcome⟩ := hexecuted.outcome
    obtain ⟨hconversations, hturns⟩ := put_not_mem houtcome hop
    refine hof changes ?_ hconversations hturns
    rw [hexecuted.changes_eq, Function.update_self]
  · refine WritesNone.of_nil ?_
    show w'.server.changes i = []
    rw [hserver]
    exact Function.update_self ..
  · refine WritesNone.of_nil ?_
    show w'.server.changes i = []
    rw [hserver]
    exact Function.update_self ..

theorem outline_writesNone {α : Type} {p : Action α} (hp : p.Calls WritesNoRow) :
    Outline (ledgerRely store σ) i (WritesNone i) p (fun _ => WritesNone i) := by
  refine Outline.of_calls_keeping WritesNone.stable ?_ hp
  intro op hop
  refine ledgerTriple ?_ (fun h delivery r w' _ _ hnone hexec => hnone.of_exec hop hexec)
  intro h _ hnone
  cases op with
  | sql stmt =>
    cases stmt with
    | insertTurn row => exact hop.elim
    | updateTurnExpiry id expiresAt => exact hop.elim
    | _ => trivial
  | commit => exact hnone.settled
  | _ => trivial

/-! ## Turns that are owed -/

/-- A session has locked a conversation, has written no other, and owes it some turns. -/
structure Owing (i : σ) (k : Uuid) (n : Int) (h : Ledger σ) : Prop where
  writes : h.world.server.Writes i (.conversation k)
  conversations : ∀ row, Change.conversation (.put row) ∈ h.world.server.changes i → row.id = k
  turns : ∀ turn, Change.turn (.put turn) ∈ h.world.server.changes i → turn.conversationId = k
  kept : ∀ id, Change.turn (.erase id) ∉ h.world.server.changes i
  ahead : Ahead k n h.tables (h.world.visible i)

/-- A session sees a conversation that was touched at a time, or later. -/
def Touched (i : σ) (k : Uuid) (touchedAt : DateTime) (h : Ledger σ) : Prop :=
  ∀ row ∈ (h.world.visible i).conversations, row.id = k → touchedAt ≤ row.lastTurnAt

section

variable {k : Uuid} {n : Int} {touchedAt : DateTime} {h : Ledger σ} {w' : World σ}

omit [DecidableEq σ] in
theorem Owing.settled (howing : Owing i k 0 h) : Settled i h.world := by
  intro k' _
  by_cases hk : k' = k
  · subst hk
    exact howing.ahead
  · refine Ahead.of_committed ?_ ?_
    · intro row hrow hid
      refine (mem_visible_conversations hrow).resolve_left (fun hput => hk ?_)
      exact hid.symm.trans (howing.conversations row hput)
    · intro turn hturn hconversation
      refine (mem_visible_turns hturn).resolve_left (fun hput => hk ?_)
      exact hconversation.symm.trans (howing.turns turn hput)

theorem Owing.stable : Stable (ledgerRely store σ) i (Owing i k n) := by
  intro h h' j hji _ _ hguar howing
  have hchanges := hguar.session.changes i (Ne.symm hji)
  refine ⟨?_, ?_, ?_, ?_, ?_⟩
  · exact hguar.session.writes i (Ne.symm hji) _ howing.writes
  · rw [hchanges]
    exact howing.conversations
  · rw [hchanges]
    exact howing.turns
  · rw [hchanges]
    exact howing.kept
  · exact hguar.ahead i (Ne.symm hji) k n howing.writes howing.ahead

/-- The lock keeps the row that was touched. -/
theorem stable_touched :
    Stable (ledgerRely store σ) i (fun h => Owing i k n h ∧ Touched i k touchedAt h) := by
  rintro h h' j hji hinv hinv' hguar ⟨howing, htouched⟩
  refine ⟨Owing.stable h h' j hji hinv hinv' hguar howing, ?_⟩
  rintro row hrow rfl
  refine htouched row ?_ rfl
  unfold World.visible Server.visible at hrow ⊢
  rw [conversations_applyAll] at hrow ⊢
  rw [hguar.session.changes i (Ne.symm hji)] at hrow
  exact (Table.mem_applyEdits_congr
    (hguar.session.conversations i (Ne.symm hji) row howing.writes)).mp hrow

/-- A statement that writes no conversation and no turn. -/
theorem Owing.of_quiet {stmt : Sql} {changes : List Change}
    (howing : Owing i k n h ∧ Touched i k touchedAt h)
    (hexecuted : Executed i stmt h.world w' changes)
    (hconversations : RowKind.conversation ∉ stmt.writes) (hturns : RowKind.turn ∉ stmt.writes) :
    Owing i k n (h.after i w') ∧ Touched i k touchedAt (h.after i w') := by
  obtain ⟨howing, htouched⟩ := howing
  obtain ⟨a, houtcome⟩ := hexecuted.outcome
  have hsameConversations : (w'.visible i).conversations = (h.world.visible i).conversations := by
    rw [hexecuted.visible]
    exact conversations_of_quiet houtcome hconversations
  have hsameTurns : (w'.visible i).turns = (h.world.visible i).turns := by
    rw [hexecuted.visible]
    exact turns_of_quiet houtcome hturns
  have hold : ∀ change ∈ w'.server.changes i, change.kind = .conversation ∨ change.kind = .turn →
      change ∈ h.world.server.changes i := by
    intro change hchange hkind
    rw [hexecuted.changes_eq, Function.update_self] at hchange
    refine (List.mem_append.mp hchange).resolve_right (fun hnew => ?_)
    have hwritten := kind_mem_writes houtcome change hnew
    rcases hkind with heq | heq
    · rw [heq] at hwritten
      exact hconversations hwritten
    · rw [heq] at hwritten
      exact hturns hwritten
  refine ⟨⟨hexecuted.keeps_writes howing.writes, ?_, ?_, ?_, ?_⟩, ?_⟩
  · exact fun row hput => howing.conversations row (hold _ hput (Or.inl rfl))
  · exact fun turn hput => howing.turns turn (hold _ hput (Or.inr rfl))
  · exact fun id herase => howing.kept id (hold _ herase (Or.inr rfl))
  · show Ahead k n w'.server.committed (w'.visible i)
    rw [hexecuted.committed]
    refine howing.ahead.of_turns_eq hsameTurns ?_
    intro row _
    rw [hsameConversations]
  · intro row hrow hid
    have hrow' : row ∈ (w'.visible i).conversations := hrow
    rw [hsameConversations] at hrow'
    exact htouched row hrow' hid

end

/-! ### The statements of the store -/

section

variable {t : Tables} {c u id : Uuid} {changes : List Change}

theorem outcome_claim {observedAt : DateTime}
    (h : (claimConversation c u observedAt t).outcome = .ok (some id, changes)) :
    ∃ row, row.id = c ∧ changes = [.conversation (.put row)] ∧
      (row ∈ t.conversations ∨ ((∀ old ∈ t.conversations, old.id ≠ c) ∧ row.turnCount = 0)) := by
  unfold claimConversation at h
  cases hrow : t.conversations.find? c with
  | none =>
    rw [hrow] at h
    cases h
    exact ⟨_, rfl, rfl, Or.inr ⟨Table.find?_eq_none_iff.mp hrow, rfl⟩⟩
  | some row =>
    rw [hrow] at h
    dsimp only at h
    obtain ⟨hmem, hid⟩ := Table.find?_eq_some_iff.mp hrow
    split at h
    · cases h
      exact ⟨row, hid, rfl, Or.inl hmem⟩
    · cases h

theorem outcome_updateConversation
    {set : AssistantConversationRecord → AssistantConversationRecord}
    (h : (updateConversation c u set t).outcome = .ok (some id, changes)) :
    ∃ row ∈ t.conversations, row.id = c ∧ changes = [.conversation (.put (set row))] := by
  unfold updateConversation at h
  cases hrow : ownedConversation c u t with
  | none =>
    rw [hrow] at h
    cases h
  | some row =>
    rw [hrow] at h
    cases h
    obtain ⟨hfind, -⟩ := Option.filter_eq_some_iff.mp hrow
    obtain ⟨hmem, hid⟩ := Table.find?_eq_some_iff.mp hfind
    exact ⟨row, hmem, hid, rfl⟩

/-- A row that is created counts no turn. -/
theorem Ahead.created {t' : Tables} {row : AssistantConversationRecord}
    (habsent : ∀ old ∈ t.conversations, old.id ≠ row.id) (hcount : row.turnCount = 0)
    (hconversations : t'.conversations = t.conversations.put row) (hturns : t'.turns = t.turns) :
    Ahead row.id 0 t t' := by
  have hnone : newTurns row.id t t' = [] := by
    apply newTurns_eq_nil
    intro turn hturn _
    rwa [hturns] at hturn
  have honly : ∀ found ∈ t'.conversations, found.id = row.id → found = row := by
    intro found hfound hid
    rw [hconversations] at hfound
    rcases Table.mem_put.mp hfound with heq | ⟨-, hne⟩
    · exact heq
    · exact absurd hid hne
  refine ⟨?_, ?_, ?_⟩
  · intro found hfound hid
    have hzero : turnCountOf row.id t = 0 := by
      unfold turnCountOf
      rw [Table.find?_eq_none_iff.mpr habsent]
      rfl
    rw [honly found hfound hid, hcount, hnone, hzero]
    rfl
  · intro found _ _ turn hturn
    rw [hnone] at hturn
    cases hturn
  · intro found _ _ old hold hid
    exact absurd hid (habsent old hold)

end

section

variable {k c u : Uuid} {n : Int} {touchedAt : DateTime} {α : Type} {P : Ledger σ → Prop}

theorem outline_ledgerRow {p : Action (Option Uuid)} {Q : Ledger σ → Prop}
    (h : Outline (ledgerRely store σ) i P p (okOnly fun row h => ∀ id, row = some id → Q h)) :
    Outline (ledgerRely store σ) i P (p >>= requireRow) (okOnly fun _ => Q) := by
  refine h.bindOk (fun row => ?_)
  cases row with
  | none => exact Outline.raise (fun _ _ _ => trivial)
  | some id => exact Outline.pure (fun _ _ hQ => hQ id rfl)

/-- A postcondition of one reply. -/
theorem stable_ofRow {row : Option Uuid} {Q : Ledger σ → Prop}
    (hQ : Stable (ledgerRely store σ) i Q) :
    Stable (ledgerRely store σ) i (fun h => ∀ id, row = some id → Q h) := by
  intro h h' j hji hinv hinv' hguar hP id hrow
  exact hQ h h' j hji hinv hinv' hguar (hP id hrow)

/-- A session has written its conversation once more. -/
theorem owing_of_put {stmt : Sql} {h : Ledger σ} {w' : World σ} {row : AssistantConversationRecord}
    (hexecuted : Executed i stmt h.world w' [.conversation (.put row)]) (hid : row.id = k)
    (hwrites : w'.server.Writes i (.conversation k))
    (hconversations : ∀ old, Change.conversation (.put old) ∈ h.world.server.changes i → old.id = k)
    (hturns : ∀ turn, Change.turn (.put turn) ∈ h.world.server.changes i → turn.conversationId = k)
    (hkept : ∀ id, Change.turn (.erase id) ∉ h.world.server.changes i)
    (hahead : Ahead k n h.tables (afterChanges [.conversation (.put row)] (h.world.visible i))) :
    Owing i k n (h.after i w') := by
  have hmem : ∀ change ∈ (h.after i w').world.server.changes i,
      change ∈ h.world.server.changes i ∨ change = .conversation (.put row) := by
    intro change hchange
    have hchange' : change ∈ w'.server.changes i := hchange
    rw [hexecuted.changes_eq, Function.update_self] at hchange'
    exact (List.mem_append.mp hchange').imp_right List.mem_singleton.mp
  refine ⟨hwrites, ?_, ?_, ?_, ?_⟩
  · intro old hput
    rcases hmem _ hput with hold | heq
    · exact hconversations old hold
    · cases heq
      exact hid
  · intro turn hput
    rcases hmem _ hput with hold | heq
    · exact hturns turn hold
    · cases heq
  · intro id herase
    rcases hmem _ herase with hold | heq
    · exact hkept id hold
    · cases heq
  · show Ahead k n w'.server.committed (w'.visible i)
    rw [hexecuted.committed, hexecuted.visible]
    exact hahead

/-- The claim is the first statement of its transaction. -/
theorem outline_ledgerClaim (c u : Uuid) (observedAt : DateTime) :
    Outline (ledgerRely store σ) i (fun h => h.world.server.changes i = [])
      (ConversationStore.claimOrValidateIn c u observedAt) (okOnly fun _ => Owing i c 0) := by
  refine outline_ledgerRow (outline_statement (fun _ => stable_ofRow Owing.stable)
    (fun _ _ _ => trivial) ?_)
  intro h w' found changes _ _ hnil houtcome hexecuted id hfound
  subst hfound
  obtain ⟨row, rfl, rfl, hcases⟩ := outcome_claim houtcome
  obtain ⟨mode, hlock, hmode⟩ := lock_of_claim
  refine owing_of_put hexecuted rfl (hexecuted.writes hlock hmode) ?_ ?_ ?_ ?_
  · rw [hnil]
    exact fun _ hput => absurd hput List.not_mem_nil
  · rw [hnil]
    exact fun _ hput => absurd hput List.not_mem_nil
  · rw [hnil]
    exact fun _ => List.not_mem_nil
  · rw [visible_of_nil hnil] at hcases ⊢
    rcases hcases with hmem | ⟨habsent, hcount⟩
    · refine Ahead.of_committed ?_ (fun turn hturn _ => hturn)
      intro found hfound _
      rcases Table.mem_put.mp hfound with rfl | ⟨hold, -⟩
      · exact hmem
      · exact hold
    · exact Ahead.created habsent hcount rfl rfl

theorem le_advanced (touchedAt : DateTime) (n : Int) (row : AssistantConversationRecord) :
    row.lastTurnAt ≤ (advanced touchedAt n row).lastTurnAt ∧
      touchedAt ≤ (advanced touchedAt n row).lastTurnAt := by
  show row.lastTurnAt ≤ (if row.lastTurnAt < touchedAt then touchedAt else row.lastTurnAt) ∧
    touchedAt ≤ (if row.lastTurnAt < touchedAt then touchedAt else row.lastTurnAt)
  by_cases hlt : row.lastTurnAt < touchedAt
  · rw [if_pos hlt]
    exact ⟨hlt.le, le_refl _⟩
  · rw [if_neg hlt]
    exact ⟨le_refl _, not_lt.mp hlt⟩

/-- Turns are counted before they are added. -/
theorem outline_ledgerAdvance (c u : Uuid) (touchedAt : DateTime) (n : Int) :
    Outline (ledgerRely store σ) i (Owing i c 0)
      (ConversationStore.advanceConversation c u touchedAt n)
      (okOnly fun _ h => Owing i c n h ∧ Touched i c touchedAt h) := by
  refine outline_ledgerRow (outline_statement (fun _ => stable_ofRow stable_touched)
    (fun _ _ _ => trivial) ?_)
  intro h w' found changes _ _ howing houtcome hexecuted id hfound
  subst hfound
  obtain ⟨row, hrow, rfl, rfl⟩ := outcome_updateConversation houtcome
  obtain ⟨hlater, htouched⟩ := le_advanced touchedAt n row
  have hahead : Ahead row.id (0 + n) h.tables
      (afterChanges [.conversation (.put (advanced touchedAt n row))] (h.world.visible i)) :=
    howing.ahead.put (advanced touchedAt n row) hrow rfl rfl hlater rfl rfl
  rw [zero_add] at hahead
  refine ⟨owing_of_put hexecuted rfl (hexecuted.keeps_writes howing.writes) howing.conversations
    howing.turns howing.kept hahead, ?_⟩
  intro seen hseen hid
  have hseen' : seen ∈ (w'.visible i).conversations := hseen
  rw [hexecuted.visible] at hseen'
  rcases Table.mem_put.mp hseen' with rfl | ⟨-, hne⟩
  · exact htouched
  · exact absurd hid hne

theorem outline_ledgerInsert {row : ConversationTurnRecord} (hexpires : store.Expires row)
    (hcreated : row.createdAt ≤ touchedAt) :
    Outline (ledgerRely store σ) i
      (fun h => Owing i row.conversationId (n + 1) h ∧ Touched i row.conversationId touchedAt h)
      (sql (.insertTurn row))
      (okOnly fun _ h =>
        Owing i row.conversationId n h ∧ Touched i row.conversationId touchedAt h) := by
  refine outline_statement (fun _ => stable_touched) ?_ ?_
  · rintro h _ ⟨howing, -⟩
    exact ⟨howing.writes, hexpires, howing.kept⟩
  · rintro h w' _ changes _ hinv' ⟨howing, htouched⟩ houtcome hexecuted
    obtain ⟨rfl, hnew⟩ := outcome_insertTurn houtcome
    have hchanges : w'.server.changes i = h.world.server.changes i ++ [.turn (.put row)] := by
      rw [hexecuted.changes_eq, Function.update_self]
    have hmem : ∀ change ∈ (h.after i w').world.server.changes i,
        change ∈ h.world.server.changes i ∨ change = .turn (.put row) := by
      intro change hchange
      have hchange' : change ∈ w'.server.changes i := hchange
      rw [hchanges] at hchange'
      exact (List.mem_append.mp hchange').imp_right List.mem_singleton.mp
    have hfresh : row.id ∉ turnIds row.conversationId h.tables := by
      intro hid
      obtain ⟨old, hold, -, heq⟩ := mem_turnIds.mp hid
      have hput : Change.turn (.put row) ∈ w'.server.changes i := by
        rw [hchanges]
        exact List.mem_append_right _ List.mem_cons_self
      refine (LedgerInv.sessions hinv' i).fresh row hput old ?_ heq
      show old ∈ w'.server.committed.turns
      rw [hexecuted.committed]
      exact hold
    refine ⟨⟨hexecuted.keeps_writes howing.writes, ?_, ?_, ?_, ?_⟩, ?_⟩
    · intro old hput
      rcases hmem _ hput with hold | heq
      · exact howing.conversations old hold
      · cases heq
    · intro turn hput
      rcases hmem _ hput with hold | heq
      · exact howing.turns turn hold
      · cases heq
        rfl
    · intro id herase
      rcases hmem _ herase with hold | heq
      · exact howing.kept id hold
      · cases heq
    · show Ahead row.conversationId n w'.server.committed (w'.visible i)
      rw [hexecuted.committed, hexecuted.visible]
      refine howing.ahead.insert hnew hfresh ?_ rfl rfl
      exact fun seen hseen hid => hcreated.trans (htouched seen hseen hid)
    · intro seen hseen hid
      have hseen' : seen ∈ (w'.visible i).conversations := hseen
      rw [hexecuted.visible] at hseen'
      exact htouched seen hseen' hid

end

/-! ### The operations of the store -/

section

variable {α : Type}

theorem expires_turnRecord (id conversationId ownerUserId : Uuid) (turn : ConversationTurn) :
    store.Expires (store.turnRecord id conversationId ownerUserId turn) := rfl

theorem outline_ledgerClaimOrValidate (conversationId ownerUserId : Uuid) (observedAt : DateTime) :
    Outline (ledgerRely store σ) i (fun h => h.world.server.changes i = [])
      (ConversationStore.claimOrValidate conversationId ownerUserId observedAt) (fun _ _ => True) :=
  outline_ledgerTransaction (outline_ledgerClaim _ _ _) (fun _ _ _ howing => howing.settled)

theorem outline_ledgerAppend (conversationId ownerUserId turnId : Uuid) (turn : ConversationTurn) :
    Outline (ledgerRely store σ) i (fun h => h.world.server.changes i = [])
      (store.append conversationId turn ownerUserId turnId) (fun _ _ => True) := by
  have hinsert := @outline_ledgerInsert σ _ store i 0 turn.createdAtUtc
    (store.turnRecord turnId conversationId ownerUserId turn) (expires_turnRecord ..) (le_refl _)
  refine outline_ledgerTransaction (Q := fun _ => Owing i conversationId 0) ?_
    (fun _ _ _ howing => howing.settled)
  refine (outline_ledgerClaim _ _ _).bindOk (fun _ => ?_)
  refine (outline_ledgerAdvance _ _ _ _).bindOk (fun _ => ?_)
  refine hinsert.bindOk (fun _ => Outline.pure ?_)
  exact fun _ _ howing => howing.1

theorem outline_ledgerEvidence {k : Uuid} {n : Int} {touchedAt : DateTime}
    (evidenceRow : Option ConversationEvidenceRecord) :
    Outline (ledgerRely store σ) i (fun h => Owing i k n h ∧ Touched i k touchedAt h)
      (ConversationStore.insertEvidence? evidenceRow) (okOnly fun _ => Owing i k n) := by
  cases evidenceRow with
  | none => exact Outline.pure (fun _ _ howing => howing.1)
  | some row =>
    have hinsert : Outline (ledgerRely store σ) i (fun h => Owing i k n h ∧ Touched i k touchedAt h)
        (sql (.insertEvidence row)) (okOnly fun _ => fun h =>
            Owing i k n h ∧ Touched i k touchedAt h) := by
      refine outline_statement (fun _ => stable_touched) (fun _ _ _ => trivial) ?_
      intro h w' _ changes _ _ howing _ hexecuted
      exact Owing.of_quiet howing hexecuted (by simp [Sql.writes]) (by simp [Sql.writes])
    exact hinsert.bindOk (fun _ => Outline.pure (fun _ _ howing => howing.1))

theorem outline_ledgerExchange (conversationId ownerUserId : Uuid)
    (userTurn assistantTurn : ConversationTurn) (evidence : Option ConversationEvidenceSnapshot)
    (userTurnId assistantTurnId evidenceId : Uuid)
    (horder : userTurn.createdAtUtc ≤ assistantTurn.createdAtUtc) :
    Outline (ledgerRely store σ) i (fun h => h.world.server.changes i = [])
      (store.appendCompletedExchange conversationId ownerUserId userTurn assistantTurn evidence
        userTurnId assistantTurnId evidenceId) (fun _ _ => True) := by
  have hfirst := @outline_ledgerInsert σ _ store i 1 assistantTurn.createdAtUtc
    (store.turnRecord userTurnId conversationId ownerUserId userTurn) (expires_turnRecord ..) horder
  have hsecond := @outline_ledgerInsert σ _ store i 0 assistantTurn.createdAtUtc
    (store.turnRecord assistantTurnId conversationId ownerUserId assistantTurn)
    (expires_turnRecord ..) (le_refl _)
  unfold ConversationStore.appendCompletedExchange
  split
  · exact Outline.raise (fun _ _ _ => trivial)
  refine outline_ledgerTransaction (Q := fun _ => Owing i conversationId 0) ?_
    (fun _ _ _ howing => howing.settled)
  refine (outline_ledgerClaim _ _ _).bindOk (fun _ => ?_)
  refine Outline.bindOk (Q := fun _ => Owing i conversationId 0)
    (Outline.ofExcept ?_) (fun evidenceRow => ?_)
  · intro h _ howing
    cases store.evidenceRecord? evidenceId evidence with
    | ok evidenceRow => exact howing
    | error e => trivial
  refine (outline_ledgerAdvance _ _ _ _).bindOk (fun _ => ?_)
  exact hfirst.bindOk (fun _ => hsecond.bindOk (fun _ => outline_ledgerEvidence evidenceRow))

/-- A turn that expires when it should is not flushed. -/
theorem newExpiries_eq_nil {rows : List ConversationTurnRecord}
    (h : ∀ row ∈ rows, store.Expires row) : store.newExpiries rows = [] := by
  unfold ConversationStore.newExpiries
  rw [List.filterMap_eq_nil_iff]
  rintro ⟨row, expiresAt⟩ hmem
  obtain ⟨row', hrow, heq⟩ := List.mem_map.mp hmem
  cases heq
  exact if_pos (h row hrow)

theorem outline_ledgerClose (conversationId ownerUserId : Uuid) (now : DateTime) :
    Outline (ledgerRely store σ) i (fun h => h.world.server.changes i = [])
      (store.closeConversation conversationId ownerUserId now) (fun _ _ => True) := by
  have hnil : ∀ {stmt : Sql} {h : Ledger σ} {w' : World σ}, h.world.server.changes i = [] →
      Executed i stmt h.world w' [] → (h.after i w').world.server.changes i = [] := by
    intro stmt h w' hempty hexecuted
    show w'.server.changes i = []
    rw [hexecuted.changes_eq, Function.update_self, hempty, List.append_nil]
  refine outline_ledgerTransaction (Q := fun _ => Owing i conversationId 0) ?_
    (fun _ _ _ howing => howing.settled)
  have howner : Outline (ledgerRely store σ) i (fun h => h.world.server.changes i = [])
      (ConversationStore.requireOwner conversationId ownerUserId)
      (okOnly fun _ h => h.world.server.changes i = []) := by
    refine outline_ledgerRow (outline_statement
      (fun _ => stable_ofRow (stable_ledgerChanges (P := (· = [])))) (fun _ _ _ => trivial) ?_)
    intro h w' found changes _ _ hempty houtcome hexecuted id _
    cases changes_readEffect houtcome
    exact hnil hempty hexecuted
  refine howner.bindOk (fun _ => ?_)
  have hselect : Outline (ledgerRely store σ) i (fun h => h.world.server.changes i = [])
      (sql (.selectTurns conversationId ownerUserId))
      (okOnly fun rows h => h.world.server.changes i = [] ∧ store.newExpiries rows = []) := by
    refine outline_statement
      (fun rows => (stable_ledgerChanges (P := (· = []))).and (stable_const _))
      (fun _ _ _ => trivial) ?_
    intro h w' rows changes hinv _ hempty houtcome hexecuted
    cases houtcome
    refine ⟨hnil hempty hexecuted, newExpiries_eq_nil ?_⟩
    intro row hrow
    have hseen : row ∈ (h.world.visible i).turns := (List.mem_filter.mp hrow).1
    rw [visible_of_nil hempty] at hseen
    exact (LedgerInv.exact hinv).expires row hseen
  refine hselect.bindOk (fun rows => ?_)
  have hclose : Outline (ledgerRely store σ) i
      (fun h => h.world.server.changes i = [] ∧ store.newExpiries rows = [])
      (sql (.closeConversation conversationId ownerUserId now))
      (okOnly fun found h => ∀ id, found = some id →
        Owing i conversationId 0 h ∧ store.newExpiries rows = []) := by
    refine outline_statement (fun _ => stable_ofRow (Owing.stable.and (stable_const _)))
      (fun _ _ _ => trivial) ?_
    rintro h w' found changes _ _ ⟨hempty, hnone⟩ houtcome hexecuted id hfound
    subst hfound
    have hlock := lock_of_updateConversation houtcome
    obtain ⟨row, hrow, rfl, rfl⟩ := outcome_updateConversation houtcome
    have hcommitted : Ahead row.id 0 h.tables (h.world.visible i) := by
      rw [visible_of_nil hempty]
      exact Ahead.of_committed (fun _ hmem _ => hmem) (fun _ hmem _ => hmem)
    have hahead : Ahead row.id (0 + 0) h.tables (afterChanges
        [.conversation (.put { row with closedAt := some now })] (h.world.visible i)) :=
      hcommitted.put { row with closedAt := some now } hrow rfl (add_zero _).symm
        (le_refl _) rfl rfl
    refine ⟨owing_of_put hexecuted rfl (hexecuted.writes hlock (by decide)) ?_ ?_ ?_ hahead, hnone⟩
    · rw [hempty]
      exact fun _ hput => absurd hput List.not_mem_nil
    · rw [hempty]
      exact fun _ hput => absurd hput List.not_mem_nil
    · rw [hempty]
      exact fun _ => List.not_mem_nil
  refine hclose.bindOk (fun found => ?_)
  cases found with
  | none => exact Outline.raise (fun _ _ _ => trivial)
  | some id =>
    have hdone : ∀ body : Uuid × DateTime → Action Unit, store.newExpiries rows = [] →
        Outline (ledgerRely store σ) i
          (fun h => ∀ id', some id = some id' →
            Owing i conversationId 0 h ∧ store.newExpiries rows = [])
          (Prog.forEach (store.newExpiries rows) body)
              (okOnly fun _ => Owing i conversationId 0) := by
      intro body hnone
      rw [hnone]
      exact Outline.pure (fun h _ hfound => (hfound id rfl).1)
    exact Outline.assume (fun h _ hfound => (hfound id rfl).2) (hdone _)

end

end HotAirBalloon.Memory
