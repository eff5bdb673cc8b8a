import HotAirBalloon.Memory.ClosedCalls
import HotAirBalloon.Memory.ShortTermRetention

/-!
# The retention of evidence

An evidence row has an expiry of its own, which the reads respect and no retention run does: the row
goes with its conversation. So a purge leaves expired evidence behind wherever the conversation
stays.
-/

namespace HotAirBalloon.Memory

open Python Library Evidence

/-- `expires_at` is before `now`. -/
def ConversationEvidenceRecord.expired (now : DateTime) (row : ConversationEvidenceRecord) : Bool :=
  row.expiresAt.any (· < now)

/-- No evidence is left that has expired. -/
def EvidenceGone (now : DateTime) (t : Tables) : Prop := ∀ row ∈ t.evidence, row.expired now = false

/-- Evidence has expired only in conversations that a purge would delete. -/
def ExpiredOnlyInStale (job : ShortTermRetentionJob) (now : DateTime) (t : Tables) : Prop :=
  ∀ row ∈ t.evidence, row.expired now = true →
    ∃ conversation ∈ t.conversations, Stale job now t conversation ∧
      conversation.ownerKey = row.ownerKey

theorem Purged.expired_gone_iff {job : ShortTermRetentionJob} {now : DateTime} {t t' : Tables}
    (h : Purged job now t t') : EvidenceGone now t' ↔ ExpiredOnlyInStale job now t := by
  constructor
  · intro hgone row hrow hexpired
    by_contra hnone
    push Not at hnone
    have hleft : row ∈ t'.evidence := (h.evidence row).mpr ⟨hrow, hnone⟩
    rw [hgone row hleft] at hexpired
    cases hexpired
  · intro hstale row hrow
    obtain ⟨hmem, hnone⟩ := (h.evidence row).mp hrow
    by_contra hexpired
    obtain ⟨conversation, hconversation, hidle, hkey⟩ := hstale row hmem (by simpa using hexpired)
    exact hnone conversation hconversation hidle hkey

/-- After any calls, a purge that returns has removed the expired evidence exactly when it had
expired only in conversations that the purge deletes. -/
theorem evidenceGone_iff (components : Components) (calls : List Call) (t : Tables)
    (x : VectorIndex)
    {w : World Unit} (hrun : runAlone components calls (World.idle t x) = some w) (now : DateTime)
    (pattern : FailurePattern) :
    FinishesErasing () pattern (components.shortTermRetention.purgeExpired now) w (fun r w' =>
      ∀ n, r = .ok n → (EvidenceGone now w'.server.committed ↔
        ExpiredOnlyInStale components.shortTermRetention now w.server.committed)) := by
  have hstart : Idle (World.idle t x) := rfl
  have hidle : Idle w := idle_runAlone hstart hrun
  refine (purgeExpired_finishes components.shortTermRetention now hidle.alone).post ?_
  rintro r w' (⟨-, hcommitted, -⟩ | ⟨⟨e, rfl⟩, -⟩) n heq
  · rw [hcommitted]
    exact (purged_purgedTables components.shortTermRetention now _).expired_gone_iff
  · cases heq

/-! ## Evidence of an active conversation -/

/-- Evidence that expires a microsecond after it was stored. -/
def briefSnapshot : ConversationEvidenceSnapshot where
  conversationId := .ofNat 1
  ownerUserId := .ofNat 10
  exchangeId := .ofNat 20
  toolName := "assistant.run"
  evidence := [.actionRequired { evidenceId := "web", action := "Read", reason := "found" }]
  createdAtUtc := 5
  expiresAtUtc := some 6

def briefCalls : List Call := [
  .claimOrValidate (.ofNat 1) (.ofNat 10) 5,
  .appendEvidence briefSnapshot (.ofNat 30)]

def evidenceComponents : Components := .wired .ascii (fun _ => "") id

/-- The world after the calls, and the purge at a later time. -/
def briefRun : Option (World Unit × Except PyError Nat × World Unit) :=
  (runAlone evidenceComponents briefCalls (World.idle .empty .empty)).bind fun w =>
    ((evidenceComponents.shortTermRetention.purgeExpired 7).run exec () .arrives w).map
      fun (r, w') => (w, r, w')

/-- The evidence of the active conversation outlives its expiry. -/
theorem evidence_outlives : ∃ w n w',
    runAlone evidenceComponents briefCalls (World.idle .empty .empty) = some w ∧
    (evidenceComponents.shortTermRetention.purgeExpired 7).run exec () .arrives w =
      some (.ok n, w') ∧ ¬ EvidenceGone 7 w'.server.committed := by
  have hrun : briefRun.any (fun (_, r, w') => r.isOk &&
      w'.server.committed.evidence.rows.any (fun row => row.expired 7)) = true := by
    decide +kernel
  obtain ⟨⟨w, r, w'⟩, hsome, hleft⟩ := (Option.any_eq_true _ _).mp hrun
  obtain ⟨w₀, hcalls, hrest⟩ := Option.bind_eq_some_iff.mp hsome
  obtain ⟨⟨r₀, w₁⟩, hpurge, heq⟩ := Option.map_eq_some_iff.mp hrest
  cases heq
  obtain ⟨hok, hrow⟩ := Bool.and_eq_true_iff.mp hleft
  cases r with
  | error e => cases hok
  | ok n =>
    refine ⟨w, n, w', hcalls, hpurge, fun hgone => ?_⟩
    obtain ⟨row, hmem, hexpired⟩ := List.any_eq_true.mp hrow
    rw [hgone row hmem] at hexpired
    cases hexpired

theorem evidenceGone_iff_brief : ∃ w,
    runAlone evidenceComponents briefCalls (World.idle .empty .empty) = some w ∧
    FinishesErasing () (fun _ => .arrives) (evidenceComponents.shortTermRetention.purgeExpired 7) w
      (fun r w' => ∀ n, r = .ok n → (EvidenceGone 7 w'.server.committed ↔
        ExpiredOnlyInStale evidenceComponents.shortTermRetention 7 w.server.committed)) := by
  have hrun :
      (runAlone evidenceComponents briefCalls (World.idle .empty .empty)).isSome = true := by
    decide +kernel
  obtain ⟨w, hw⟩ := Option.isSome_iff_exists.mp hrun
  exact ⟨w, hw, evidenceGone_iff evidenceComponents briefCalls .empty .empty hw 7 _⟩

end HotAirBalloon.Memory
