import HotAirBalloon.Gateway.Domain
import HotAirBalloon.User.ConsistencyAudit

/-!
# The audit tool and its adapter

The presenter counts the findings of a report by severity and the adapter counts them again before
it makes evidence of them. Whatever the users and the command are, the adapter takes what the
presenter makes (`audit_adapted`).
-/

namespace HotAirBalloon.Users

open Python Kernel Gateway

/-! ## Contracts -/

def toolUsersConsistencyAuditorV1 : String := "users.consistency_auditor.run.v1"

inductive UserConsistencyCheck where
  | duplicateNormalizedEmail
  | invalidDisplayNameLength
  | createdAtInFuture
  | updatedBeforeCreated
  | statusDeactivationMismatch
  | verifiedBeforeCreated
  | lastLoginBeforeCreated

def UserConsistencyCheck.value : UserConsistencyCheck → String
  | duplicateNormalizedEmail => "duplicate_normalized_email"
  | invalidDisplayNameLength => "invalid_display_name_length"
  | createdAtInFuture => "created_at_in_future"
  | updatedBeforeCreated => "updated_before_created"
  | statusDeactivationMismatch => "status_deactivation_mismatch"
  | verifiedBeforeCreated => "verified_before_created"
  | lastLoginBeforeCreated => "last_login_before_created"

def ConsistencySeverity.value : ConsistencySeverity → String
  | critical => "critical"
  | high => "high"
  | medium => "medium"
  | low => "low"

inductive ConsistencyToolResultCode where
  | ok
  | issuesFound
  | failed
  deriving DecidableEq

def ConsistencyToolResultCode.value : ConsistencyToolResultCode → String
  | ok => "ok"
  | issuesFound => "issues_found"
  | failed => "failed"

structure UserConsistencyFinding where
  checkId : String
  severity : ConsistencySeverity
  userId : Option Uuid
  message : String
  evidence : Dict Value

structure UserConsistencySeverityTotals where
  critical : Int := 0
  high : Int := 0
  medium : Int := 0
  low : Int := 0

structure UserConsistencyAuditorOutput where
  toolName : String := toolUsersConsistencyAuditorV1
  runId : Uuid
  resultCode : ConsistencyToolResultCode
  generatedAtUtc : DateTime
  totalUsers : Int
  checksExecuted : Int
  issuesTotal : Int
  issuesBySeverity : UserConsistencySeverityTotals
  findings : List UserConsistencyFinding

/-- An output model, of which the adapter knows one. -/
inductive OutputOfTool where
  | userConsistencyAuditor (output : UserConsistencyAuditorOutput)
  | other

/-- A validated payload of the tool, with the checks that it selects. -/
structure AuditPayload where
  payload : Payload
  checks : Option (List UserConsistencyCheck)
  checks_eq : payload.get? "checks" = some (match checks with
    | none => .none
    | some checks => .list (checks.map fun check => .str check.value))

/-! ## The presenter -/

/-- One round of the loop over the findings of a report. -/
def presentFinding (acc : UserConsistencySeverityTotals × List UserConsistencyFinding)
    (item : ConsistencyIssue) : UserConsistencySeverityTotals × List UserConsistencyFinding :=
  let totals := match item.severity with
    | .critical => { acc.1 with critical := acc.1.critical + 1 }
    | .high => { acc.1 with high := acc.1.high + 1 }
    | .medium => { acc.1 with medium := acc.1.medium + 1 }
    | .low => { acc.1 with low := acc.1.low + 1 }
  (totals, acc.2 ++ [{
    checkId := item.checkId
    severity := item.severity
    userId := item.userId
    message := item.message
    evidence := item.evidence }])

/-- `to_user_consistency_auditor_output`. -/
def toUserConsistencyAuditorOutput (report : UserConsistencyAuditReport) :
    UserConsistencyAuditorOutput :=
  let presented := report.findings.foldl presentFinding ({}, [])
  { runId := report.runId
    resultCode := if 0 < report.issuesTotal then .issuesFound else .ok
    generatedAtUtc := report.generatedAtUtc
    totalUsers := report.totalUsers
    checksExecuted := report.checksExecuted
    issuesTotal := report.issuesTotal
    issuesBySeverity := presented.1
    findings := presented.2 }

/-! ## The adapter -/

namespace UserConsistencyAuditResultAdapter

/-- `_filters`. -/
def filters (appliedPayload : Payload) : Except PyError (List EvidenceField) :=
  match appliedPayload.get? "checks" with
  | none | some .none => return []
  | some (.list selectedChecks) =>
    match selectedChecks.mapM Value.str? with
    | none => throw (evidenceAdaptationError "applied audit checks are malformed")
    | some [] => return []
    | some checks =>
      return [{ name := "checks", label := "Checks", value := .str (", ".intercalate checks) }]
  | some _ => throw (evidenceAdaptationError "applied audit checks are malformed")

/-- The item of a finding. -/
def item (runEvidenceId : String) (finding : UserConsistencyFinding) (index : Nat) :
    EvidenceItem where
  evidenceId := runEvidenceId ++ ":finding:" ++ toString index
  entityId := match finding.userId with
    | some userId => userId.str
    | none => finding.checkId ++ ":" ++ toString index
  label := finding.message
  fields := [
    { name := "check_id", label := "Check", value := .str finding.checkId },
    { name := "severity", label := "Severity", value := .str finding.severity.value }] ++
    match finding.userId with
    | some userId => [{ name := "user_id", label := "User ID", value := .str userId.str }]
    | none => []

/-- `to_evidence`. -/
def toEvidence (appliedPayload : Payload) : OutputOfTool → Except PyError (List EvidenceBlock)
  | .other => throw (evidenceAdaptationError "unexpected user consistency audit output type")
  | .userConsistencyAuditor output =>
    let totals := output.issuesBySeverity
    let severityCount := totals.critical + totals.high + totals.medium + totals.low
    let runEvidenceId := "user-consistency-audit:" ++ output.runId.str
    if output.toolName ≠ toolUsersConsistencyAuditorV1 then
      throw (evidenceAdaptationError "user consistency audit tool identity does not match")
    else if output.totalUsers < 0 ∨ output.checksExecuted < 0 then
      throw (evidenceAdaptationError "user consistency audit contains negative totals")
    else if output.issuesTotal ≠ output.findings.length then
      throw (evidenceAdaptationError "issues_total does not match the number of findings")
    else if severityCount ≠ output.issuesTotal then
      throw (evidenceAdaptationError "severity totals do not match issues_total")
    else if output.resultCode = .failed then
      return [.failure {
        evidenceId := runEvidenceId ++ ":failure"
        code := "user_consistency_audit_failed"
        message := "The user consistency audit failed."
        retryable := false }]
    else if output.resultCode = .ok ∧ output.issuesTotal ≠ 0 then
      throw (evidenceAdaptationError "an OK audit result cannot contain findings")
    else if output.resultCode = .issuesFound ∧ output.issuesTotal = 0 then
      throw (evidenceAdaptationError "an issues-found result must contain findings")
    else do
      let filters ← filters appliedPayload
      return [.collection {
        evidenceId := runEvidenceId
        entityLabel := "user consistency issue"
        entityLabelPlural := "user consistency issues"
        filters := filters
        requestedCount := none
        items := (output.findings.zipIdx 1).map fun (finding, index) =>
          item runEvidenceId finding index }]

end UserConsistencyAuditResultAdapter

/-! ## What the two agree on -/

/-- The total of a severity. -/
def UserConsistencySeverityTotals.of (totals : UserConsistencySeverityTotals) :
    ConsistencySeverity → Int
  | .critical => totals.critical
  | .high => totals.high
  | .medium => totals.medium
  | .low => totals.low

def UserConsistencyFinding.ofIssue (issue : ConsistencyIssue) : UserConsistencyFinding where
  checkId := issue.checkId
  severity := issue.severity
  userId := issue.userId
  message := issue.message
  evidence := issue.evidence

/-- An output with the findings of a report, their totals and their code. -/
structure Presents (report : UserConsistencyAuditReport) (output : UserConsistencyAuditorOutput) :
    Prop where
  runId : output.runId = report.runId
  findings : output.findings = report.findings.map UserConsistencyFinding.ofIssue
  issuesTotal : output.issuesTotal = output.findings.length
  totals : ∀ severity, output.issuesBySeverity.of severity =
    report.findings.countP (fun finding => finding.severity = severity)
  sum : output.issuesBySeverity.critical + output.issuesBySeverity.high +
    output.issuesBySeverity.medium + output.issuesBySeverity.low = output.issuesTotal
  resultCode : output.resultCode = if report.findings = [] then .ok else .issuesFound
  reported : report.resultCode = output.resultCode.value

/-- An item that shows a finding. -/
structure ShowsFinding (finding : ConsistencyIssue) (item : EvidenceItem) : Prop where
  label : item.label = finding.message
  check : ⟨"check_id", "Check", .str finding.checkId⟩ ∈ item.fields
  severity : ⟨"severity", "Severity", .str finding.severity.value⟩ ∈ item.fields
  user : ∀ userId, finding.userId = some userId →
    item.entityId = userId.str ∧ ⟨"user_id", "User ID", .str userId.str⟩ ∈ item.fields

/-- A collection with one item for each finding, in order, under ids of their own. -/
structure ShowsFindings (findings : List ConsistencyIssue) (block : CollectionEvidence) : Prop where
  items : List.Forall₂ ShowsFinding findings block.items
  distinct : (block.items.map (·.evidenceId)).Nodup

section

variable {report : UserConsistencyAuditReport} {findings : List ConsistencyIssue}
  {acc : UserConsistencySeverityTotals × List UserConsistencyFinding}

/-! ## Counting -/

theorem of_presentFinding (item : ConsistencyIssue) (severity : ConsistencySeverity) :
    (presentFinding acc item).1.of severity =
      acc.1.of severity + if item.severity = severity then 1 else 0 := by
  unfold presentFinding UserConsistencySeverityTotals.of
  cases item.severity <;> cases severity <;> simp

theorem foldl_presentFinding (severity : ConsistencySeverity) :
    (findings.foldl presentFinding acc).1.of severity = acc.1.of severity +
        findings.countP (fun finding => finding.severity = severity) ∧
      (findings.foldl presentFinding acc).2 =
        acc.2 ++ findings.map UserConsistencyFinding.ofIssue := by
  induction findings generalizing acc with
  | nil => simp
  | cons finding rest ih =>
    obtain ⟨htotals, hfindings⟩ := @ih (presentFinding acc finding)
    rw [List.foldl_cons, htotals, hfindings, of_presentFinding]
    constructor
    · rw [List.countP_cons]
      by_cases hsame : finding.severity = severity
      · rw [if_pos hsame, if_pos (decide_eq_true hsame)]
        push_cast
        omega
      · rw [if_neg hsame, if_neg (by simpa using hsame)]
        push_cast
        omega
    · rw [List.map_cons]
      unfold presentFinding UserConsistencyFinding.ofIssue
      simp

/-- Every finding has one of the four severities. -/
theorem countP_severities : findings.countP (fun finding => finding.severity = .critical) +
    findings.countP (fun finding => finding.severity = .high) +
    findings.countP (fun finding => finding.severity = .medium) +
    findings.countP (fun finding => finding.severity = .low) = findings.length := by
  induction findings with
  | nil => rfl
  | cons finding rest ih =>
    rw [List.countP_cons, List.countP_cons, List.countP_cons, List.countP_cons, List.length_cons]
    cases hseverity : finding.severity <;> simp <;> omega

/-- What the presenter makes of a report with the right total and code. -/
theorem presents_output (htotal : report.issuesTotal = report.findings.length)
    (hcode : report.resultCode = if report.findings.isEmpty then "ok" else "issues_found") :
    Presents report (toUserConsistencyAuditorOutput report) := by
  have hfindings : (toUserConsistencyAuditorOutput report).findings =
      report.findings.map UserConsistencyFinding.ofIssue := by
    have h := (@foldl_presentFinding report.findings ({}, []) .critical).2
    rw [List.nil_append] at h
    exact h
  have htotals : ∀ severity, (toUserConsistencyAuditorOutput report).issuesBySeverity.of severity =
      report.findings.countP (fun finding => finding.severity = severity) := by
    intro severity
    have h := (@foldl_presentFinding report.findings ({}, []) severity).1
    have hzero : ({} : UserConsistencySeverityTotals).of severity = 0 := by cases severity <;> rfl
    rw [hzero, zero_add] at h
    exact h
  refine ⟨rfl, hfindings, ?_, htotals, ?_, ?_, ?_⟩
  · rw [hfindings, List.length_map]
    exact congrArg Nat.cast htotal
  · have hcritical := htotals .critical
    have hhigh := htotals .high
    have hmedium := htotals .medium
    have hlow := htotals .low
    have hsum := @countP_severities report.findings
    have hissues : (toUserConsistencyAuditorOutput report).issuesTotal = report.issuesTotal := rfl
    unfold UserConsistencySeverityTotals.of at hcritical hhigh hmedium hlow
    dsimp only at hcritical hhigh hmedium hlow
    rw [hcritical, hhigh, hmedium, hlow, hissues, htotal, ← hsum]
    push_cast
    rfl
  · show (if 0 < report.issuesTotal then _ else _) = _
    rw [htotal]
    cases report.findings <;> rfl
  · show _ = (if 0 < report.issuesTotal then _ else _ : ConsistencyToolResultCode).value
    rw [htotal, hcode]
    cases report.findings <;> rfl

/-! ## Adapting -/

theorem toString_injective {m n : Nat} (h : toString m = toString n) : m = n := by
  rw [Nat.toString_eq_ofList_toDigits, Nat.toString_eq_ofList_toDigits] at h
  have hdigits : Nat.toDigits 10 m = Nat.toDigits 10 n := by
    have htoList := congrArg String.toList h
    rwa [String.toList_ofList, String.toList_ofList] at htoList
  have hvalue :
      Nat.ofDigitChars 10 (Nat.toDigits 10 m) 0 = Nat.ofDigitChars 10 (Nat.toDigits 10 n) 0 := by
    rw [hdigits]
  rwa [Nat.ofDigitChars_toDigits (by decide) (by decide),
    Nat.ofDigitChars_toDigits (by decide) (by decide)] at hvalue

namespace UserConsistencyAuditResultAdapter

theorem filters_ok (applied : AuditPayload) : ∃ fields, filters applied.payload = .ok fields := by
  unfold filters
  rw [applied.checks_eq]
  cases applied.checks with
  | none => exact ⟨[], rfl⟩
  | some checks =>
    have htexts : (checks.map fun check => Value.str check.value).mapM Value.str? =
        some (checks.map UserConsistencyCheck.value) := by
      induction checks with
      | nil => rfl
      | cons check rest ih =>
        rw [List.map_cons, List.mapM_cons, ih]
        rfl
    dsimp only
    rw [htexts]
    cases checks.map UserConsistencyCheck.value with
    | nil => exact ⟨[], rfl⟩
    | cons check rest => exact ⟨_, rfl⟩

theorem showsFinding_item (runEvidenceId : String) (finding : ConsistencyIssue) (index : Nat) :
    ShowsFinding finding (item runEvidenceId (.ofIssue finding) index) := by
  unfold item UserConsistencyFinding.ofIssue
  refine ⟨rfl, by simp, by simp, ?_⟩
  intro userId huser
  simp [huser]

theorem showsFindings_items (runEvidenceId : String) (findings : List ConsistencyIssue) (n : Nat) :
    List.Forall₂ ShowsFinding findings (((findings.map UserConsistencyFinding.ofIssue).zipIdx n).map
      fun (finding, index) => item runEvidenceId finding index) := by
  induction findings generalizing n with
  | nil => exact List.Forall₂.nil
  | cons finding rest ih =>
    rw [List.map_cons, List.zipIdx_cons, List.map_cons]
    exact List.Forall₂.cons (showsFinding_item runEvidenceId finding n) (ih (n + 1))

theorem evidenceIds_nodup (runEvidenceId : String)
    (findings : List UserConsistencyFinding) (n : Nat) :
    (((findings.zipIdx n).map fun (finding, index) => item runEvidenceId finding index).map
      (·.evidenceId)).Nodup := by
  have hids : ((findings.zipIdx n).map fun (finding, index) => item runEvidenceId finding index).map
      (·.evidenceId) = (List.range' n findings.length).map
        (fun index => runEvidenceId ++ ":finding:" ++ toString index) := by
    rw [List.map_map, ← List.zipIdx_map_snd n findings, List.map_map]
    rfl
  rw [hids]
  refine List.Nodup.map ?_ List.nodup_range'
  intro i j heq
  exact toString_injective (String.append_right_inj _ |>.mp heq)

/-- The adapter takes what the presenter makes. -/
theorem toEvidence_presented {output : UserConsistencyAuditorOutput} (h : Presents report output)
    (hname : output.toolName = toolUsersConsistencyAuditorV1)
    (husers : 0 ≤ output.totalUsers) (hchecks : 0 ≤ output.checksExecuted)
    (applied : AuditPayload) :
    ∃ block, toEvidence applied.payload (.userConsistencyAuditor output) = .ok [.collection block] ∧
      ShowsFindings report.findings block := by
  obtain ⟨fields, hfields⟩ := filters_ok applied
  have hcode := h.resultCode
  have htotal := h.issuesTotal
  unfold toEvidence
  dsimp only
  rw [if_neg (fun hne => hne hname), if_neg (by omega), if_neg (fun hne => hne htotal),
    if_neg (fun hne => hne h.sum)]
  rw [h.findings, List.length_map] at htotal
  rw [if_neg, if_neg, if_neg, hfields]
  · refine ⟨_, rfl, ?_, ?_⟩
    · dsimp only
      rw [h.findings]
      exact showsFindings_items _ report.findings 1
    · exact evidenceIds_nodup _ output.findings 1
  · rintro ⟨hissues, hzero⟩
    rw [hcode] at hissues
    have hnil : report.findings = [] := List.eq_nil_of_length_eq_zero (by omega)
    rw [if_pos hnil] at hissues
    cases hissues
  · rintro ⟨hok, hsome⟩
    rw [hcode] at hok
    by_cases hnil : report.findings = []
    · rw [hnil] at htotal
      exact hsome htotal
    · rw [if_neg hnil] at hok
      cases hok
  · rw [hcode]
    split <;> simp

end UserConsistencyAuditResultAdapter

end

/-- The adapter takes the audit of any users by any command, and shows its findings. -/
theorem audit_adapted (collation : Collation) (users : UserTable)
    (command : UserConsistencyAuditCommand)
    (newRunId : Uuid) (now : DateTime) (applied : AuditPayload) :
    Presents (runAudit collation users command newRunId now)
      (toUserConsistencyAuditorOutput (runAudit collation users command newRunId now)) ∧
    ∃ block, UserConsistencyAuditResultAdapter.toEvidence applied.payload (.userConsistencyAuditor
        (toUserConsistencyAuditorOutput (runAudit collation users command newRunId now))) =
          .ok [.collection block] ∧
      ShowsFindings (runAudit collation users command newRunId now).findings block := by
  have hpresents : Presents (runAudit collation users command newRunId now)
      (toUserConsistencyAuditorOutput (runAudit collation users command newRunId now)) :=
    presents_output rfl rfl
  refine ⟨hpresents, ?_⟩
  exact UserConsistencyAuditResultAdapter.toEvidence_presented hpresents rfl (Int.natCast_nonneg _)
    (Int.natCast_nonneg _) applied

end HotAirBalloon.Users
