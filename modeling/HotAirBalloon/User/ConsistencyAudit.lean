import HotAirBalloon.User.Registration

/-!
# The consistency audit of the users

The seven checks of the repository and `RunUserConsistencyAudit`, and what the audit says of the
rows that registration has just accepted. A name of two characters is long enough for
`User.register` and too short for the audit (`trimmed_len < 3`), and two emails that differ in the
case of their local parts are two for the unique index and one for the audit; apart from these, the
audit finds nothing (`auditAcceptsRegistered`).
-/

namespace HotAirBalloon.Users

open Python Library

/-! ## Findings -/

inductive ConsistencySeverity where
  | critical
  | high
  | medium
  | low
  deriving DecidableEq

structure ConsistencyIssue where
  checkId : String
  severity : ConsistencySeverity
  userId : Option Uuid
  message : String
  evidence : Dict Value

/-- What SQL leaves to the collation of the database: `lower` and the order of texts. -/
structure Collation where
  lower : String → String
  le : String → String → Bool

/-- SQL's `trim`, which removes blanks only. -/
def sqlTrim (s : String) : String := stripBy (· = ' ') s

/-- The rows that a check finds: `WHERE … ORDER BY … LIMIT …`. -/
def findRows (users : UserTable) (isFound : UserRecord → Bool)
    (before : UserRecord → UserRecord → Bool) (limit : Nat) : List UserRecord :=
  ((users.rows.filter isFound).insertionSort (fun a b => before a b = true)).take limit

/-- `ORDER BY key ASC, id ASC`. -/
def byKey (key : UserRecord → DateTime) (a b : UserRecord) : Bool :=
  key a < key b ∨ (key a = key b ∧ a.id.int ≤ b.id.int)

/-- `ORDER BY created_at DESC, id ASC`. -/
def byCreatedDesc (a b : UserRecord) : Bool :=
  b.createdAt < a.createdAt ∨ (a.createdAt = b.createdAt ∧ a.id.int ≤ b.id.int)

/-- `d.isoformat() if d else None`. -/
def optionalIsoformat (d : Option DateTime) : Value := Value.optionalStr (d.map DateTime.isoformat)

/-! ## The checks -/

namespace UserRepository

variable (collation : Collation) (users : UserTable) (limit : Nat)

/-- `func.lower(func.trim(email))`. -/
def normalizedEmail (email : String) : String := collation.lower (sqlTrim email)

/-- `GROUP BY` the normalized email. -/
def emailGroups : List (String × Nat) :=
  let emails := users.rows.map (fun row => normalizedEmail collation row.email)
  emails.eraseDups.map (fun email => (email, emails.count email))

def findDuplicateNormalizedEmail : List ConsistencyIssue :=
  ((((emailGroups collation users).filter (fun group => 1 < group.2)).insertionSort
    (fun a b => b.2 < a.2 ∨ (a.2 = b.2 ∧ collation.le a.1 b.1 = true))).take limit).map
      fun (email, occurrences) => {
        checkId := "duplicate_normalized_email"
        severity := .high
        userId := none
        message := "Multiple rows share normalized email"
        evidence := [("normalized_email", .str email), ("occurrences", .int occurrences)] }

def hasInvalidNameLength (row : UserRecord) : Bool :=
  (sqlTrim row.displayName).length < 3 ∨ 100 < (sqlTrim row.displayName).length

def findInvalidDisplayNameLength : List ConsistencyIssue :=
  (findRows users hasInvalidNameLength (byKey (·.createdAt)) limit).map fun row => {
    checkId := "invalid_display_name_length"
    severity := .medium
    userId := some row.id
    message := "Display name length outside allowed range"
    evidence := [("display_name", .str row.displayName),
      ("length", .int (strip row.displayName).length)] }

def findCreatedAtInFuture (nowUtc : DateTime) : List ConsistencyIssue :=
  (findRows users (fun row => nowUtc < row.createdAt) byCreatedDesc limit).map fun row => {
    checkId := "created_at_in_future"
    severity := .high
    userId := some row.id
    message := "created_at is in the future"
    evidence := [("created_at", .str (DateTime.isoformat row.createdAt)),
      ("now_utc", .str (DateTime.isoformat nowUtc))] }

def findUpdatedBeforeCreated : List ConsistencyIssue :=
  (findRows users (fun row => row.updatedAt < row.createdAt) (byKey (·.updatedAt)) limit).map
    fun row => {
      checkId := "updated_before_created"
      severity := .high
      userId := some row.id
      message := "updated_at earlier than created_at"
      evidence := [("created_at", .str (DateTime.isoformat row.createdAt)),
        ("updated_at", .str (DateTime.isoformat row.updatedAt))] }

def isStatusMismatch (row : UserRecord) : Bool :=
  (row.status = "active" ∧ row.deactivatedAt.isSome) ∨
    (row.status ≠ "active" ∧ row.deactivatedAt.isNone)

def findStatusDeactivationMismatch : List ConsistencyIssue :=
  (findRows users isStatusMismatch (byKey (·.createdAt)) limit).map fun row => {
    checkId := "status_deactivation_mismatch"
    severity := .medium
    userId := some row.id
    message := "status and deactivated_at are inconsistent"
    evidence := [("status", .str row.status),
      ("deactivated_at", optionalIsoformat row.deactivatedAt)] }

/-- A moment that is known and lies before the creation of the row. -/
def isBeforeCreated (moment : UserRecord → Option DateTime) (row : UserRecord) : Bool :=
  (moment row).any (· < row.createdAt)

def findVerifiedBeforeCreated : List ConsistencyIssue :=
  (findRows users (isBeforeCreated (·.emailVerifiedAt)) (byKey (·.emailVerifiedAt.getD 0))
    limit).map fun row => {
      checkId := "verified_before_created"
      severity := .medium
      userId := some row.id
      message := "email_verified_at earlier than created_at"
      evidence := [("created_at", .str (DateTime.isoformat row.createdAt)),
        ("email_verified_at", optionalIsoformat row.emailVerifiedAt)] }

def findLastLoginBeforeCreated : List ConsistencyIssue :=
  (findRows users (isBeforeCreated (·.lastLoginAt)) (byKey (·.lastLoginAt.getD 0)) limit).map
    fun row => {
      checkId := "last_login_before_created"
      severity := .low
      userId := some row.id
      message := "last_login_at earlier than created_at"
      evidence := [("created_at", .str (DateTime.isoformat row.createdAt)),
        ("last_login_at", optionalIsoformat row.lastLoginAt)] }

end UserRepository

/-! ## The audit -/

structure UserConsistencyAuditCommand where
  checks : Option (List String) := none
  limitPerCheck : Int := 100
  runId : Option Uuid := none
  nowUtc : Option DateTime := none

structure UserConsistencyAuditReport where
  runId : Uuid
  generatedAtUtc : DateTime
  totalUsers : Nat
  checksExecuted : Nat
  issuesTotal : Nat
  resultCode : String
  findings : List ConsistencyIssue

namespace UserConsistencyAuditCommand

variable (command : UserConsistencyAuditCommand)

/-- `min(max(limit_per_check, 1), 500)`. -/
def limit : Nat := (min (max command.limitPerCheck 1) 500).toNat

/-- `set(checks) if checks else None`. -/
def selected : Option (List String) :=
  match command.checks with
  | none | some [] => none
  | some checks => some checks.eraseDups

def selects (checkId : String) : Bool :=
  match command.selected with
  | none => true
  | some checks => checkId ∈ checks

end UserConsistencyAuditCommand

/-- `all_checks`. -/
def allChecks (collation : Collation) (users : UserTable) (nowUtc : DateTime) (limit : Nat) :
    List (String × List ConsistencyIssue) :=
  open UserRepository in
  [("duplicate_normalized_email", findDuplicateNormalizedEmail collation users limit),
    ("invalid_display_name_length", findInvalidDisplayNameLength users limit),
    ("created_at_in_future", findCreatedAtInFuture users limit nowUtc),
    ("updated_before_created", findUpdatedBeforeCreated users limit),
    ("status_deactivation_mismatch", findStatusDeactivationMismatch users limit),
    ("verified_before_created", findVerifiedBeforeCreated users limit),
    ("last_login_before_created", findLastLoginBeforeCreated users limit)]

/-- The order of the findings: check, user and message. -/
def ConsistencyIssue.notAfter (a b : ConsistencyIssue) : Bool :=
  let user (issue : ConsistencyIssue) := (issue.userId.map Uuid.str).getD ""
  a.checkId < b.checkId ∨ (a.checkId = b.checkId ∧
    (user a < user b ∨ (user a = user b ∧ a.message ≤ b.message)))

/-- `RunUserConsistencyAudit.execute`, with the value of `uuid4()` and the reading of the clock. -/
def runAudit (collation : Collation) (users : UserTable) (command : UserConsistencyAuditCommand)
    (newRunId : Uuid) (now : DateTime) : UserConsistencyAuditReport :=
  let nowUtc := command.nowUtc.getD now
  let checks := allChecks collation users nowUtc command.limit
  let findings := ((checks.filter (fun check => command.selects check.1)).flatMap
    Prod.snd).insertionSort (fun a b => a.notAfter b = true)
  { runId := command.runId.getD newRunId
    generatedAtUtc := nowUtc
    totalUsers := users.rows.length
    checksExecuted := (command.selected.map List.length).getD checks.length
    issuesTotal := findings.length
    resultCode := if findings.isEmpty then "ok" else "issues_found"
    findings := findings }

/-! ## Names -/

section

variable {p : Char → Bool}

theorem not_mem_of_mem_splitOnP {cs word : List Char} (h : word ∈ cs.splitOnP p) :
    ∀ c ∈ word, p c = false := by
  induction cs generalizing word with
  | nil =>
    rw [List.splitOnP_nil, List.mem_singleton] at h
    subst h
    intro c hc
    cases hc
  | cons first rest ih =>
    rw [List.splitOnP_cons_eq_if_modifyHead] at h
    split at h
    · rcases List.mem_cons.mp h with rfl | hrest
      · intro c hc
        cases hc
      · exact ih hrest
    · rename_i hfirst
      cases hsplit : rest.splitOnP p with
      | nil => exact absurd hsplit (List.splitOnP_ne_nil p rest)
      | cons head tail =>
        rw [hsplit, List.modifyHead_cons] at h
        rcases List.mem_cons.mp h with rfl | htail
        · intro c hc
          rcases List.mem_cons.mp hc with rfl | hhead
          · simpa using hfirst
          · exact ih (by rw [hsplit]; exact List.mem_cons_self) c hhead
        · exact ih (by rw [hsplit]; exact List.mem_cons_of_mem head htail)

/-- Words that are joined by a separator begin and end as the first and the last of them. -/
theorem intercalate_ends (separator : List Char) {words : List (List Char)}
    (hwords : ∀ word ∈ words, word ≠ [] ∧ ∀ c ∈ word, p c = false) :
    (∀ h, p ((separator.intercalate words).head h) = false) ∧
      ∀ h, p ((separator.intercalate words).getLast h) = false := by
  induction words with
  | nil => exact ⟨fun h => absurd rfl h, fun h => absurd rfl h⟩
  | cons word rest ih =>
    obtain ⟨hne, hword⟩ := hwords word List.mem_cons_self
    cases rest with
    | nil =>
      rw [List.intercalate_singleton]
      exact ⟨fun h => hword _ (List.head_mem h), fun h => hword _ (List.getLast_mem h)⟩
    | cons word' rest =>
      obtain ⟨-, hlast⟩ := ih (fun word h => hwords word (List.mem_cons_of_mem _ h))
      obtain ⟨hne', -⟩ := hwords word' (List.mem_cons_of_mem _ List.mem_cons_self)
      have htail : separator.intercalate (word' :: rest) ≠ [] := by
        intro hnil
        cases rest with
        | nil =>
          rw [List.intercalate_singleton] at hnil
          exact hne' hnil
        | cons word'' rest =>
          rw [List.intercalate_cons_cons, List.append_eq_nil_iff, List.append_eq_nil_iff] at hnil
          exact hne' hnil.1.1
      rw [List.intercalate_cons_cons]
      constructor
      · intro h
        have hhead : (word ++ separator ++ separator.intercalate (word' :: rest)).head h =
            word.head hne := by
          simp only [List.append_assoc, List.head_append_of_ne_nil hne]
        rw [hhead]
        exact hword _ (List.head_mem hne)
      · intro h
        rw [List.getLast_append_of_ne_nil _ htail]
        exact hlast htail

theorem stripList_eq_self {cs : List Char} (hhead : ∀ h, p (cs.head h) = false)
    (hlast : ∀ h, p (cs.getLast h) = false) : stripList p cs = cs := by
  have hdrop : cs.dropWhile p = cs := by
    rw [List.dropWhile_eq_self_iff]
    intro hlen hp
    have hne : cs ≠ [] := List.length_pos_iff.mp hlen
    have hfalse := hhead hne
    rw [List.head_eq_getElem] at hfalse
    rw [hfalse] at hp
    cases hp
  unfold stripList
  rw [hdrop, List.rdropWhile_eq_self_iff]
  intro hne hp
  rw [hlast hne] at hp
  cases hp

end

/-- A normalized name has no blanks at its ends. -/
theorem sqlTrim_normalizedName (displayName : String) :
    sqlTrim (normalizedName displayName) = normalizedName displayName := by
  have hwords : ∀ word ∈ (splitWords displayName).map String.toList,
      word ≠ [] ∧ ∀ c ∈ word, decide (c = ' ') = false := by
    intro word hword
    obtain ⟨text, htext, rfl⟩ := List.mem_map.mp hword
    obtain ⟨cs, hcs, rfl⟩ := List.mem_map.mp htext
    obtain ⟨hsplit, hne⟩ := List.mem_filter.mp hcs
    rw [String.toList_ofList]
    refine ⟨by simpa using hne, ?_⟩
    intro c hc
    have hspace := not_mem_of_mem_splitOnP hsplit c hc
    by_contra hblank
    have heq : c = ' ' := by simpa using hblank
    rw [heq] at hspace
    exact absurd hspace (by decide)
  obtain ⟨hhead, hlast⟩ := intercalate_ends " ".toList hwords
  unfold sqlTrim stripBy normalizedName
  rw [String.toList_intercalate, stripList_eq_self hhead hlast, ← String.toList_intercalate,
    String.ofList_toList]

/-! ## What the audit finds -/

section

variable {collation : Collation} {users : UserTable} {limit : Nat}

theorem findRows_eq_nil {isFound : UserRecord → Bool} {before : UserRecord → UserRecord → Bool}
    (hlimit : 0 < limit) :
    findRows users isFound before limit = [] ↔ ∀ row ∈ users.rows, isFound row = false := by
  have hsorted := List.perm_insertionSort (fun a b => before a b = true) (users.rows.filter isFound)
  unfold findRows
  rw [List.take_eq_nil_iff, or_iff_right (by omega), ← List.length_eq_zero_iff, hsorted.length_eq,
    List.length_eq_zero_iff, List.filter_eq_nil_iff]
  simp only [Bool.not_eq_true]

theorem findDuplicateNormalizedEmail_eq_nil (hlimit : 0 < limit) :
    UserRepository.findDuplicateNormalizedEmail collation users limit = [] ↔
      (users.rows.map (fun row => UserRepository.normalizedEmail collation row.email)).Nodup := by
  unfold UserRepository.findDuplicateNormalizedEmail UserRepository.emailGroups
  rw [List.map_eq_nil_iff, List.take_eq_nil_iff, or_iff_right (by omega),
    ← List.length_eq_zero_iff, (List.perm_insertionSort _ _).length_eq, List.length_eq_zero_iff,
    List.filter_eq_nil_iff, List.nodup_iff_count_le_one]
  constructor
  · intro hgroups email
    by_cases hmem : email ∈ users.rows.map
        (fun row => UserRepository.normalizedEmail collation row.email)
    · have hgroup := hgroups _ (List.mem_map_of_mem (List.mem_eraseDups.mpr hmem))
      simpa using hgroup
    · rw [List.count_eq_zero_of_not_mem hmem]
      omega
  · intro hcount group hgroup
    obtain ⟨email, -, rfl⟩ := List.mem_map.mp hgroup
    have hle := hcount email
    simpa using hle

theorem limit_pos (command : UserConsistencyAuditCommand) : 0 < command.limit := by
  unfold UserConsistencyAuditCommand.limit
  omega

theorem findings_eq_nil {command : UserConsistencyAuditCommand} {newRunId : Uuid} {now : DateTime}
    (hall : ∀ check ∈ allChecks collation users (command.nowUtc.getD now) command.limit,
      command.selects check.1 = true) :
    (runAudit collation users command newRunId now).findings = [] ↔
      ∀ check ∈ allChecks collation users (command.nowUtc.getD now) command.limit,
        check.2 = [] := by
  unfold runAudit
  dsimp only
  rw [← List.length_eq_zero_iff, (List.perm_insertionSort _ _).length_eq, List.length_eq_zero_iff,
    List.filter_eq_self.mpr hall, List.flatMap_eq_nil_iff]

end

/-! ## Registration and audit -/

/-- The readings of the clock, in the order in which they are made. -/
def readings (registrations : List Registration) : List DateTime :=
  registrations.flatMap (fun registration => [registration.createdAt, registration.updatedAt])

/-- What the audit asks of registrations and registration does not. -/
structure AuditReady (collation : Collation) (validateEmail : EmailValidator)
    (registrations : List Registration) : Prop where
  names : ∀ registration ∈ registrations,
    (normalizedName registration.command.displayName).length ≠ 2
  emails : (registrations.map fun registration =>
    (validateEmail (strip registration.command.email)).map
      (UserRepository.normalizedEmail collation)).Nodup

section

variable {collation : Collation} {validateEmail : EmailValidator}
  {registrations : List Registration} {rows : List UserRecord}

theorem exists_registration (h : List.Forall₂ (Registered validateEmail) registrations rows)
    {row : UserRecord} (hrow : row ∈ rows) :
    ∃ registration ∈ registrations, Registered validateEmail registration row := by
  induction h with
  | nil => cases hrow
  | cons hfirst hrest ih =>
    rcases List.mem_cons.mp hrow with rfl | htail
    · exact ⟨_, List.mem_cons_self, hfirst⟩
    · obtain ⟨registration, hmem, hregistered⟩ := ih htail
      exact ⟨registration, List.mem_cons_of_mem _ hmem, hregistered⟩

theorem exists_row (h : List.Forall₂ (Registered validateEmail) registrations rows)
    {registration : Registration} (hmem : registration ∈ registrations) :
    ∃ row ∈ rows, Registered validateEmail registration row := by
  induction h with
  | nil => cases hmem
  | cons hfirst hrest ih =>
    rcases List.mem_cons.mp hmem with rfl | htail
    · exact ⟨_, List.mem_cons_self, hfirst⟩
    · obtain ⟨row, hrow, hregistered⟩ := ih htail
      exact ⟨row, List.mem_cons_of_mem _ hrow, hregistered⟩

theorem emails_nodup_iff (h : List.Forall₂ (Registered validateEmail) registrations rows) :
    (rows.map (fun row => UserRepository.normalizedEmail collation row.email)).Nodup ↔
      (registrations.map fun registration =>
        (validateEmail (strip registration.command.email)).map
          (UserRepository.normalizedEmail collation)).Nodup := by
  have heq : (registrations.map fun registration =>
      (validateEmail (strip registration.command.email)).map
        (UserRepository.normalizedEmail collation)) =
      (rows.map (fun row => UserRepository.normalizedEmail collation row.email)).map
        (Except.ok : String → Except String String) := by
    induction h with
    | nil => rfl
    | cons hfirst hrest ih =>
      rw [List.map_cons, List.map_cons, List.map_cons, ih, hfirst.email]
      rfl
  rw [heq, List.nodup_map_iff (fun _ _ h => Except.ok.inj h)]

theorem hasInvalidNameLength_eq_false {registration : Registration} {row : UserRecord}
    (h : Registered validateEmail registration row) :
    UserRepository.hasInvalidNameLength row = false ↔
      (normalizedName registration.command.displayName).length ≠ 2 := by
  have hlength := h.nameLength
  have htrim : sqlTrim row.displayName = row.displayName := by
    rw [h.displayName]
    exact sqlTrim_normalizedName _
  unfold UserRepository.hasInvalidNameLength
  rw [htrim, ← h.displayName, decide_eq_false_iff_not]
  omega

theorem readings_le {now : DateTime}
    (hclock : (readings registrations ++ [now]).Pairwise (· ≤ ·)) {registration : Registration}
    (hmem : registration ∈ registrations) :
    registration.createdAt ≤ registration.updatedAt ∧ registration.createdAt ≤ now := by
  obtain ⟨hreadings, -, hnow⟩ := List.pairwise_append.mp hclock
  obtain ⟨hpairs, -⟩ := List.pairwise_flatMap.mp hreadings
  have hpair := hpairs registration hmem
  rw [List.pairwise_pair] at hpair
  have hlast := hnow registration.createdAt
    (List.mem_flatMap.mpr ⟨registration, hmem, List.mem_cons_self⟩) now List.mem_cons_self
  exact ⟨hpair, hlast⟩

/-- The checks of times and status find nothing in a row. -/
structure Unsuspicious (now : DateTime) (row : UserRecord) : Prop where
  createdAt : decide (now < row.createdAt) = false
  updatedAt : decide (row.updatedAt < row.createdAt) = false
  status : UserRepository.isStatusMismatch row = false
  emailVerifiedAt : UserRepository.isBeforeCreated (·.emailVerifiedAt) row = false
  lastLoginAt : UserRepository.isBeforeCreated (·.lastLoginAt) row = false

theorem Registered.unsuspicious {registration : Registration} {row : UserRecord} {now : DateTime}
    (h : Registered validateEmail registration row)
    (hclock : registration.createdAt ≤ registration.updatedAt ∧ registration.createdAt ≤ now) :
    Unsuspicious now row := by
  obtain ⟨hupdated, hnow⟩ := hclock
  rw [← h.createdAt] at hupdated hnow
  rw [← h.updatedAt] at hupdated
  refine ⟨decide_eq_false (not_lt.mpr hnow), decide_eq_false (not_lt.mpr hupdated), ?_, ?_, ?_⟩
  · unfold UserRepository.isStatusMismatch
    rw [h.status, h.deactivatedAt]
    rfl
  · unfold UserRepository.isBeforeCreated
    dsimp only
    rw [h.emailVerifiedAt]
    rfl
  · unfold UserRepository.isBeforeCreated
    dsimp only
    rw [h.lastLoginAt]
    rfl

end

/-- An audit with all checks after any registrations finds nothing exactly when no name has two
characters and no two emails are one to the database's `lower`. -/
theorem auditAcceptsRegistered (collation : Collation) (validateEmail : EmailValidator)
    (registrations : List Registration) (users : UserTable) (command : UserConsistencyAuditCommand)
    (newRunId : Uuid) (now : DateTime)
    (hregistered : registerAll validateEmail registrations .empty = .ok users)
    (hclock : (readings registrations ++ [command.nowUtc.getD now]).Pairwise (· ≤ ·))
    (hall : ∀ check ∈ allChecks collation users (command.nowUtc.getD now) command.limit,
      command.selects check.1 = true) :
    (runAudit collation users command newRunId now).findings = [] ↔
      AuditReady collation validateEmail registrations := by
  obtain ⟨rows, hforall, hrows⟩ := registerAll_rows hregistered
  have hrows' : users.rows = rows := hrows
  have hlimit := limit_pos command
  have hclean : ∀ row ∈ users.rows, Unsuspicious (command.nowUtc.getD now) row := by
    intro row hrow
    rw [hrows'] at hrow
    obtain ⟨registration, hmem, hregistered⟩ := exists_registration hforall hrow
    exact hregistered.unsuspicious (readings_le hclock hmem)
  have hnames : UserRepository.findInvalidDisplayNameLength users command.limit = [] ↔
      ∀ registration ∈ registrations,
        (normalizedName registration.command.displayName).length ≠ 2 := by
    unfold UserRepository.findInvalidDisplayNameLength
    rw [List.map_eq_nil_iff, findRows_eq_nil hlimit, hrows']
    constructor
    · intro hvalid registration hmem
      obtain ⟨row, hrow, hregistered⟩ := exists_row hforall hmem
      exact (hasInvalidNameLength_eq_false hregistered).mp (hvalid row hrow)
    · intro hlong row hrow
      obtain ⟨registration, hmem, hregistered⟩ := exists_registration hforall hrow
      exact (hasInvalidNameLength_eq_false hregistered).mpr (hlong registration hmem)
  have hemails : UserRepository.findDuplicateNormalizedEmail collation users command.limit = [] ↔
      (registrations.map fun registration =>
        (validateEmail (strip registration.command.email)).map
          (UserRepository.normalizedEmail collation)).Nodup := by
    rw [findDuplicateNormalizedEmail_eq_nil hlimit, hrows', emails_nodup_iff hforall]
  rw [findings_eq_nil hall]
  constructor
  · intro hnothing
    exact ⟨hnames.mp (hnothing _ (.tail _ (.head _))), hemails.mp (hnothing _ (.head _))⟩
  · intro hready check hcheck
    have hnone : ∀ {isFound : UserRecord → Bool} {before : UserRecord → UserRecord → Bool}
        {issue : UserRecord → ConsistencyIssue}, (∀ row ∈ users.rows, isFound row = false) →
        (findRows users isFound before command.limit).map issue = [] := by
      intro isFound before issue hfound
      rw [List.map_eq_nil_iff, findRows_eq_nil hlimit]
      exact hfound
    unfold allChecks at hcheck
    fin_cases hcheck
    · exact hemails.mpr hready.emails
    · exact hnames.mpr hready.names
    · exact hnone (fun row hrow => (hclean row hrow).createdAt)
    · exact hnone (fun row hrow => (hclean row hrow).updatedAt)
    · exact hnone (fun row hrow => (hclean row hrow).status)
    · exact hnone (fun row hrow => (hclean row hrow).emailVerifiedAt)
    · exact hnone (fun row hrow => (hclean row hrow).lastLoginAt)

/-! ## Two tables -/

def asciiCollation : Collation where
  lower s := String.ofList (s.toList.map asciiLower)
  le a b := a ≤ b

/-- Addresses in lower case are normalized already. -/
def keepEmail : EmailValidator := .ok

def registrationOf (userId : Uuid) (email displayName : String) (now : DateTime) :
    Registration :=
  ⟨{ email := email, displayName := displayName }, userId, now, now⟩

/-- The table after registrations that succeed. -/
def tableOf (registrations : List Registration) : UserTable :=
  (registerAll keepEmail registrations .empty).toOption.getD .empty

theorem registerAll_tableOf {registrations : List Registration}
    (h : (registerAll keepEmail registrations .empty).isOk = true) :
    registerAll keepEmail registrations .empty = .ok (tableOf registrations) := by
  unfold tableOf
  cases hrun : registerAll keepEmail registrations .empty with
  | ok users => rfl
  | error e => rw [hrun] at h; cases h

def annAndBob : List Registration :=
  [registrationOf (.ofNat 1) "ann@example.com" "Ann Lee" 10,
    registrationOf (.ofNat 2) "bob@example.com" "Bob" 20]

theorem auditAcceptsRegistered_annAndBob :
    (runAudit asciiCollation (tableOf annAndBob) {} ⟨3⟩ 30).findings = [] := by
  refine (auditAcceptsRegistered asciiCollation keepEmail annAndBob (tableOf annAndBob) {} ⟨3⟩ 30
    (registerAll_tableOf (by decide)) (by decide) (fun _ _ => rfl)).mpr ⟨?_, ?_⟩
  · have hnames : annAndBob.all (fun registration =>
        decide ((normalizedName registration.command.displayName).length ≠ 2)) = true := by
      decide
    intro registration hmem
    exact of_decide_eq_true (List.all_eq_true.mp hnames registration hmem)
  · have hemails : annAndBob.map (fun registration =>
        (keepEmail (strip registration.command.email)).map
          (UserRepository.normalizedEmail asciiCollation)) =
        [.ok "ann@example.com", .ok "bob@example.com"] := by
      decide
    rw [hemails]
    decide

/-- A name of two characters is registered, and the audit flags it. -/
theorem not_auditAcceptsRegistered : ¬∀ (collation : Collation) (validateEmail : EmailValidator)
    (registrations : List Registration) (users : UserTable) (command : UserConsistencyAuditCommand)
    (newRunId : Uuid) (now : DateTime), registerAll validateEmail registrations .empty = .ok users →
    (readings registrations ++ [command.nowUtc.getD now]).Pairwise (· ≤ ·) →
    (∀ check ∈ allChecks collation users (command.nowUtc.getD now) command.limit,
      command.selects check.1 = true) →
    (runAudit collation users command newRunId now).findings = [] := by
  intro haccepts
  have hnone := haccepts asciiCollation keepEmail [registrationOf ⟨1⟩ "bo@example.com" "Bo" 10]
    (tableOf [registrationOf ⟨1⟩ "bo@example.com" "Bo" 10]) {} ⟨3⟩ 30
    (registerAll_tableOf (by decide)) (by decide) (fun _ _ => rfl)
  have hone : (runAudit asciiCollation (tableOf [registrationOf ⟨1⟩ "bo@example.com" "Bo" 10]) {}
      ⟨3⟩ 30).findings.length = 1 := by
    decide
  rw [hnone] at hone
  cases hone

end HotAirBalloon.Users
