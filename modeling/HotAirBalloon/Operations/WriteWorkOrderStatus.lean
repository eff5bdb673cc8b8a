import HotAirBalloon.Library.SoloRun
import HotAirBalloon.Operations.ChangeStatus
import HotAirBalloon.Operations.ReadTools

/-!
# The tool that changes a status

`write_work_order_status_tool.py`: the input and output models, and a handler that runs the use case
over a store and reports a domain error as a rejection. The input's site code is validated and then
not used; the adapter of the registration is the one of the read tool for work orders.
-/

namespace HotAirBalloon.Operations

open Python Gateway User Library

/-- What the models of this tool and of the web search rely on besides: the lax reading of UUIDs and
of booleans. -/
structure LaxPydantic extends Pydantic where
  laxUuid : Value → Option Uuid
  laxUuid_str : ∀ id, laxUuid (.str id.str) = some id
  laxBool : Value → Option Bool
  laxBool_bool : ∀ b, laxBool (.bool b) = some b

/-! ## Input -/

/-- `str` under `str_strip_whitespace` with `min_length=1` and a `max_length`. -/
structure TrimmedText (minLength maxLength : Nat) where
  text : String
  trimmed : stripWhitespace text = text
  le_length : minLength ≤ text.length
  length_le : text.length ≤ maxLength

theorem stripWhitespace_idem (s : String) :
    stripWhitespace (stripWhitespace s) = stripWhitespace s :=
  stripBy_idem isWhiteSpace s

def TrimmedText.ofString? (minLength maxLength : Nat) (s : String) :
    Option (TrimmedText minLength maxLength) :=
  if h : minLength ≤ (stripWhitespace s).length ∧ (stripWhitespace s).length ≤ maxLength then
    some ⟨stripWhitespace s, stripWhitespace_idem s, h.1, h.2⟩
  else none

theorem TrimmedText.ofString?_text {minLength maxLength : Nat}
    (t : TrimmedText minLength maxLength) : ofString? minLength maxLength t.text = some t := by
  obtain ⟨text, htrimmed, hlow, hhigh⟩ := t
  unfold ofString?
  simp only [htrimmed]
  rw [dif_pos ⟨hlow, hhigh⟩]

/-- A trimmed text or `None`, with default `None`. -/
def optionalTrimmed (minLength maxLength : Nat) :
    Option Value → Option (Option (TrimmedText minLength maxLength))
  | none | some .none => some none
  | some (.str s) => (TrimmedText.ofString? minLength maxLength s).map some
  | some _ => none

theorem optionalTrimmed_optionalStr {minLength maxLength : Nat}
    (t : Option (TrimmedText minLength maxLength)) :
    optionalTrimmed minLength maxLength (some (Value.optionalStr (t.map (·.text)))) = some t := by
  cases t with
  | none => rfl
  | some t => simp [optionalTrimmed, Value.optionalStr, TrimmedText.ofString?_text]

/-- A field `UUID | None` with default `None`. -/
def optionalUuid (pydantic : LaxPydantic) : Option Value → Option (Option Uuid)
  | none | some .none => some none
  | some value => (pydantic.laxUuid value).map some

theorem optionalUuid_optionalStr (pydantic : LaxPydantic) (id : Option Uuid) :
    optionalUuid pydantic (some (Value.optionalStr (id.map Uuid.str))) = some id := by
  cases id with
  | none => rfl
  | some id => simp [optionalUuid, Value.optionalStr, pydantic.laxUuid_str]

/-- A required field of type `WorkOrderStatus`. -/
def requiredStatus : Option Value → Option WorkOrderStatus
  | some (.str s) => WorkOrderStatus.ofValue? s
  | _ => none

structure WriteWorkOrderStatusInput where
  workOrderId : Option Uuid
  workOrderCode : Option (TrimmedText 1 100)
  targetStatus : WorkOrderStatus
  siteCode : Option (TrimmedText 1 50)
  reason : Option (TrimmedText 1 500)

namespace WriteWorkOrderStatusInput

/-- `AliasChoices("target_status", "status")`: the first alias that is present; a second one is an
extra argument. -/
def statusKey (payload : Payload) : String :=
  if payload.contains "target_status" then "target_status" else "status"

def parse (pydantic : LaxPydantic) (payload : Payload) : Except PyError WriteWorkOrderStatusInput :=
  match onlyFields
      ["work_order_id", "work_order_code", statusKey payload, "site_code", "reason"] payload,
    optionalUuid pydantic (payload.get? "work_order_id"),
    optionalTrimmed 1 100 (payload.get? "work_order_code"),
    requiredStatus (payload.get? (statusKey payload)),
    optionalTrimmed 1 50 (payload.get? "site_code"),
    optionalTrimmed 1 500 (payload.get? "reason") with
  | true, some workOrderId, some workOrderCode, some targetStatus, some siteCode, some reason =>
    .ok ⟨workOrderId, workOrderCode, targetStatus, siteCode, reason⟩
  | _, _, _, _, _, _ => .error (pydantic.validationError "WriteWorkOrderStatusInput" payload)

def dump (input : WriteWorkOrderStatusInput) : Payload :=
  [("work_order_id", Value.optionalStr (input.workOrderId.map Uuid.str)),
    ("work_order_code", Value.optionalStr (input.workOrderCode.map (·.text))),
    ("target_status", .str input.targetStatus.value),
    ("site_code", Value.optionalStr (input.siteCode.map (·.text))),
    ("reason", Value.optionalStr (input.reason.map (·.text)))]

/-- The dump of an input is read back as the input. -/
theorem parse_dump (pydantic : LaxPydantic) (input : WriteWorkOrderStatusInput) :
    parse pydantic input.dump = .ok input := by
  have hkey : statusKey input.dump = "target_status" := rfl
  have hfields : onlyFields
      ["work_order_id", "work_order_code", "target_status", "site_code", "reason"] input.dump =
      true := by
    simp [onlyFields, dump]
  have hid : input.dump.get? "work_order_id" =
      some (Value.optionalStr (input.workOrderId.map Uuid.str)) := rfl
  have hcode : input.dump.get? "work_order_code" =
      some (Value.optionalStr (input.workOrderCode.map (·.text))) := rfl
  have hstatus : input.dump.get? "target_status" = some (.str input.targetStatus.value) := rfl
  have hsite : input.dump.get? "site_code" =
      some (Value.optionalStr (input.siteCode.map (·.text))) := rfl
  have hreason : input.dump.get? "reason" =
      some (Value.optionalStr (input.reason.map (·.text))) := rfl
  unfold parse
  rw [hkey, hfields, hid, hcode, hstatus, hsite, hreason, optionalUuid_optionalStr,
    optionalTrimmed_optionalStr, optionalTrimmed_optionalStr, optionalTrimmed_optionalStr]
  simp only [requiredStatus, WorkOrderStatus.ofValue?_value]

end WriteWorkOrderStatusInput

/-! ## Output -/

structure WriteWorkOrderStatusOutput where
  toolName : String := "write_work_order_status"
  succeeded : Bool
  workOrderId : Option Uuid := none
  workOrderCode : Option String := none
  previousStatus : Option String := none
  currentStatus : Option String := none
  changed : Bool := false
  updatedAt : Option String := none
  allowedNextStatuses : List String := []
  errorCode : Option String := none
  errorMessage : Option String := none

/-- A field `str` with a default. -/
def textField (default : String) : Option Value → Option String
  | none => some default
  | some (.str s) => some s
  | some _ => none

/-- A field `bool`; one without a default is required. -/
def boolField (pydantic : LaxPydantic) (default : Option Bool) : Option Value → Option Bool
  | none => default
  | some value => pydantic.laxBool value

/-- A field `list[str]` with default `[]`. -/
def textsField : Option Value → Option (List String)
  | none => some []
  | some (.list items) => items.mapM Value.str?
  | some _ => none

namespace WriteWorkOrderStatusOutput

def fields : List String :=
  ["tool_name", "succeeded", "work_order_id", "work_order_code", "previous_status",
    "current_status", "changed", "updated_at", "allowed_next_statuses", "error_code",
    "error_message"]

def parse (pydantic : LaxPydantic) (raw : Payload) : Except PyError WriteWorkOrderStatusOutput :=
  let output : Option WriteWorkOrderStatusOutput := do
    guard (onlyFields fields raw)
    return {
      toolName := ← textField "write_work_order_status" (raw.get? "tool_name")
      succeeded := ← boolField pydantic none (raw.get? "succeeded")
      workOrderId := ← optionalUuid pydantic (raw.get? "work_order_id")
      workOrderCode := ← optionalText id (raw.get? "work_order_code")
      previousStatus := ← optionalText id (raw.get? "previous_status")
      currentStatus := ← optionalText id (raw.get? "current_status")
      changed := ← boolField pydantic (some false) (raw.get? "changed")
      updatedAt := ← optionalText id (raw.get? "updated_at")
      allowedNextStatuses := ← textsField (raw.get? "allowed_next_statuses")
      errorCode := ← optionalText id (raw.get? "error_code")
      errorMessage := ← optionalText id (raw.get? "error_message") }
  match output with
  | some output => .ok output
  | none => .error (pydantic.validationError "WriteWorkOrderStatusOutput" raw)

def dump (output : WriteWorkOrderStatusOutput) : Payload :=
  [("tool_name", .str output.toolName), ("succeeded", .bool output.succeeded),
    ("work_order_id", Value.optionalStr (output.workOrderId.map Uuid.str)),
    ("work_order_code", Value.optionalStr output.workOrderCode),
    ("previous_status", Value.optionalStr output.previousStatus),
    ("current_status", Value.optionalStr output.currentStatus), ("changed", .bool output.changed),
    ("updated_at", Value.optionalStr output.updatedAt),
    ("allowed_next_statuses", .list (output.allowedNextStatuses.map .str)),
    ("error_code", Value.optionalStr output.errorCode),
    ("error_message", Value.optionalStr output.errorMessage)]

end WriteWorkOrderStatusOutput

theorem optionalText_id_optionalStr (s : Option String) :
    optionalText id (some (Value.optionalStr s)) = some s := by
  cases s <;> rfl

theorem textsField_list (texts : List String) :
    textsField (some (.list (texts.map .str))) = some texts := by
  unfold textsField
  induction texts with
  | nil => rfl
  | cons text texts ih =>
    simp only [List.map_cons, List.mapM_cons, Value.str?, ih]
    rfl

/-- The dump of an output is read back as the output. -/
theorem WriteWorkOrderStatusOutput.parse_dump (pydantic : LaxPydantic)
    (output : WriteWorkOrderStatusOutput) : parse pydantic output.dump = .ok output := by
  have hfields : onlyFields fields output.dump = true := by
    simp [onlyFields, fields, dump]
  unfold parse
  rw [hfields]
  unfold dump
  simp [Dict.get?_cons, textField, boolField, pydantic.laxBool_bool, optionalUuid_optionalStr,
    optionalText_id_optionalStr, textsField_list]

/-! ## The handler -/

/-- The `code` of the errors in `operations/domain/errors.py`. -/
def domainErrorCode (e : PyError) : String :=
  ([("WorkOrderNotFoundError", "work_order_not_found"),
    ("WorkOrderTerminalStatusError", "work_order_status_is_terminal"),
    ("InvalidWorkOrderStatusTransitionError", "invalid_work_order_status_transition"),
    ("WorkOrderStatusConflictError", "work_order_status_conflict"),
    ("WorkOrderStatusReasonRequiredError", "work_order_status_reason_required")].lookup
      e.kind).getD "domain_error"

/-- The `current` of an error that the handler passes on: that of the two errors that have one. -/
def currentOf (e : StatusError) : Option WorkOrderStatus :=
  if e.kind ∈ ["InvalidWorkOrderStatusTransitionError", "WorkOrderTerminalStatusError"]
    then e.current
  else none

/-- `_rejection`. -/
def rejection (workOrderCode : Option String) (e : PyError) (current : Option WorkOrderStatus) :
    WriteWorkOrderStatusOutput where
  succeeded := false
  workOrderCode := workOrderCode
  currentStatus := current.map (·.value)
  allowedNextStatuses :=
    (current.map fun status => status.allowedNextStatuses.map (·.value)).getD []
  errorCode := some (domainErrorCode e)
  errorMessage := some e.message

def succeededOutput (result : ChangeWorkOrderStatusResult) : WriteWorkOrderStatusOutput where
  succeeded := true
  workOrderCode := some result.workOrderCode
  previousStatus := some result.previousStatus.value
  currentStatus := some result.currentStatus.value
  changed := result.changed
  updatedAt := result.updatedAt.map DateTime.isoformat
  allowedNextStatuses := result.currentStatus.allowedNextStatuses.map (·.value)

/-- A store: how it answers the calls of the use case. -/
abbrev WorkOrderStatusStore (W : Type) :=
  (op : StoreOp) → W → Except StatusError (StoreOp.Reply op) × W

/-- The command that the handler makes of its input: the site code is not part of it. -/
def WriteWorkOrderStatusInput.command (data : WriteWorkOrderStatusInput) :
    ChangeWorkOrderStatusCommand where
  workOrderId := data.workOrderId
  workOrderCode := data.workOrderCode.map (·.text)
  targetStatus := data.targetStatus
  reason := data.reason.map (·.text)

/-- The output for what the use case returned or raised. -/
def outputOf (data : WriteWorkOrderStatusInput) :
    Except StatusError ChangeWorkOrderStatusResult → Except PyError WriteWorkOrderStatusOutput
  | .ok result => .ok (succeededOutput result)
  | .error e =>
    if isDomainError e.toPyError then
      .ok (rejection (data.workOrderCode.map (·.text)) e.toPyError (currentOf e))
    else .error e.toPyError

section

variable {W : Type}

/-- The handler, on a payload that it validates again. -/
def writeWorkOrderStatus (pydantic : LaxPydantic) (store : WorkOrderStatusStore W)
    (payload : Payload) (w : W) : W × Except PyError Payload :=
  match WriteWorkOrderStatusInput.parse pydantic payload with
  | .error e => (w, .error e)
  | .ok data =>
    let (result, w) := (ChangeWorkOrderStatus.execute data.command).interpret store w
    (w, (outputOf data result).map WriteWorkOrderStatusOutput.dump)

def writeWorkOrderStatusDescription : String :=
  "Change one existing work order's status only when the user explicitly requests that exact " ++
  "mutation and supplies a work_order_code or work_order_id plus target_status. Never use for " ++
  "definitions, explanations, listing, filtering, or inferred/proactive status changes. " ++
  "Mutating and approval-gated. " ++
  "Only these transitions are legal: pending -> open|cancelled, open -> in_progress|cancelled, " ++
  "in_progress -> open|completed|cancelled. completed and cancelled are terminal. " ++
  "A reason is mandatory when moving to completed or cancelled. " ++
  "Setting the status the work order already has is a no-op, not an error. " ++
  "Read the work order first with get_work_orders if the current status is unknown."

def buildWriteWorkOrderStatusTool (py : Interpreter) (pydantic : LaxPydantic)
    (store : WorkOrderStatusStore W) : AssistantToolRegistration W where
  definition := {
    name := "write_work_order_status"
    description := writeWorkOrderStatusDescription
    inputModel := inputModel "WriteWorkOrderStatusInput" (WriteWorkOrderStatusInput.parse pydantic)
      WriteWorkOrderStatusInput.dump
    outputModel := fun raw =>
      (WriteWorkOrderStatusOutput.parse pydantic raw).map WriteWorkOrderStatusOutput.dump
    handler := writeWorkOrderStatus pydantic store
    requiredPermission := .workOrdersChangeStatus
    requiresApproval := true
    maxRetries := 0
    rateLimit := some ⟨3, 60, by decide, ToolRateLimit.one_le_minute⟩
    sideEffectType := .write }
  resultAdapter := workOrdersAdapter.toEvidence py

end

end HotAirBalloon.Operations
