import HotAirBalloon.Python.DateTime
import HotAirBalloon.Python.Json
import HotAirBalloon.Kernel.ResponseEvidence

/-!
# Evidence snapshots

`domain/conversation_evidence.py`: a snapshot of what an exchange showed, its JSON form and
the decoder. Encoder and decoder are two traversals that share nothing; the decoder checks
each field in the order of the keyword arguments of the source.
-/

namespace HotAirBalloon.Evidence

open Python Kernel

def evidenceSchemaVersion : Int := 1

def maxSerializedEvidenceBytes : Nat := 128000

structure ConversationEvidenceSnapshot where
  conversationId : Uuid
  ownerUserId : Uuid
  exchangeId : Uuid
  toolName : String
  evidence : List EvidenceBlock
  createdAtUtc : DateTime
  expiresAtUtc : Option DateTime
  schemaVersion : Int := evidenceSchemaVersion
  deriving DecidableEq

/-! ## Encoder -/

def scalarValue : EvidenceScalar → Value
  | .str s => .str s
  | .int i => .int i
  | .float x => .float x
  | .bool b => .bool b
  | .none => .none

/-- `None` or an integer. -/
def optionalInt : Option Int → Value
  | none => .none
  | some i => .int i

def serializeField (field : EvidenceField) : Value :=
  .dict [("name", .str field.name), ("label", .str field.label), ("value", scalarValue field.value)]

/-- The item's `source` has no key. -/
def serializeItem (item : EvidenceItem) : Value :=
  .dict [("evidence_id", .str item.evidenceId), ("entity_id", .str item.entityId),
    ("label", .str item.label), ("fields", .list (item.fields.map serializeField))]

def serializeBlock : EvidenceBlock → Value
  | .collection block => .dict [
      ("type", .str "collection"), ("evidence_id", .str block.evidenceId),
      ("entity_label", .str block.entityLabel),
      ("entity_label_plural", .str block.entityLabelPlural),
      ("filters", .list (block.filters.map serializeField)),
      ("requested_count", optionalInt block.requestedCount),
      ("items", .list (block.items.map serializeItem))]
  | .mutation block => .dict [
      ("type", .str "mutation"), ("evidence_id", .str block.evidenceId),
      ("entity_label", .str block.entityLabel), ("entity_id", .str block.entityId),
      ("previous_state", Value.optionalStr block.previousState),
      ("current_state", .str block.currentState), ("changed", .bool block.changed)]
  | .actionRequired block => .dict [
      ("type", .str "action_required"), ("evidence_id", .str block.evidenceId),
      ("action", .str block.action), ("reason", .str block.reason)]
  | .failure block => .dict [
      ("type", .str "failure"), ("evidence_id", .str block.evidenceId),
      ("code", .str block.code), ("message", .str block.message),
      ("retryable", .bool block.retryable)]

namespace ConversationEvidenceSnapshot

/-- The dict that `to_json` builds. -/
def payload (s : ConversationEvidenceSnapshot) : Dict Value :=
  [("schema_version", .int s.schemaVersion), ("exchange_id", .str s.exchangeId.str),
    ("tool_name", .str s.toolName), ("evidence", .list (s.evidence.map serializeBlock))]

/-- `to_json`. -/
def toJson (py : Interpreter) (s : ConversationEvidenceSnapshot) : Except PyError (Dict Value) :=
  if s.schemaVersion ≠ evidenceSchemaVersion then
    throw (PyError.valueError "unsupported evidence schema version")
  else do
    let serialized ← Json.dumps py (.dict s.payload)
    if serialized.utf8ByteSize > maxSerializedEvidenceBytes then
      throw (PyError.valueError "evidence payload exceeds size limit")
    else return s.payload

end ConversationEvidenceSnapshot

/-! ## Decoder -/

/-- `_mapping`. -/
def mapping : Value → Except PyError (Dict Value)
  | .dict data => .ok data
  | _ => throw (PyError.valueError "evidence value must be an object")

def requiredString (data : Dict Value) (name : String) : Except PyError String :=
  match data.get? name with
  | some (.str value) =>
    if value = "" then
      throw (PyError.valueError ("evidence field " ++ name ++ " must be a non-empty string"))
    else return value
  | _ => throw (PyError.valueError ("evidence field " ++ name ++ " must be a non-empty string"))

def optionalString (data : Dict Value) (name : String) : Except PyError (Option String) :=
  match data.get? name with
  | none | some .none => return none
  | some (.str value) => return some value
  | some _ => throw (PyError.valueError ("evidence field " ++ name ++ " must be a string or null"))

def requiredBool (data : Dict Value) (name : String) : Except PyError Bool :=
  match data.get? name with
  | some (.bool value) => return value
  | _ => throw (PyError.valueError ("evidence field " ++ name ++ " must be a boolean"))

/-- `data.get(name, [])`, which has to be a list. -/
def listOrEmpty (data : Dict Value) (name : String) : Option (List Value) :=
  match data.get? name with
  | none => some []
  | some (.list items) => some items
  | some _ => none

/-- The field value, when its type is one of the supported ones. -/
def scalarOf : Option Value → Except PyError EvidenceScalar
  | none | some .none => return .none
  | some (.str s) => return .str s
  | some (.int i) => return .int i
  | some (.float x) => return .float x
  | some (.bool b) => return .bool b
  | some _ => throw (PyError.valueError "evidence field value has an unsupported type")

def deserializeField (value : Value) : Except PyError EvidenceField := do
  let data ← mapping value
  let fieldValue ← scalarOf (data.get? "value")
  let name ← requiredString data "name"
  let label ← requiredString data "label"
  return { name := name, label := label, value := fieldValue }

def deserializeItem (value : Value) : Except PyError EvidenceItem := do
  let data ← mapping value
  match listOrEmpty data "fields" with
  | none => throw (PyError.valueError "evidence item fields must be a list")
  | some rawFields =>
    let evidenceId ← requiredString data "evidence_id"
    let entityId ← requiredString data "entity_id"
    let label ← requiredString data "label"
    let fields ← rawFields.mapM deserializeField
    return { evidenceId := evidenceId, entityId := entityId, label := label, fields := fields }

/-- `requested_count`, when it is an integer and not a bool. -/
def requestedCountOf : Option Value → Except PyError (Option Int)
  | none | some .none => return none
  | some (.int i) => return some i
  | some _ => throw (PyError.valueError "requested count must be an integer")

def deserializeCollection (data : Dict Value) : Except PyError CollectionEvidence := do
  match listOrEmpty data "filters", listOrEmpty data "items" with
  | some rawFilters, some rawItems =>
    let requestedCount ← requestedCountOf (data.get? "requested_count")
    let evidenceId ← requiredString data "evidence_id"
    let entityLabel ← requiredString data "entity_label"
    let entityLabelPlural ← requiredString data "entity_label_plural"
    let filters ← rawFilters.mapM deserializeField
    let items ← rawItems.mapM deserializeItem
    return {
      evidenceId := evidenceId, entityLabel := entityLabel, entityLabelPlural := entityLabelPlural
      filters := filters, requestedCount := requestedCount, items := items }
  | _, _ => throw (PyError.valueError "collection evidence fields must be lists")

def deserializeMutation (data : Dict Value) : Except PyError MutationEvidence := do
  let evidenceId ← requiredString data "evidence_id"
  let entityLabel ← requiredString data "entity_label"
  let entityId ← requiredString data "entity_id"
  let previousState ← optionalString data "previous_state"
  let currentState ← requiredString data "current_state"
  let changed ← requiredBool data "changed"
  return {
    evidenceId := evidenceId, entityLabel := entityLabel, entityId := entityId
    previousState := previousState, currentState := currentState, changed := changed }

def deserializeActionRequired (data : Dict Value) : Except PyError ActionRequiredEvidence := do
  let evidenceId ← requiredString data "evidence_id"
  let action ← requiredString data "action"
  let reason ← requiredString data "reason"
  return { evidenceId := evidenceId, action := action, reason := reason }

def deserializeFailure (data : Dict Value) : Except PyError FailureEvidence := do
  let evidenceId ← requiredString data "evidence_id"
  let code ← requiredString data "code"
  let message ← requiredString data "message"
  let retryable ← requiredBool data "retryable"
  return { evidenceId := evidenceId, code := code, message := message, retryable := retryable }

def deserializeBlock (value : Value) : Except PyError EvidenceBlock := do
  let data ← mapping value
  let blockType ← requiredString data "type"
  if blockType = "collection" then return .collection (← deserializeCollection data)
  else if blockType = "mutation" then return .mutation (← deserializeMutation data)
  else if blockType = "action_required" then
    return .actionRequired (← deserializeActionRequired data)
  else if blockType = "failure" then return .failure (← deserializeFailure data)
  else throw (PyError.valueError "unsupported evidence block type")

/-- `UUID(text)`, of which this module only needs the exception. -/
def uuidOf (py : Interpreter) (text : String) : Except PyError Uuid :=
  match Uuid.parse py.toUnicodeData text with
  | some id => return id
  | none => throw (PyError.valueError "badly formed hexadecimal UUID string")

/-- `ConversationEvidenceSnapshot.from_json`. -/
def fromJson (py : Interpreter) (conversationId ownerUserId : Uuid) (createdAtUtc : DateTime)
    (expiresAtUtc : Option DateTime) (payload : Dict Value) :
    Except PyError ConversationEvidenceSnapshot :=
  if !((payload.get? "schema_version").getD .none).pyEq (.int evidenceSchemaVersion) then
    throw (PyError.valueError "unsupported evidence schema version")
  else
  match payload.get? "evidence" with
  | some (.list rawEvidence) => do
    let exchangeId ← uuidOf py (← requiredString payload "exchange_id")
    let toolName ← requiredString payload "tool_name"
    let evidence ← rawEvidence.mapM deserializeBlock
    let snapshot : ConversationEvidenceSnapshot := {
      conversationId := conversationId, ownerUserId := ownerUserId, exchangeId := exchangeId
      toolName := toolName, evidence := evidence, createdAtUtc := createdAtUtc
      expiresAtUtc := expiresAtUtc }
    let _ ← snapshot.toJson py
    return snapshot
  | _ => throw (PyError.valueError "evidence payload must contain a list")

end HotAirBalloon.Evidence
