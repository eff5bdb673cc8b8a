import HotAirBalloon.Agent.DeterministicIntent

/-!
# Semantic validation of tool calls

`semantic_validation.py`: a planned call must not contradict what the query says. A check
returns the result of the first check that refuses; the fields of a tool are visited in the
order of a `frozenset`, so only the reason of a refusal depends on that order.
-/

namespace HotAirBalloon.Agent

open Python Python.Re Regex Pattern Gateway

structure ToolDescriptor where
  name : String
  description : String := ""
  inputHint : Option String := none
  inputSchema : Dict Value := []
  siteCodeField : Option String := none
  isMutating : Bool := false

inductive SemanticRejectionReason where
  | toolNotRequested
  | toolMismatch
  | entityMissing
  | entityMismatch
  | unexpectedEntity
  | mutationNotExplicit
  | mutationNotSupported
  deriving DecidableEq

def SemanticRejectionReason.value : SemanticRejectionReason → String
  | toolNotRequested => "tool_not_requested"
  | toolMismatch => "tool_mismatch"
  | entityMissing => "entity_missing"
  | entityMismatch => "entity_mismatch"
  | unexpectedEntity => "unexpected_entity"
  | mutationNotExplicit => "mutation_not_explicit"
  | mutationNotSupported => "mutation_not_supported"

structure SemanticValidationResult where
  allowed : Bool
  reason : Option SemanticRejectionReason := none
  detail : Option String := none
  deriving DecidableEq

def allow : SemanticValidationResult := { allowed := true }

def reject (reason : SemanticRejectionReason) (detail : String) : SemanticValidationResult :=
  { allowed := false, reason := some reason, detail := some detail }

/-- `if not result.allowed: return result`, then the rest. -/
def SemanticValidationResult.andThen (result : SemanticValidationResult)
    (rest : Unit → SemanticValidationResult) : SemanticValidationResult :=
  if result.allowed then rest () else result

/-- `_SEMANTIC_FIELDS_BY_TOOL`. -/
def semanticFieldsByTool : List (String × List String) :=
  [("get_work_orders", ["site_code", "status", "limit"]),
    ("get_asset_status", ["site_code"]),
    ("get_maintenance_tickets", ["site_code", "limit"]),
    ("get_spare_parts_availability", ["site_code", "limit"]),
    ("get_production_schedule", ["site_code", "limit"])]

/-- `_DEFAULT_SEMANTIC_VALUES.get(field)`. -/
def defaultSemanticValue (field : String) : Value := if field = "limit" then .int 10 else .none

variable (py : Interpreter)

/-! ## Patterns -/

def uuidPattern : TextPattern :=
  let hexes := fun n => rep n (some n) (oneOf "0123456789abcdef")
  seqs [wordEdge py, hexes 8, lit "-", hexes 4, lit "-", oneOf "12345", hexes 3, lit "-",
    oneOf "89ab", hexes 3, lit "-", hexes 12, wordEdge py]

def mutationVerbs : TextPattern :=
  words ["change", "set", "update", "move", "mark", "complete", "cancel", "reopen", "start"]

/-- `(?:work\s+order|WO-[A-Z0-9][A-Z0-9-]*)`. -/
def workOrderMention : TextPattern :=
  alts [seqs [lit "work", plus space, lit "order"],
    seqs [lit "WO-", sym letterOrDigit, star (sym (fun c => letterOrDigit c || c == '-'))]]

def workOrderMutationPattern : TextPattern :=
  alts [
    seqs [wordEdge py, mutationVerbs, wordEdge py, anyUpTo 100, wordEdge py, workOrderMention,
      wordEdge py],
    seqs [wordEdge py, workOrderMention, wordEdge py, anyUpTo 100, wordEdge py, mutationVerbs,
      wordEdge py]]

/-- Group 1 is the status. -/
def targetStatusPattern : TextPattern :=
  seqs [wordEdge py, words ["to", "as"], plus space,
    group 1 (alts [lit "pending", lit "open",
      seqs [lit "in", plus (alt space (oneOf "_-")), lit "progress"],
      seqs [lit "complete", opt (lit "d")], lit "cancelled", lit "canceled"]),
    wordEdge py]

def imperativeTargets : List (TextPattern × String) :=
  [(seqs [wordEdge py, lit "complet", words ["e", "ed"], wordEdge py], "completed"),
    (seqs [wordEdge py, lit "cancel", opt (words ["led", "ed"]), wordEdge py], "cancelled"),
    (seqs [wordEdge py, lit "reopen", wordEdge py], "open"),
    (seqs [wordEdge py, lit "start", wordEdge py], "in_progress")]

/-! ## Canonical entities -/

/-- `re.sub(r"[\s-]+", "_", value)`. -/
def underscored (value : String) : String :=
  String.ofList (substitute (plus (alt space (lit "-"))) ['_'] value.toList)

def canonicalStatus (value : String) : String :=
  let normalized := underscored (py.lower (strip value))
  if normalized = "complete" then "completed"
  else if normalized = "cancelled" ∨ normalized = "canceled" then "cancelled"
  else normalized

/-- A text value transformed; other values are kept. -/
def mapText (f : String → String) : Value → Value
  | .str s => .str (f s)
  | value => value

def canonicalEntity (field : String) (value : Value) : Value :=
  if field = "site_code" ∨ field = "work_order_code" then
    mapText (fun s => py.upper (strip s)) value
  else if field = "status" ∨ field = "target_status" then
    mapText (canonicalStatus py) value
  else if field = "work_order_id" then
    match Uuid.parse py.toUnicodeData (py.str value) with
    | some id => .str id.str
    | none => .str (py.str value)
  else value

/-- `actual.get(field)`, an explicit `None` being the same as an absent field. -/
def given (actual : Payload) (field : String) : Option Value :=
  match actual.get? field with
  | some value => if value.isNone then none else some value
  | none => none

def requireMatchingEntity (field : String) (expected : Value) (actual : Payload) :
    SemanticValidationResult :=
  match given actual field with
  | none => reject .entityMissing ("required entity " ++ field ++ " is missing")
  | some value =>
    if !(canonicalEntity py field value).pyEq (canonicalEntity py field expected) then
      reject .entityMismatch (field ++ " does not match the request")
    else allow

/-! ## The validator -/

/-- One round of the loop of `_validate_resolved_entities`. -/
def validateResolvedField (expected actual : Payload) (field : String) : SemanticValidationResult :=
  match expected.get? field with
  | some value => requireMatchingEntity py field value actual
  | none =>
    match given actual field with
    | none => allow
    | some value =>
      if value.pyEq (defaultSemanticValue field) then allow
      else reject .unexpectedEntity (field ++ " was not present in the request")

def validateResolvedEntities (toolName : String) (expected actual : Payload) :
    SemanticValidationResult :=
  (py.setOrder ((semanticFieldsByTool.lookup toolName).getD [])).foldl
    (fun result field => result.andThen fun _ =>
      validateResolvedField py expected actual field) allow

def extractTargetStatus (query : String) : Option String :=
  match find (targetStatusPattern py) query with
  | some targetMatch => some (canonicalStatus py (Re.group targetMatch 1))
  | none =>
    (imperativeTargets py).findSome? fun (pattern, status) =>
      if found pattern query then some status else none

/-- The identifier check of `_validate_work_order_status_mutation`: a code in the query comes
before an id. -/
def validateWorkOrderIdentifier (query : String) (payload : Payload) :
    Except PyError SemanticValidationResult :=
  match find (workOrderCodePattern py) query, find (uuidPattern py) query with
  | none, none =>
    .ok (reject .mutationNotExplicit "the work order identifier is not explicit")
  | some codeMatch, _ =>
    .ok ((requireMatchingEntity py "work_order_code" (.str (py.upper (Re.text codeMatch)))
      payload).andThen fun _ =>
        if (given payload "work_order_id").isSome then
          reject .unexpectedEntity "work_order_id was not present in the request"
        else allow)
  | none, some idMatch =>
    match Uuid.parse py.toUnicodeData (Re.text idMatch) with
    | none => .error (PyError.valueError "badly formed hexadecimal UUID string")
    | some id =>
      .ok ((requireMatchingEntity py "work_order_id" (.str id.str) payload).andThen fun _ =>
        if (given payload "work_order_code").isSome then
          reject .unexpectedEntity "work_order_code was not present in the request"
        else allow)

def validateMutationSite (query : String) (payload : Payload) : SemanticValidationResult :=
  match extractSiteCode py query with
  | some explicitSite => requireMatchingEntity py "site_code" (.str explicitSite) payload
  | none =>
    if (given payload "site_code").isSome then
      reject .unexpectedEntity "site_code was not present in the request"
    else allow

def validateWorkOrderStatusMutation (query : String) (payload : Payload) :
    Except PyError SemanticValidationResult := do
  if !found (workOrderMutationPattern py) query then
    return reject .mutationNotExplicit "the request does not explicitly ask to mutate a work order"
  match extractTargetStatus py query with
  | none => return reject .mutationNotExplicit "the requested target status is not explicit"
  | some expectedStatus =>
    let statusResult := requireMatchingEntity py "target_status" (.str expectedStatus) payload
    if !statusResult.allowed then
      return statusResult
    let identifierResult ← validateWorkOrderIdentifier py query payload
    return identifierResult.andThen fun _ => validateMutationSite py query payload

/-- The checks against a resolution, up to the checks that every call undergoes. -/
def validateResolution (descriptor : ToolDescriptor) (payload : Payload) :
    Option IntentResolution → SemanticValidationResult
  | none => allow
  | some resolution =>
    match resolution.toolName with
    | none => reject .toolNotRequested "the request requires a direct response"
    | some toolName =>
      if descriptor.name ≠ toolName then
        reject .toolMismatch ("expected " ++ toolName ++ ", got " ++ descriptor.name)
      else validateResolvedEntities py descriptor.name resolution.payload payload

/-- `validate_tool_call_semantics`. -/
def validateToolCallSemantics (query : String) (descriptor : ToolDescriptor) (payload : Payload) :
    Except PyError SemanticValidationResult := do
  let resolution ← resolveIntent py query
  let entityResult := validateResolution py descriptor payload resolution
  if !entityResult.allowed then
    return entityResult
  if resolution.isNone then
    match extractSiteCode py query, descriptor.siteCodeField with
    | some explicitSite, some field =>
      let siteResult := requireMatchingEntity py field (.str explicitSite) payload
      if !siteResult.allowed then
        return siteResult
    | _, _ => pure ()
  if descriptor.isMutating then
    if descriptor.name ≠ "write_work_order_status" then
      return reject .mutationNotSupported
        ("no semantic validator is registered for " ++ descriptor.name)
    validateWorkOrderStatusMutation py query payload
  else return allow

end HotAirBalloon.Agent
