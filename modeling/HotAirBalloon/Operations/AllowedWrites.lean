import HotAirBalloon.Gateway.Runtime
import HotAirBalloon.Operations.ResolvedCalls
import HotAirBalloon.Operations.WriteWorkOrderStatus

/-!
# Writes that the validator allows

`AllowedWrite` says what the semantic validator has found in the query and in the payload when it
allows a call of `write_work_order_status`.
-/

namespace HotAirBalloon.Operations

open Python Python.Re Regex Agent Gateway

/-- The validator allows a call. -/
def Allows (py : Interpreter) (query : String) (descriptor : ToolDescriptor) (payload : Payload) :
    Prop :=
  ∃ result, validateToolCallSemantics py query descriptor payload = .ok result ∧
    result.allowed = true

/-- The descriptor of the write tool, given the schema of its input model. -/
def writeDescriptor (inputSchema : Payload) : ToolDescriptor where
  name := "write_work_order_status"
  description := writeWorkOrderStatusDescription
  inputSchema := inputSchema
  isMutating := true

theorem toolDescriptor_write {W : Type} (modelJsonSchema : InputModel → Payload) (py : Interpreter)
    (pydantic : LaxPydantic) (store : WorkOrderStatusStore W) :
    let tool := (buildWriteWorkOrderStatusTool py pydantic store).definition
    toolDescriptor modelJsonSchema tool = writeDescriptor (modelJsonSchema tool.inputModel) := rfl

/-- A field of the payload is given and canonically equal to what the query says. -/
def Matches (py : Interpreter) (field : String) (expected : Value) (payload : Payload) : Prop :=
  ∃ value, given payload field = some value ∧
    (canonicalEntity py field value).pyEq (canonicalEntity py field expected) = true

/-- What the validator has checked when it allows a write. -/
structure AllowedWrite (py : Interpreter) (query : String) (payload : Payload) : Prop where
  unresolved : resolveIntent py query = .ok none
  mutation : found (workOrderMutationPattern py) query = true
  status : ∃ expected, extractTargetStatus py query = some expected ∧
    Matches py "target_status" (.str expected) payload
  identifier :
    (∃ m, find (workOrderCodePattern py) query = some m ∧
      Matches py "work_order_code" (.str (py.upper (Re.text m))) payload ∧
        given payload "work_order_id" = none) ∨
    find (workOrderCodePattern py) query = none ∧
      ∃ m id, find (uuidPattern py) query = some m ∧
        Uuid.parse py.toUnicodeData (Re.text m) = some id ∧
        Matches py "work_order_id" (.str id.str) payload ∧ given payload "work_order_code" = none
  site :
    (∃ site, extractSiteCode py query = some site ∧
      Matches py "site_code" (.str site) payload) ∨
    extractSiteCode py query = none ∧ given payload "site_code" = none

/-! ## The checks -/

section

variable {py : Interpreter} {query : String} {payload : Payload}

theorem andThen_allowed {result : SemanticValidationResult}
    {rest : Unit → SemanticValidationResult} :
    (result.andThen rest).allowed = true ↔ result.allowed = true ∧ (rest ()).allowed = true := by
  unfold SemanticValidationResult.andThen
  cases hresult : result.allowed
  · simp [hresult]
  · simp

theorem requireMatchingEntity_allowed {field : String} {expected : Value} :
    (requireMatchingEntity py field expected payload).allowed = true ↔
      Matches py field expected payload := by
  unfold requireMatchingEntity Matches
  cases given payload field with
  | none => simp [reject]
  | some value =>
    cases heq : (canonicalEntity py field value).pyEq (canonicalEntity py field expected)
    · simp [heq, reject]
    · simp [heq, allow]

/-- A check that a field is not given. -/
theorem ungiven_allowed {field detail : String} :
    (if (given payload field).isSome then reject .unexpectedEntity detail else allow).allowed =
      true ↔
      given payload field = none := by
  cases given payload field <;> simp [reject, allow]

theorem validateMutationSite_allowed :
    (validateMutationSite py query payload).allowed = true ↔
      (∃ site, extractSiteCode py query = some site ∧ Matches py "site_code" (.str site) payload) ∨
        extractSiteCode py query = none ∧ given payload "site_code" = none := by
  unfold validateMutationSite
  cases extractSiteCode py query with
  | none =>
    dsimp only
    rw [ungiven_allowed]
    simp
  | some site =>
    dsimp only
    rw [requireMatchingEntity_allowed]
    simp

theorem validateWorkOrderIdentifier_allowed :
    (∃ result, validateWorkOrderIdentifier py query payload = .ok result ∧ result.allowed = true) ↔
      (∃ m, find (workOrderCodePattern py) query = some m ∧
        Matches py "work_order_code" (.str (py.upper (Re.text m))) payload ∧
          given payload "work_order_id" = none) ∨
      find (workOrderCodePattern py) query = none ∧
        ∃ m id, find (uuidPattern py) query = some m ∧
          Uuid.parse py.toUnicodeData (Re.text m) = some id ∧
          Matches py "work_order_id" (.str id.str) payload ∧
            given payload "work_order_code" = none := by
  unfold validateWorkOrderIdentifier
  cases find (workOrderCodePattern py) query with
  | some codeMatch => simp [andThen_allowed, requireMatchingEntity_allowed, ungiven_allowed]
  | none =>
    cases find (uuidPattern py) query with
    | none => simp [reject]
    | some idMatch =>
      cases hparse : Uuid.parse py.toUnicodeData (Re.text idMatch) with
      | none => simp [hparse]
      | some id => simp [hparse, andThen_allowed, requireMatchingEntity_allowed, ungiven_allowed]

theorem validateWorkOrderStatusMutation_allowed :
    (∃ result, validateWorkOrderStatusMutation py query payload = .ok result ∧
        result.allowed = true) ↔
      found (workOrderMutationPattern py) query = true ∧
      (∃ expected, extractTargetStatus py query = some expected ∧
        Matches py "target_status" (.str expected) payload) ∧
      (∃ result, validateWorkOrderIdentifier py query payload = .ok result ∧
        result.allowed = true) ∧
      (validateMutationSite py query payload).allowed = true := by
  unfold validateWorkOrderStatusMutation
  cases found (workOrderMutationPattern py) query with
  | false => simp [reject, pure, Except.pure]
  | true =>
    cases extractTargetStatus py query with
    | none => simp [reject, pure, Except.pure]
    | some expected =>
      have hmatches : (requireMatchingEntity py "target_status" (.str expected) payload).allowed =
          true ↔ Matches py "target_status" (.str expected) payload :=
        requireMatchingEntity_allowed
      simp only [Bool.not_true, Bool.false_eq_true, if_false, bind, Except.bind, pure, Except.pure]
      cases hstatus :
        (requireMatchingEntity py "target_status" (.str expected) payload).allowed with
      | false =>
        simp [← hmatches, hstatus]
      | true =>
        have hgiven := hmatches.mp hstatus
        cases validateWorkOrderIdentifier py query payload with
        | error e => simp
        | ok result => simp [hgiven, andThen_allowed]

/-- The validator allows a write exactly when all of its checks succeed. -/
theorem allows_write_iff (inputSchema : Payload) :
    Allows py query (writeDescriptor inputSchema) payload ↔ AllowedWrite py query payload := by
  have hresolved : ∀ resolution, resolveIntent py query = .ok (some resolution) →
      (validateResolution py (writeDescriptor inputSchema) payload (some resolution)).allowed =
        false := by
    intro resolution h
    unfold validateResolution
    dsimp only
    cases hresolution : resolution.toolName with
    | none => rfl
    | some toolName =>
      obtain ⟨values, -, -, hfits⟩ := resolveIntent_values h hresolution
      have hother : (writeDescriptor inputSchema).name ≠ toolName := by
        rintro rfl
        simp [Fits, writeDescriptor] at hfits
      dsimp only
      rw [if_pos hother]
      rfl
  have hchecks : Allows py query (writeDescriptor inputSchema) payload ↔
      resolveIntent py query = .ok none ∧ ∃ result,
        validateWorkOrderStatusMutation py query payload = .ok result ∧ result.allowed = true := by
    unfold Allows validateToolCallSemantics
    cases hresolve : resolveIntent py query with
    | error e => simp [bind, Except.bind]
    | ok resolution =>
      cases resolution with
      | some resolution =>
        have hrejected := hresolved resolution hresolve
        simp [bind, Except.bind, pure, Except.pure, hrejected]
      | none =>
        simp [bind, Except.bind, validateResolution, allow, writeDescriptor]
  rw [hchecks, validateWorkOrderStatusMutation_allowed, validateWorkOrderIdentifier_allowed,
    validateMutationSite_allowed]
  constructor
  · intro h
    obtain ⟨hunresolved, hmutation, hstatus, hidentifier, hsite⟩ := h
    exact ⟨hunresolved, hmutation, hstatus, hidentifier, hsite⟩
  · intro h
    exact ⟨h.unresolved, h.mutation, h.status, h.identifier, h.site⟩

end

end HotAirBalloon.Operations
