import HotAirBalloon.Operations.AllowedWrites
import HotAirBalloon.Operations.WriteScope

/-!
# Executable writes

The validator compares values in a canonical form, but the tool gets the raw payload. So an
allowed write is read as what was compared exactly when its payload is in canonical form already.
-/

namespace HotAirBalloon.Operations

open Python Python.Re Regex Agent Gateway

/-- The keys that the input model knows, the alias of the status included. -/
def inputKeys : List String :=
  ["work_order_id", "work_order_code", "target_status", "status", "site_code", "reason"]

/-- The input model accepts the payload, and its values are the canonical ones. -/
structure Executes (py : Interpreter) (pydantic : LaxPydantic) (payload : Payload)
    (input : WriteWorkOrderStatusInput) : Prop where
  accepted : WriteWorkOrderStatusInput.parse pydantic payload = .ok input
  status : (given payload "target_status").map (canonicalEntity py "target_status") =
    some (.str input.targetStatus.value)
  code : (given payload "work_order_code").map (canonicalEntity py "work_order_code") =
    input.workOrderCode.map (fun code => .str code.text)
  id : (given payload "work_order_id").map (canonicalEntity py "work_order_id") =
    input.workOrderId.map (fun id => .str id.str)
  site : (given payload "site_code").map (canonicalEntity py "site_code") =
    input.siteCode.map (fun site => .str site.text)

/-- A text that both ways of trimming turn into the same text, in upper case and of a permitted
length. -/
structure CanonicalCode (py : Interpreter) (maxLength : Nat) (s : String) : Prop where
  trimmed : strip s = stripWhitespace s
  upper : py.upper (strip s) = strip s
  one_le : 1 ≤ (strip s).length
  le_max : (strip s).length ≤ maxLength

/-- The values of a payload, as the input model has to find them. -/
structure CanonicalPayload (py : Interpreter) (pydantic : LaxPydantic) (payload : Payload) :
    Prop where
  noAlias : payload.get? "status" = none
  status : ∃ status : WorkOrderStatus, payload.get? "target_status" = some (.str status.value)
  code : ∀ value, given payload "work_order_code" = some value →
    ∃ s, value = .str s ∧ CanonicalCode py 100 s
  id : ∀ value, given payload "work_order_id" = some value →
    ∃ id, pydantic.laxUuid value = some id ∧ Uuid.parse py.toUnicodeData (py.str value) = some id
  site : ∀ value, given payload "site_code" = some value →
    ∃ s, value = .str s ∧ CanonicalCode py 50 s
  reason : ∀ value, given payload "reason" = some value → ∃ s, value = .str s ∧
    1 ≤ (stripWhitespace s).length ∧ (stripWhitespace s).length ≤ 500

/-! ## Fields of a payload -/

section

variable {payload : Payload} {field : String} {value : Value}

theorem get?_of_onlyFields {fields : List String} (h : onlyFields fields payload = true)
    (hfield : field ∉ fields) : payload.get? field = none := by
  unfold Dict.get?
  rw [List.lookup_eq_none_iff]
  intro item hitem
  have hmem : item.1 ∈ fields := of_decide_eq_true (List.all_eq_true.mp h item hitem)
  apply bne_iff_ne.mpr
  rintro rfl
  exact hfield hmem

theorem given_eq_some : given payload field = some value ↔
    payload.get? field = some value ∧ value.isNone = false := by
  unfold given
  cases payload.get? field with
  | none => simp
  | some other =>
    dsimp only
    split
    · rename_i hnone
      simp only [reduceCtorEq, Option.some.injEq, false_iff, not_and]
      rintro rfl
      rw [hnone]
      decide
    · rename_i hsome
      simp only [Option.some.injEq]
      constructor
      · rintro rfl
        exact ⟨rfl, Bool.eq_false_iff.mpr hsome⟩
      · exact And.left

theorem eq_none_of_isNone (h : value.isNone = true) : value = .none := by
  cases value <;> first | rfl | cases h

theorem given_eq_none (h : given payload field = none) :
    payload.get? field = none ∨ payload.get? field = some .none := by
  unfold given at h
  cases hget : payload.get? field with
  | none => exact .inl rfl
  | some value =>
    rw [hget] at h
    cases hnone : value.isNone
    · simp [hnone] at h
    · rw [eq_none_of_isNone hnone]
      exact .inr rfl

theorem optionalTrimmed_of_given_none {minLength maxLength : Nat} (h : given payload field = none) :
    optionalTrimmed minLength maxLength (payload.get? field) = some none := by
  rcases given_eq_none h with h | h <;> rw [h] <;> rfl

theorem optionalUuid_of_given_none (pydantic : LaxPydantic) (h : given payload field = none) :
    optionalUuid pydantic (payload.get? field) = some none := by
  rcases given_eq_none h with h | h <;> rw [h] <;> rfl

/-- A given text is read when it is of a permitted length. -/
theorem optionalTrimmed_eq_some {minLength maxLength : Nat}
    {t : Option (TrimmedText minLength maxLength)} (hvalue : value.isNone = false)
    (h : optionalTrimmed minLength maxLength (some value) = some t) :
    ∃ s text, value = .str s ∧ t = some text ∧ text.text = stripWhitespace s := by
  unfold optionalTrimmed at h
  split at h
  · rename_i heq
    cases heq
  · rename_i heq
    cases heq
    cases hvalue
  · rename_i s heq
    cases heq
    obtain ⟨text, htext, rfl⟩ := Option.map_eq_some_iff.mp h
    refine ⟨s, text, rfl, rfl, ?_⟩
    unfold TrimmedText.ofString? at htext
    split at htext
    · cases htext
      rfl
    · cases htext
  · cases h

theorem optionalTrimmed_str {minLength maxLength : Nat} {s : String}
    (hlow : minLength ≤ (stripWhitespace s).length)
    (hhigh : (stripWhitespace s).length ≤ maxLength) :
    ∃ text : TrimmedText minLength maxLength, text.text = stripWhitespace s ∧
      optionalTrimmed minLength maxLength (some (.str s)) = some (some text) := by
  refine ⟨⟨stripWhitespace s, stripWhitespace_idem s, hlow, hhigh⟩, rfl, ?_⟩
  unfold optionalTrimmed TrimmedText.ofString?
  simp only
  rw [dif_pos ⟨hlow, hhigh⟩]
  rfl

variable {py : Interpreter}

/-- A field that holds a code is read as its canonical value exactly when it is canonical. -/
theorem codeField_iff {maxLength : Nat} (hfield : field = "site_code" ∨ field = "work_order_code")
    (hcode : ∀ value, given payload field = some value →
      ∃ code, isCode code = true ∧ canonicalEntity py field value = .str code) :
    (∃ t, optionalTrimmed 1 maxLength (payload.get? field) = some t ∧
      (given payload field).map (canonicalEntity py field) =
        t.map (fun text => .str text.text)) ↔
      ∀ value, given payload field = some value →
        ∃ s, value = .str s ∧ CanonicalCode py maxLength s := by
  have hcanonical : ∀ s, canonicalEntity py field (.str s) = .str (py.upper (strip s)) := by
    intro s
    unfold canonicalEntity
    rw [if_pos hfield]
    rfl
  constructor
  · intro h value hgiven
    obtain ⟨t, ht, hmap⟩ := h
    obtain ⟨hget, hvalue⟩ := given_eq_some.mp hgiven
    rw [hget] at ht
    obtain ⟨s, text, rfl, rfl, htext⟩ := optionalTrimmed_eq_some hvalue ht
    obtain ⟨code, hcode, heq⟩ := hcode _ hgiven
    rw [hgiven, Option.map_some, Option.map_some, hcanonical, Option.some.injEq,
      Value.str.injEq, htext] at hmap
    rw [hcanonical, hmap, Value.str.injEq] at heq
    subst heq
    have htrimmed : strip s = stripWhitespace s := strip_of_code hcode
    refine ⟨s, rfl, htrimmed, hmap.trans htrimmed.symm, ?_, ?_⟩
    · rw [htrimmed, ← htext]
      exact text.le_length
    · rw [htrimmed, ← htext]
      exact text.length_le
  · intro h
    cases hgiven : given payload field with
    | none => exact ⟨none, optionalTrimmed_of_given_none hgiven, rfl⟩
    | some value =>
      obtain ⟨s, rfl, hs⟩ := h value hgiven
      obtain ⟨text, htext, hread⟩ := optionalTrimmed_str
        (hs.trimmed ▸ hs.one_le) (hs.trimmed ▸ hs.le_max)
      refine ⟨some text, ?_, ?_⟩
      · rw [(given_eq_some.mp hgiven).1, hread]
      · rw [Option.map_some, Option.map_some, hcanonical, hs.upper, hs.trimmed, htext]

theorem reasonField_iff :
    (∃ t, optionalTrimmed 1 500 (payload.get? "reason") = some t) ↔
      ∀ value, given payload "reason" = some value → ∃ s, value = .str s ∧
        1 ≤ (stripWhitespace s).length ∧ (stripWhitespace s).length ≤ 500 := by
  constructor
  · intro h value hgiven
    obtain ⟨t, ht⟩ := h
    obtain ⟨hget, hvalue⟩ := given_eq_some.mp hgiven
    rw [hget] at ht
    obtain ⟨s, text, rfl, rfl, htext⟩ := optionalTrimmed_eq_some hvalue ht
    refine ⟨s, rfl, ?_, ?_⟩
    · rw [← htext]
      exact text.le_length
    · rw [← htext]
      exact text.length_le
  · intro h
    cases hgiven : given payload "reason" with
    | none => exact ⟨none, optionalTrimmed_of_given_none hgiven⟩
    | some value =>
      obtain ⟨s, rfl, hlow, hhigh⟩ := h value hgiven
      obtain ⟨text, -, hread⟩ := optionalTrimmed_str hlow hhigh
      rw [(given_eq_some.mp hgiven).1]
      exact ⟨some text, hread⟩

theorem canonicalEntity_id {id : Uuid} (value : Value) :
    canonicalEntity py "work_order_id" value = .str id.str ↔
      Uuid.parse py.toUnicodeData (py.str value) = some id := by
  unfold canonicalEntity
  rw [if_neg (by simp), if_neg (by simp), if_pos rfl]
  cases hparse : Uuid.parse py.toUnicodeData (py.str value) with
  | some other =>
    dsimp only
    rw [Value.str.injEq, Option.some.injEq]
    exact Uuid.str_injective.eq_iff
  | none =>
    dsimp only
    rw [Value.str.injEq]
    constructor
    · intro h
      rw [h, Uuid.parse_str] at hparse
      cases hparse
    · intro h
      cases h

theorem uuidField_iff (pydantic : LaxPydantic) :
    (∃ t, optionalUuid pydantic (payload.get? "work_order_id") = some t ∧
      (given payload "work_order_id").map (canonicalEntity py "work_order_id") =
        t.map (fun id => .str id.str)) ↔
      ∀ value, given payload "work_order_id" = some value → ∃ id,
        pydantic.laxUuid value = some id ∧
          Uuid.parse py.toUnicodeData (py.str value) = some id := by
  have hread : ∀ {value : Value}, value.isNone = false →
      optionalUuid pydantic (some value) = (pydantic.laxUuid value).map some := by
    intro value hvalue
    cases value <;> first | rfl | cases hvalue
  constructor
  · intro h value hgiven
    obtain ⟨t, ht, hmap⟩ := h
    obtain ⟨hget, hvalue⟩ := given_eq_some.mp hgiven
    rw [hget, hread hvalue] at ht
    obtain ⟨id, hid, rfl⟩ := Option.map_eq_some_iff.mp ht
    rw [hgiven, Option.map_some, Option.map_some, Option.some.injEq, canonicalEntity_id] at hmap
    exact ⟨id, hid, hmap⟩
  · intro h
    cases hgiven : given payload "work_order_id" with
    | none => exact ⟨none, optionalUuid_of_given_none pydantic hgiven, rfl⟩
    | some value =>
      obtain ⟨hget, hvalue⟩ := given_eq_some.mp hgiven
      obtain ⟨id, hid, hparse⟩ := h value hgiven
      refine ⟨some id, ?_, ?_⟩
      · rw [hget, hread hvalue, hid]
        rfl
      · rw [Option.map_some, Option.map_some, (canonicalEntity_id value).mpr hparse]

theorem requiredStatus_eq_some {status : WorkOrderStatus} :
    requiredStatus (payload.get? field) = some status ↔
      payload.get? field = some (.str status.value) := by
  constructor
  · intro h
    unfold requiredStatus at h
    split at h
    · rename_i s hget
      have hvalue := List.find?_some h
      rw [hget, ← of_decide_eq_true hvalue]
    · cases h
  · intro h
    rw [h]
    exact WorkOrderStatus.ofValue?_value status

/-- The value of a status is its own canonical form. -/
theorem canonicalStatus_value (status : WorkOrderStatus) :
    canonicalStatus py status.value = status.value := by
  have hlower : py.lower (strip status.value) = status.value := by
    rw [py.lower_ascii _ (by cases status <;> decide)]
    cases status <;> decide
  unfold canonicalStatus
  rw [hlower]
  cases status <;> decide

theorem statusField_iff :
    (∃ status, requiredStatus (payload.get? "target_status") = some status ∧
      (given payload "target_status").map (canonicalEntity py "target_status") =
        some (.str status.value)) ↔
      ∃ status : WorkOrderStatus, payload.get? "target_status" = some (.str status.value) := by
  constructor
  · intro h
    obtain ⟨status, hstatus, -⟩ := h
    exact ⟨status, requiredStatus_eq_some.mp hstatus⟩
  · intro h
    obtain ⟨status, hget⟩ := h
    have hgiven := given_eq_some.mpr ⟨hget, rfl⟩
    refine ⟨status, requiredStatus_eq_some.mpr hget, ?_⟩
    have hcanonical : canonicalEntity py "target_status" (.str status.value) =
        .str (canonicalStatus py status.value) := rfl
    rw [hgiven, Option.map_some, hcanonical, canonicalStatus_value]

end

/-! ## Reading a payload -/

theorem parse_eq_ok {pydantic : LaxPydantic} {payload : Payload}
    {input : WriteWorkOrderStatusInput} :
    WriteWorkOrderStatusInput.parse pydantic payload = .ok input ↔
      onlyFields ["work_order_id", "work_order_code", WriteWorkOrderStatusInput.statusKey payload,
        "site_code", "reason"] payload = true ∧
      optionalUuid pydantic (payload.get? "work_order_id") = some input.workOrderId ∧
      optionalTrimmed 1 100 (payload.get? "work_order_code") = some input.workOrderCode ∧
      requiredStatus (payload.get? (WriteWorkOrderStatusInput.statusKey payload)) =
        some input.targetStatus ∧
      optionalTrimmed 1 50 (payload.get? "site_code") = some input.siteCode ∧
      optionalTrimmed 1 500 (payload.get? "reason") = some input.reason := by
  unfold WriteWorkOrderStatusInput.parse
  constructor
  · intro h
    split at h
    · rename_i hfields hid hcode hstatus hsite hreason
      cases h
      exact ⟨hfields, hid, hcode, hstatus, hsite, hreason⟩
    · cases h
  · intro h
    obtain ⟨hfields, hid, hcode, hstatus, hsite, hreason⟩ := h
    rw [hfields, hid, hcode, hstatus, hsite, hreason]

section

variable {py : Interpreter} {query : String} {payload : Payload}

theorem eq_str_of_pyEq {value : Value} {s : String} (h : value.pyEq (.str s) = true) :
    value = .str s := by
  cases value with
  | str t =>
    rw [Value.pyEq_str] at h
    rw [beq_iff_eq.mp h]
  | float x => cases x <;> simp [Value.pyEq, Value.number?] at h
  | none | bool _ | int _ | list _ | dict _ => simp [Value.pyEq, Value.number?] at h

theorem Matches.canonical {field : String} {expected value : Value}
    (h : Matches py field expected payload) {s : String}
    (hexpected : canonicalEntity py field expected = .str s)
    (hgiven : given payload field = some value) : canonicalEntity py field value = .str s := by
  obtain ⟨other, hother, heq⟩ := h
  rw [hgiven] at hother
  cases hother
  rw [hexpected] at heq
  exact eq_str_of_pyEq heq

/-- The canonical form of a code in upper case is a code. -/
theorem canonicalEntity_code (hcase : py.LetterCase) {field code : String}
    (hfield : field = "site_code" ∨ field = "work_order_code") (hcode : isCode code = true) :
    ∃ canonical, isCode canonical = true ∧
      canonicalEntity py field (.str (py.upper code)) = .str canonical := by
  have hupper := isCode_upper hcode hcase
  refine ⟨py.upper (py.upper code), isCode_upper hupper hcase, ?_⟩
  unfold canonicalEntity
  rw [if_pos hfield]
  change Value.str (py.upper (strip (py.upper code))) = _
  rw [strip_code hupper]

theorem AllowedWrite.code_canonical (hcase : py.LetterCase) (h : AllowedWrite py query payload)
    {value : Value} (hgiven : given payload "work_order_code" = some value) :
    ∃ code, isCode code = true ∧ canonicalEntity py "work_order_code" value = .str code := by
  rcases h.identifier with ⟨m, hm, hmatches, -⟩ | ⟨-, m, id, -, -, -, hnone⟩
  · have hcode := workOrderCode_code (search_of hm)
    obtain ⟨canonical, hcanonical, heq⟩ := canonicalEntity_code hcase (.inr rfl) hcode
    exact ⟨canonical, hcanonical, hmatches.canonical heq hgiven⟩
  · rw [hnone] at hgiven
    cases hgiven

theorem AllowedWrite.site_canonical (hcase : py.LetterCase) (h : AllowedWrite py query payload)
    {value : Value} (hgiven : given payload "site_code" = some value) :
    ∃ code, isCode code = true ∧ canonicalEntity py "site_code" value = .str code := by
  rcases h.site with ⟨site, hsite, hmatches⟩ | ⟨-, hnone⟩
  · obtain ⟨code, hcode, rfl⟩ := extractSiteCode_code hsite
    obtain ⟨canonical, hcanonical, heq⟩ := canonicalEntity_code hcase (.inl rfl) hcode
    exact ⟨canonical, hcanonical, hmatches.canonical heq hgiven⟩
  · rw [hnone] at hgiven
    cases hgiven

/-- The input model reads an allowed write as what the validator compared exactly when the payload
is canonical already. -/
theorem allowedWriteExecutes_iff (hcase : py.LetterCase) (pydantic : LaxPydantic)
    (inputSchema : Payload) (hkeys : onlyFields inputKeys payload = true)
    (hallows : Allows py query (writeDescriptor inputSchema) payload) :
    (∃ input, Executes py pydantic payload input) ↔ CanonicalPayload py pydantic payload := by
  have hallowed := (allows_write_iff inputSchema).mp hallows
  have hcodes := @codeField_iff payload "work_order_code" py 100 (.inr rfl)
    (fun _ => hallowed.code_canonical hcase)
  have hsites := @codeField_iff payload "site_code" py 50 (.inl rfl)
    (fun _ => hallowed.site_canonical hcase)
  have hkey : WriteWorkOrderStatusInput.statusKey payload = "target_status" := by
    obtain ⟨-, -, value, hgiven, -⟩ := hallowed.status
    unfold WriteWorkOrderStatusInput.statusKey Dict.contains
    rw [(given_eq_some.mp hgiven).1]
    rfl
  have hfields : onlyFields ["work_order_id", "work_order_code", "target_status", "site_code",
      "reason"] payload = true ↔ payload.get? "status" = none := by
    constructor
    · intro honly
      exact get?_of_onlyFields honly (by simp)
    · intro hnone
      apply List.all_eq_true.mpr
      intro item hitem
      have hmem : item.1 ∈ inputKeys := of_decide_eq_true (List.all_eq_true.mp hkeys item hitem)
      have hother : "status" ≠ item.1 := bne_iff_ne.mp (List.lookup_eq_none_iff.mp hnone item hitem)
      simp only [inputKeys, List.mem_cons, List.not_mem_nil, or_false] at hmem
      apply decide_eq_true
      simp only [List.mem_cons, List.not_mem_nil, or_false]
      tauto
  constructor
  · intro h
    obtain ⟨input, hinput⟩ := h
    have hread := parse_eq_ok.mp hinput.accepted
    rw [hkey] at hread
    obtain ⟨honly, hid, hcode, hstatus, hsite, hreason⟩ := hread
    exact {
      noAlias := hfields.mp honly
      status := statusField_iff.mp ⟨_, hstatus, hinput.status⟩
      code := hcodes.mp ⟨_, hcode, hinput.code⟩
      id := (uuidField_iff pydantic).mp ⟨_, hid, hinput.id⟩
      site := hsites.mp ⟨_, hsite, hinput.site⟩
      reason := reasonField_iff.mp ⟨_, hreason⟩ }
  · intro h
    obtain ⟨status, hstatus, hstatusValue⟩ := statusField_iff.mpr h.status
    obtain ⟨code, hcode, hcodeValue⟩ := hcodes.mpr h.code
    obtain ⟨id, hid, hidValue⟩ := (uuidField_iff pydantic).mpr h.id
    obtain ⟨site, hsite, hsiteValue⟩ := hsites.mpr h.site
    obtain ⟨reason, hreason⟩ := reasonField_iff.mpr h.reason
    refine ⟨⟨id, code, status, site, reason⟩, ?_, hstatusValue, hcodeValue, hidValue, hsiteValue⟩
    apply parse_eq_ok.mpr
    rw [hkey]
    exact ⟨hfields.mpr h.noAlias, hid, hcode, hstatus, hsite, hreason⟩

end

/-! ## A canonical write and one that is not -/

def completeQuery : String := "Change work order WO-HCM-0101 to completed at PLANT-HCM"

def canonicalWrite : Payload :=
  [("work_order_code", .str "WO-HCM-0101"), ("target_status", .str "completed"),
    ("site_code", .str "PLANT-HCM")]

/-- The same write in other letters. -/
def looseWrite : Payload :=
  [("work_order_code", .str "wo-hcm-0101"), ("target_status", .str "complete"),
    ("site_code", .str "plant-hcm")]

theorem allows_of_match {payload : Payload}
    (h : (match validateToolCallSemantics .letters completeQuery (writeDescriptor []) payload with
      | .ok result => result.allowed
      | .error _ => false) = true) :
    Allows .letters completeQuery (writeDescriptor []) payload := by
  split at h
  · rename_i result hresult
    exact ⟨result, hresult, h⟩
  · cases h

theorem canonicalWrite_canonical : CanonicalPayload .letters exactPydantic canonicalWrite where
  noAlias := rfl
  status := ⟨.completed, rfl⟩
  code := by
    intro value hvalue
    cases hvalue
    exact ⟨_, rfl, by decide, by decide, by decide, by decide⟩
  id := by
    intro value hvalue
    cases hvalue
  site := by
    intro value hvalue
    cases hvalue
    exact ⟨_, rfl, by decide, by decide, by decide, by decide⟩
  reason := by
    intro value hvalue
    cases hvalue

theorem allowedWriteExecutes_canonicalWrite :
    ∃ input, Executes .letters exactPydantic canonicalWrite input := by
  have hallows := @allows_of_match canonicalWrite (by decide +kernel)
  exact (allowedWriteExecutes_iff UnicodeData.letters_letterCase exactPydantic [] (by decide)
    hallows).mpr canonicalWrite_canonical

/-- The loose write is allowed and cannot be executed. -/
theorem not_allowedWriteExecutes : ¬∀ (query : String) (payload : Payload),
    onlyFields inputKeys payload = true → Allows .letters query (writeDescriptor []) payload →
      ∃ input, Executes .letters exactPydantic payload input := by
  intro hexecutes
  obtain ⟨input, hinput⟩ := hexecutes completeQuery looseWrite (by decide)
    (allows_of_match (by decide +kernel))
  have hstatus := (parse_eq_ok.mp hinput.accepted).2.2.2.1
  have hnone : requiredStatus (looseWrite.get? (WriteWorkOrderStatusInput.statusKey looseWrite)) =
      none := by
    decide
  rw [hnone] at hstatus
  cases hstatus

end HotAirBalloon.Operations
