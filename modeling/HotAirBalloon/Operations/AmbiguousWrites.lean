import HotAirBalloon.Operations.AllowedWrites

/-!
# Ambiguous writes

The validator searches the query for the verb, the target status and the identifier, each on its
own, and takes the first match of each. So a query that mentions two orders and asks for a change
of one has an allowed write of the order that it mentions first.
-/

namespace HotAirBalloon.Operations

open Python Python.Re Regex Agent Gateway

section

variable (py : Interpreter) (query : String)

/-- The work order codes of a query, in upper case. -/
def codesIn : List String :=
  (findAll (workOrderCodePattern py) query.toList).map (fun m => py.upper (Re.text m))

/-- The UUIDs of a query. -/
def uuidsIn : List (Option Uuid) :=
  (findAll (uuidPattern py) query.toList).map
    (fun m => Uuid.parse py.toUnicodeData (Re.text m))

/-- The query mentions two work orders of one kind. -/
def Ambiguous : Prop :=
  (∃ code ∈ codesIn py query, ∃ other ∈ codesIn py query, code ≠ other) ∨
    ∃ id ∈ uuidsIn py query, ∃ other ∈ uuidsIn py query, id ≠ other

/-- No pattern resolves the query, and it has a mutation of a work order and a target status. -/
structure AsksForWrite : Prop where
  unresolved : resolveIntent py query = .ok none
  mutation : found (workOrderMutationPattern py) query = true
  status : (extractTargetStatus py query).isSome = true

end

section

variable {py : Interpreter} {query : String}

theorem AllowedWrite.asks {payload : Payload} (h : AllowedWrite py query payload) :
    AsksForWrite py query := by
  obtain ⟨expected, hexpected, -⟩ := h.status
  refine ⟨h.unresolved, h.mutation, ?_⟩
  rw [hexpected]
  rfl

theorem matches_self {payload : Payload} {field s : String}
    (h : given payload field = some (.str s)) : Matches py field (.str s) payload :=
  ⟨.str s, h, pyEq_self (canonicalEntity_cases py field (.inl ⟨s, rfl⟩))⟩

theorem Ambiguous.identifier (h : Ambiguous py query) :
    (∃ m, find (workOrderCodePattern py) query = some m) ∨
      find (workOrderCodePattern py) query = none ∧ ∃ m id, find (uuidPattern py) query = some m ∧
        Uuid.parse py.toUnicodeData (Re.text m) = some id := by
  cases hcode : find (workOrderCodePattern py) query with
  | some m => exact .inl ⟨m, rfl⟩
  | none =>
    right
    rcases h with ⟨code, hmem, -⟩ | ⟨id, hmem, -⟩
    · obtain ⟨m, hm, -⟩ := List.mem_map.mp hmem
      have hsome := search_isSome hm
      unfold Re.find at hcode
      rw [hcode] at hsome
      cases hsome
    · obtain ⟨m, hm, -⟩ := List.mem_map.mp hmem
      obtain ⟨first, hfirst⟩ := Option.isSome_iff_exists.mp (search_isSome hm)
      obtain ⟨id, hid⟩ := uuid_parses (search_of hfirst) py.toUnicodeData
      exact ⟨rfl, first, id, hfirst, hid⟩

/-- The payload with the first values that the query mentions. -/
def firstValues (status field identifier : String) (site : Option String) : Payload :=
  [("target_status", .str status), (field, .str identifier)] ++
    (site.map (fun site => ("site_code", Value.str site))).toList

theorem given_firstValues_site (status identifier : String) (site : Option String) {field : String}
    (hfield : field = "work_order_code" ∨ field = "work_order_id") :
    given (firstValues status field identifier site) "site_code" = site.map .str := by
  unfold given firstValues
  rcases hfield with rfl | rfl <;> cases site <;> rfl

theorem firstValues_site (status identifier : String) {field : String}
    (hfield : field = "work_order_code" ∨ field = "work_order_id") :
    (∃ site, extractSiteCode py query = some site ∧ Matches py "site_code" (.str site)
      (firstValues status field identifier (extractSiteCode py query))) ∨
      extractSiteCode py query = none ∧
        given (firstValues status field identifier (extractSiteCode py query)) "site_code" =
          none := by
  have hgiven := given_firstValues_site status identifier (extractSiteCode py query) hfield
  cases hsite : extractSiteCode py query with
  | none =>
    rw [hsite] at hgiven
    exact .inr ⟨rfl, hgiven⟩
  | some site =>
    rw [hsite] at hgiven
    exact .inl ⟨site, rfl, matches_self hgiven⟩

theorem AsksForWrite.exists_allowed (h : AsksForWrite py query) (hambiguous : Ambiguous py query) :
    ∃ payload, AllowedWrite py query payload := by
  obtain ⟨status, hstatus⟩ := Option.isSome_iff_exists.mp h.status
  rcases hambiguous.identifier with ⟨m, hcode⟩ | ⟨hcode, m, id, hid, hparse⟩
  · refine ⟨firstValues status "work_order_code" (py.upper (Re.text m)) (extractSiteCode py query),
      h.unresolved, h.mutation, ⟨status, hstatus, matches_self rfl⟩,
      .inl ⟨m, hcode, matches_self rfl, ?_⟩, firstValues_site _ _ (.inl rfl)⟩
    cases extractSiteCode py query <;> rfl
  · refine ⟨firstValues status "work_order_id" id.str (extractSiteCode py query),
      h.unresolved, h.mutation, ⟨status, hstatus, matches_self rfl⟩,
      .inr ⟨hcode, m, id, hid, hparse, matches_self rfl, ?_⟩, firstValues_site _ _ (.inr rfl)⟩
    cases extractSiteCode py query <;> rfl

/-- An ambiguous query has no allowed write exactly when it does not ask for one. -/
theorem ambiguousWriteRefused_iff (inputSchema : Payload) :
    (Ambiguous py query → ∀ payload, ¬Allows py query (writeDescriptor inputSchema) payload) ↔
      ¬Ambiguous py query ∨ ¬AsksForWrite py query := by
  constructor
  · intro hrefused
    by_cases hambiguous : Ambiguous py query
    · right
      intro hasks
      obtain ⟨payload, hallowed⟩ := hasks.exists_allowed hambiguous
      exact hrefused hambiguous payload ((allows_write_iff inputSchema).mpr hallowed)
    · exact .inl hambiguous
  · intro h hambiguous payload hallows
    have hasks := ((allows_write_iff inputSchema).mp hallows).asks
    rcases h with h | h
    · exact h hambiguous
    · exact h hasks

end

/-- A query that mentions one order as context and asks to cancel another. -/
def contextQuery : String := "WO-HCM-0001 is done, now set WO-HCM-0002 to cancelled"

theorem contextQuery_ambiguous : Ambiguous .letters contextQuery := by
  have hcodes : codesIn .letters contextQuery = ["WO-HCM-0001", "WO-HCM-0002"] := by
    decide +kernel
  left
  rw [hcodes]
  exact ⟨"WO-HCM-0001", by simp, "WO-HCM-0002", by simp, by decide⟩

/-- The order that is done may be cancelled. -/
theorem not_ambiguousWriteRefused : ¬∀ (query : String), Ambiguous .letters query →
    ∀ payload, ¬Allows .letters query (writeDescriptor []) payload := by
  intro hrefused
  have hallowed : (match validateToolCallSemantics .letters contextQuery (writeDescriptor [])
      [("work_order_code", .str "WO-HCM-0001"), ("target_status", .str "cancelled")] with
      | .ok result => result.allowed
      | .error _ => false) = true := by
    decide +kernel
  apply hrefused contextQuery contextQuery_ambiguous
    [("work_order_code", .str "WO-HCM-0001"), ("target_status", .str "cancelled")]
  split at hallowed
  · rename_i result hresult
    exact ⟨result, hresult, hallowed⟩
  · cases hallowed

end HotAirBalloon.Operations
