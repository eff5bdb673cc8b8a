import HotAirBalloon.Gateway.Stages
import HotAirBalloon.Operations.WriteWorkOrderStatus

/-!
# The web search tool

`web_search/tool.py`: the input and output models, a handler over any provider, and a registration
without a result adapter. The gateway calls `to_evidence` on what the registration has, so a search
that has succeeded ends in an `AttributeError`.
-/

namespace HotAirBalloon.Gateway

open Python Kernel User
open Operations
    (LaxPydantic TrimmedText optionalTrimmed onlyFields textField optionalText inputModel)

/-! ## Models -/

structure WebSearchQuery where
  query : String
  maxResults : Int
  language : Option String
  safeSearch : Bool

structure WebSearchResult where
  title : String
  url : String
  snippet : String
  publishedAt : Option String := none

/-- `WebSearchPort`: what a provider answers to a query. -/
abbrev WebSearchPort (W : Type) := WebSearchQuery → W → Except PyError (List WebSearchResult) × W

structure WebSearchToolInput where
  query : TrimmedText 1 500
  maxResults : Int
  language : Option (TrimmedText 2 10)
  safeSearch : Bool
  one_le_maxResults : 1 ≤ maxResults
  maxResults_le : maxResults ≤ 10

namespace WebSearchToolInput

/-- `int = Field(default=5, ge=1, le=10)`. -/
def maxResultsField (pydantic : LaxPydantic) : Option Value → Option { n : Int // 1 ≤ n ∧ n ≤ 10 }
  | none => some ⟨5, by decide⟩
  | some value => (pydantic.laxInt value).bind fun n =>
    if h : 1 ≤ n ∧ n ≤ 10 then some ⟨n, h⟩ else none

/-- The required query. -/
def queryField : Option Value → Option (TrimmedText 1 500)
  | some (.str s) => TrimmedText.ofString? 1 500 s
  | _ => none

/-- `bool = True`. -/
def safeSearchField (pydantic : LaxPydantic) : Option Value → Option Bool
  | none => some true
  | some value => pydantic.laxBool value

def parse (pydantic : LaxPydantic) (payload : Payload) : Except PyError WebSearchToolInput :=
  match onlyFields ["query", "max_results", "language", "safe_search"] payload,
    queryField (payload.get? "query"), maxResultsField pydantic (payload.get? "max_results"),
    optionalTrimmed 2 10 (payload.get? "language"),
    safeSearchField pydantic (payload.get? "safe_search") with
  | true, some query, some maxResults, some language, some safeSearch =>
    .ok ⟨query, maxResults.val, language, safeSearch, maxResults.property.1, maxResults.property.2⟩
  | _, _, _, _, _ => .error (pydantic.validationError "WebSearchToolInput" payload)

def dump (input : WebSearchToolInput) : Payload :=
  [("query", .str input.query.text), ("max_results", .int input.maxResults),
    ("language", Value.optionalStr (input.language.map (·.text))),
    ("safe_search", .bool input.safeSearch)]

end WebSearchToolInput

namespace WebSearchResult

/-- `WebSearchToolResult.model_validate(item)`. -/
def parse (item : Value) : Option WebSearchResult :=
  match item with
  | .dict item =>
    match onlyFields ["title", "url", "snippet", "published_at"] item, item.lookup "title",
      item.lookup "url", item.lookup "snippet", optionalText id (item.lookup "published_at") with
    | true, some (.str title), some (.str url), some (.str snippet), some publishedAt =>
      some ⟨title, url, snippet, publishedAt⟩
    | _, _, _, _, _ => none
  | _ => none

def dump (result : WebSearchResult) : Value :=
  .dict [("title", .str result.title), ("url", .str result.url), ("snippet", .str result.snippet),
    ("published_at", Value.optionalStr result.publishedAt)]

theorem parse_dump (result : WebSearchResult) : parse result.dump = some result := by
  obtain ⟨title, url, snippet, publishedAt⟩ := result
  cases publishedAt with
  | none => rfl
  | some publishedAt => rfl

end WebSearchResult

structure WebSearchToolOutput where
  toolName : String := "web_search"
  results : List WebSearchResult

namespace WebSearchToolOutput

def resultsField : Option Value → Option (List WebSearchResult)
  | some (.list items) => items.mapM WebSearchResult.parse
  | _ => none

def parse (pydantic : LaxPydantic) (raw : Payload) : Except PyError WebSearchToolOutput :=
  match onlyFields ["tool_name", "results"] raw, textField "web_search" (raw.get? "tool_name"),
    resultsField (raw.get? "results") with
  | true, some toolName, some results => .ok ⟨toolName, results⟩
  | _, _, _ => .error (pydantic.validationError "WebSearchToolOutput" raw)

def dump (output : WebSearchToolOutput) : Payload :=
  [("tool_name", .str output.toolName),
    ("results", .list (output.results.map WebSearchResult.dump))]

theorem resultsField_list (results : List WebSearchResult) :
    resultsField (some (.list (results.map WebSearchResult.dump))) = some results := by
  unfold resultsField
  induction results with
  | nil => rfl
  | cons result results ih =>
    simp only [List.map_cons, List.mapM_cons, WebSearchResult.parse_dump, ih]
    rfl

/-- The dump of an output is read back as the output. -/
theorem parse_dump (pydantic : LaxPydantic) (output : WebSearchToolOutput) :
    parse pydantic output.dump = .ok output := by
  have hfields : onlyFields ["tool_name", "results"] output.dump = true := by
    simp [onlyFields, dump]
  have hname : output.dump.get? "tool_name" = some (.str output.toolName) := rfl
  have hresults : output.dump.get? "results" =
      some (.list (output.results.map WebSearchResult.dump)) := rfl
  unfold parse
  rw [hfields, hname, hresults, resultsField_list]
  rfl

end WebSearchToolOutput

/-! ## The tool -/

variable {W L : Type}

/-- The query that the handler makes of its input. -/
def WebSearchToolInput.searchQuery (data : WebSearchToolInput) : WebSearchQuery where
  query := data.query.text
  maxResults := data.maxResults
  language := data.language.map (·.text)
  safeSearch := data.safeSearch

/-- The handler, on a payload that it validates again. -/
def webSearch (pydantic : LaxPydantic) (provider : WebSearchPort W) (payload : Payload) (w : W) :
    W × Except PyError Payload :=
  match WebSearchToolInput.parse pydantic payload with
  | .error e => (w, .error e)
  | .ok data =>
    let (results, w) := provider data.searchQuery w
    (w, results.map fun results => ({ results := results } : WebSearchToolOutput).dump)

/-- `result_adapter=None`: the call of `to_evidence` on it. -/
def noAdapter : ToolResultAdapter := fun _ _ =>
  .error ⟨"AttributeError", "'NoneType' object has no attribute 'to_evidence'", true⟩

def webSearchDescription : String :=
  "Search public web sources when the user needs current or externally verifiable " ++
  "information. Use query for grounded public search terms and max_results from 1-10. " ++
  "Do not use for internal ERP work orders, assets, tickets, spare parts, schedules, " ++
  "user-table audits, or questions answerable from supplied context. Read-only."

def buildWebSearchTool (pydantic : LaxPydantic) (provider : WebSearchPort W) :
    AssistantToolRegistration W where
  definition := {
    name := "web_search"
    description := webSearchDescription
    inputModel := inputModel "WebSearchToolInput" (WebSearchToolInput.parse pydantic)
      WebSearchToolInput.dump
    outputModel := fun raw => (WebSearchToolOutput.parse pydantic raw).map WebSearchToolOutput.dump
    handler := webSearch pydantic provider
    requiredPermission := .webSearch
    rateLimit := some ⟨5, 60, by decide, ToolRateLimit.one_le_minute⟩ }
  resultAdapter := noAdapter

/-! ## After a handler has succeeded -/

/-- A permitted and approved call whose handler returns an output. -/
structure HandlerSucceeds (gateway : ToolGateway W L) (toolName : String) (payload : Payload)
    (ctx : AuthorizationContext) (conversationId : Option Uuid) (s : GatewayState W L)
    (registration : AssistantToolRegistration W) (validated raw : Payload) : Prop where
  admitted : admission gateway toolName payload ctx conversationId = .ok (registration, validated)
  rateAllowed : RateAllowed gateway registration.definition ctx.userId.str s.limiter
  approved :
    approval gateway registration.definition ctx.userId.str validated = .ok (.approved, none)
  returns : (registration.definition.handler validated s.world).2 = .ok raw

/-- The call is reported as a success, with evidence. -/
def ReportsSuccess (outcome : Except PyError ToolCallRecord) : Prop :=
  ∃ record, outcome = .ok record ∧ record.status = .success ∧ record.evidence ≠ []

variable {gateway : ToolGateway W L} {toolName : String} {payload : Payload}
  {ctx : AuthorizationContext} {conversationId : Option Uuid} {s : GatewayState W L}
  {registration : AssistantToolRegistration W} {validated raw : Payload}

/-- What a call of a tool that is not retried returns after its handler has succeeded. -/
theorem HandlerSucceeds.exec_eq
    (h : HandlerSucceeds gateway toolName payload ctx conversationId s registration validated raw)
    (hretries : registration.definition.maxRetries = 0) {result : Payload}
    (hvalid : registration.definition.outputModel raw = .ok result) :
    ∃ s' : GatewayState W L,
      (exec (gateway.invoke toolName payload ctx conversationId) s).1 =
        (exec (adaptResult registration ctx.userId.str conversationId validated result) s').1 := by
  have hchecked : checkedOutput registration.definition
      (registration.definition.handler validated s.world).2 = .ok result := by
    rw [h.returns]
    exact hvalid
  rw [exec_invoke_of_admitted h.admitted, exec_limitedCall_of_allowed s h.rateAllowed]
  exact (exec_executeApproved_once hretries h.approved conversationId _).2 result hchecked

/-- What the search returns is the dump of an output. -/
theorem dump_of_webSearch {pydantic : LaxPydantic} {provider : WebSearchPort W} {w : W}
    (h : (webSearch pydantic provider payload w).2 = .ok raw) :
    ∃ output : WebSearchToolOutput, raw = output.dump := by
  unfold webSearch at h
  split at h
  · cases h
  · rename_i data _
    dsimp only at h
    rcases hresults : (provider data.searchQuery w).1 with e | results
    · rw [hresults] at h
      cases h
    · rw [hresults] at h
      cases h
      exact ⟨_, rfl⟩

/-- A search that has succeeded ends in an `AttributeError`. -/
theorem webSearch_raises {pydantic : LaxPydantic} {provider : WebSearchPort W}
    (h : HandlerSucceeds gateway toolName payload ctx conversationId s
      (buildWebSearchTool pydantic provider) validated raw) :
    (exec (gateway.invoke toolName payload ctx conversationId) s).1 =
      .error ⟨"AttributeError", "'NoneType' object has no attribute 'to_evidence'", true⟩ := by
  obtain ⟨output, rfl⟩ := dump_of_webSearch h.returns
  have hvalid : (buildWebSearchTool pydantic provider).definition.outputModel output.dump =
      .ok output.dump := by
    change (WebSearchToolOutput.parse pydantic output.dump).map _ = _
    rw [WebSearchToolOutput.parse_dump]
    rfl
  obtain ⟨s', hexec⟩ := h.exec_eq rfl hvalid
  rw [hexec]
  rfl

end HotAirBalloon.Gateway
