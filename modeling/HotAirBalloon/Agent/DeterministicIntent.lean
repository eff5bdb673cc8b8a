import HotAirBalloon.Python.Re
import HotAirBalloon.Python.Interpreter
import HotAirBalloon.Gateway.Domain

/-!
# Deterministic intents

`deterministic_intent.py`: the patterns and `resolve_intent`. The patterns are written in
the order and with the grouping of the source.

`int(raw_limit)` refuses more than 4300 digits, and `_LIMIT_WORDS[raw_limit]` has no entry
for a word that only matches through one of the four special letters of `re.IGNORECASE`, so
`resolveIntent` can raise.
-/

namespace HotAirBalloon.Agent

open Python Python.Re Regex Pattern Gateway

inductive DeterministicIntent where
  | directResponse
  | listWorkOrders
  | getAssetStatus
  | listMaintenanceTickets
  | checkSpareParts
  | getProductionSchedule
  deriving DecidableEq

def DeterministicIntent.value : DeterministicIntent → String
  | directResponse => "direct_response"
  | listWorkOrders => "list_work_orders"
  | getAssetStatus => "get_asset_status"
  | listMaintenanceTickets => "list_maintenance_tickets"
  | checkSpareParts => "check_spare_parts"
  | getProductionSchedule => "get_production_schedule"

structure IntentResolution where
  intent : DeterministicIntent
  toolName : Option String
  payload : Payload

variable (py : Interpreter)

/-- `\b`. -/
def wordEdge : TextPattern := edge py.toUnicodeData

/-- `\bwork\s+orders?\b`. -/
def workOrdersPattern : TextPattern :=
  seqs [wordEdge py, lit "work", plus space, lit "order", opt (lit "s"), wordEdge py]

def noToolPattern : TextPattern :=
  alts [
    seqs [wordEdge py,
      alts [seqs [lit "do", plus space, lit "not"], seqs [lit "don", oneOf "'\u2019", lit "t"],
        lit "never"],
      plus space, words ["call", "invoke", "use"], plus space, opt (seqs [lit "any", plus space]),
      lit "tool", opt (lit "s"), wordEdge py],
    seqs [wordEdge py, lit "without", plus space, opt (words ["calling", "invoking", "using"]),
      star space, opt (seqs [lit "any", plus space]), lit "tool", opt (lit "s"), wordEdge py],
    seqs [wordEdge py, lit "no", plus space, lit "tool", plus space, lit "call", opt (lit "s"),
      wordEdge py]]

def informationalPattern : TextPattern :=
  alts [
    seqs [start, star space, words ["explain", "define"], wordEdge py],
    seqs [start, star space, lit "what", plus space, words ["is", "are"], plus space,
      words ["a", "an"], wordEdge py]]

/-- Group 1 is the site code. -/
def sitePattern : TextPattern :=
  seqs [wordEdge py, words ["at", "for", "in", "site"], plus space,
    opt (seqs [lit "site", plus space]),
    group 1 (seqs [plus (sym letterOrDigit), plus (seqs [lit "-", plus (sym letterOrDigit)])]),
    wordEdge py]

def limitWords : List (String × Int) :=
  [("one", 1), ("two", 2), ("three", 3), ("four", 4), ("five", 5), ("six", 6), ("seven", 7),
    ("eight", 8), ("nine", 9), ("ten", 10), ("eleven", 11), ("twelve", 12), ("thirteen", 13),
    ("fourteen", 14), ("fifteen", 15), ("sixteen", 16), ("seventeen", 17), ("eighteen", 18),
    ("nineteen", 19), ("twenty", 20)]

/-- Group 1 is `limit`. -/
def limitPattern : TextPattern :=
  seqs [wordEdge py,
    alts [lit "top", lit "first", seqs [lit "limit", opt (seqs [lit "ed", plus space, lit "to"])],
      seqs [lit "show", opt (seqs [plus space, lit "me"])], lit "list", lit "display",
      seqs [lit "give", plus space, lit "me"]],
    plus space, opt (seqs [lit "the", plus space]),
    group 1 (alts (plus (digit py.toUnicodeData) :: limitWords.map (fun w => lit w.1))),
    wordEdge py]

/-- `\bWO-[A-Z0-9]+(?:-[A-Z0-9]+)*\b`. -/
def workOrderCodePattern : TextPattern :=
  seqs [wordEdge py, lit "WO-", plus (sym letterOrDigit),
    star (seqs [lit "-", plus (sym letterOrDigit)]), wordEdge py]

def retrievalPattern : TextPattern :=
  seqs [wordEdge py,
    alts [lit "show", lit "list", lit "find", lit "get", lit "fetch", lit "retrieve",
      lit "display", seqs [lit "give", plus space, lit "me"]],
    wordEdge py]

def dueSchedulePattern : TextPattern :=
  alts [
    seqs [wordEdge py, lit "production", plus space, lit "schedule", wordEdge py],
    seqs [workOrdersPattern py, anyUpTo 40, wordEdge py,
      words ["due", "deadline", "schedule", "upcoming"], wordEdge py],
    seqs [wordEdge py, words ["due", "upcoming"], wordEdge py, anyUpTo 40, workOrdersPattern py]]

def sparePartsPattern : TextPattern :=
  alts [
    seqs [wordEdge py, lit "spare", plus space, lit "part", opt (lit "s"), wordEdge py],
    seqs [wordEdge py, lit "part", opt (lit "s"), plus space,
      words ["availability", "inventory", "stock"], wordEdge py]]

def maintenanceTicketsPattern : TextPattern :=
  seqs [wordEdge py, lit "maintenance", plus space, lit "ticket", opt (lit "s"), wordEdge py]

def assetStatusPattern : TextPattern :=
  alts [
    seqs [wordEdge py, lit "asset", plus space, lit "status", opt (lit "es"), wordEdge py],
    seqs [wordEdge py, lit "status", plus space, lit "of", plus space,
      opt (seqs [lit "the", plus space]), lit "asset", opt (lit "s"), wordEdge py]]

def statusPatterns : List (TextPattern × String) :=
  [(seqs [wordEdge py, lit "in", plus (alt space (oneOf "_-")), lit "progress", wordEdge py],
      "in_progress"),
    (seqs [wordEdge py, lit "complete", opt (lit "d"), wordEdge py], "completed"),
    (seqs [wordEdge py, lit "cancel", words ["led", "ed"], wordEdge py], "cancelled"),
    (seqs [wordEdge py, lit "pending", wordEdge py], "pending"),
    (seqs [wordEdge py, lit "open", wordEdge py], "open")]

/-- `extract_site_code`: the first named site that is not a work order code. -/
def extractSiteCode (query : String) : Option String :=
  (findAll (sitePattern py) query.toList).findSome? fun siteMatch =>
    let siteCode := py.upper (Re.group siteMatch 1)
    if (fullMatch (workOrderCodePattern py) siteCode.toList).isSome then none else some siteCode

def sitePayload (query : String) : Payload :=
  match extractSiteCode py query with
  | none => []
  | some siteCode => [("site_code", .str siteCode)]

/-- `raw.isdecimal()`. -/
def isDecimal (raw : String) : Bool :=
  !raw.isEmpty && raw.toList.all (fun c => (py.decimal c).isSome)

/-- `int(raw)` of decimal characters. -/
def intOfDecimal (raw : String) : Except PyError Int :=
  if 4300 < raw.toList.length then
    throw (PyError.valueError ("Exceeds the limit (4300 digits) for integer string conversion: " ++
      "value has " ++ toString raw.toList.length ++
      " digits; use sys.set_int_max_str_digits() to increase the limit"))
  else return raw.toList.foldl (fun n c => 10 * n + ((py.decimal c).getD 0 : Nat)) 0

/-- `int(raw_limit) if raw_limit.isdecimal() else _LIMIT_WORDS[raw_limit]`. -/
def limitValue (rawLimit : String) : Except PyError Int :=
  if isDecimal py rawLimit then intOfDecimal py rawLimit
  else
    match limitWords.lookup rawLimit with
    | some limit => return limit
    | none => throw (PyError.keyError rawLimit)

def extractLimit (query : String) : Except PyError (Option Int) := do
  match find (limitPattern py) query with
  | none => return none
  | some limitMatch =>
    let limit ← limitValue py (py.lower (Re.group limitMatch 1))
    return if 1 ≤ limit ∧ limit ≤ 100 then some limit else none

def extractStatus (query : String) : Option String :=
  (statusPatterns py).findSome? fun (pattern, status) =>
    if found pattern query then some status else none

def commonPayload (query : String) : Except PyError Payload := do
  match ← extractLimit py query with
  | none => return sitePayload py query
  | some limit => return (sitePayload py query).set "limit" (.int limit)

/-- `resolve_intent`. -/
def resolveIntent (query : String) : Except PyError (Option IntentResolution) := do
  if found (noToolPattern py) query then
    return some ⟨.directResponse, none, []⟩
  if found (informationalPattern py) query then
    return some ⟨.directResponse, none, []⟩
  let payload ← commonPayload py query
  if found (dueSchedulePattern py) query then
    return some ⟨.getProductionSchedule, some "get_production_schedule", payload⟩
  if found (sparePartsPattern py) query && found (retrievalPattern py) query then
    return some ⟨.checkSpareParts, some "get_spare_parts_availability", payload⟩
  if found (maintenanceTicketsPattern py) query && found (retrievalPattern py) query then
    return some ⟨.listMaintenanceTickets, some "get_maintenance_tickets", payload⟩
  if found (assetStatusPattern py) query then
    return some ⟨.getAssetStatus, some "get_asset_status", sitePayload py query⟩
  if found (workOrdersPattern py) query && found (retrievalPattern py) query &&
      !found (workOrderCodePattern py) query then
    match extractStatus py query with
    | some status =>
      return some ⟨.listWorkOrders, some "get_work_orders", payload.set "status" (.str status)⟩
    | none => return some ⟨.listWorkOrders, some "get_work_orders", payload⟩
  return none

theorem resolution_of_any {resolved : Except PyError (Option IntentResolution)}
    {p : IntentResolution → Bool} (h : resolved.toOption.join.any p = true) :
    ∃ resolution, resolved = .ok (some resolution) ∧ p resolution = true := by
  rcases resolved with e | _ | resolution
  · cases h
  · cases h
  · exact ⟨resolution, rfl, h⟩

end HotAirBalloon.Agent
