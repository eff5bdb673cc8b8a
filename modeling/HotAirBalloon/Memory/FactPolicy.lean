import HotAirBalloon.Memory.LongTerm
import HotAirBalloon.Python.Re

/-!
# Acceptance of extracted facts

`FactAcceptancePolicy` of `application/facts/act_policy.py`. A fact is rejected with the reason of
the first check that it fails; the time only decides how long an accepted fact is kept.
-/

namespace HotAirBalloon.Memory

open Python Python.Re Regex Pattern

inductive FactDecision where
  | accepted
  | rejected
  | duplicate
  deriving DecidableEq

def FactDecision.value : FactDecision → String
  | accepted => "accepted"
  | rejected => "rejected"
  | duplicate => "duplicate"

structure FactEvaluation where
  decision : FactDecision
  reason : String
  expiresAtUtc : Option DateTime

def storable : List String :=
  ["preference", "entity_affinity", "episodic_reference", "domain_constraint", "attributed_opinion"]

def ttlDays : List (String × Option Int) :=
  [("preference", none), ("entity_affinity", some 180), ("episodic_reference", some 180),
    ("domain_constraint", some 180), ("attributed_opinion", some 90)]

section

variable (py : Interpreter)

/-- `\b`. -/
def boundary : TextPattern := edge py.toUnicodeData

def digits : TextPattern := plus (digit py.toUnicodeData)

def volatileValuePattern : TextPattern :=
  alts [
    seqs [boundary py, digits py, opt (seqs [lit ".", digits py]), star space,
      alts [seqs [lit "unit", opt (lit "s")], lit "pcs", seqs [lit "piece", opt (lit "s")],
        seqs [lit "hour", opt (lit "s")], seqs [lit "day", opt (lit "s")], lit "%", lit "usd",
        lit "vnd"],
      boundary py],
    seqs [lit "$", star space, digits py]]

def volatileTimePattern : TextPattern :=
  seqs [boundary py,
    words ["currently", "right now", "as of today", "at the moment", "today", "tomorrow"],
    boundary py]

def authoritativeClaimPattern : TextPattern :=
  seqs [boundary py,
    words ["role", "permission", "authorized", "authorization", "site membership",
      "works at site"],
    boundary py]

end

structure FactAcceptancePolicy where
  py : Interpreter
  maxStatementCharacters : Int
  rederivableTerms : List String

namespace FactAcceptancePolicy

variable (policy : FactAcceptancePolicy)

/-- The reason for which a fact is rejected, if any. -/
def rejection (fact : ExtractedFact) (sourceTurnIds : List Uuid) : Option String :=
  let statement := strip fact.statement
  if statement = "" then some "empty_statement"
  else if policy.maxStatementCharacters < statement.length then some "statement_too_long"
  else if fact.evidenceTurnIds.isEmpty then some "missing_evidence"
  else if !fact.evidenceTurnIds.all (fun id => id ∈ sourceTurnIds) then some "invalid_evidence"
  else if fact.factClass ∉ storable then some "non_storable_class"
  else if found (authoritativeClaimPattern policy.py) statement then some "authoritative_claim"
  else if fact.factClass = "attributed_opinion" ∧ ¬ "User ".toList <+: statement.toList then
    some "opinion_requires_attribution"
  else if fact.factClass ≠ "domain_constraint" ∧
      (found (volatileValuePattern policy.py) statement ∨
        found (volatileTimePattern policy.py) statement) then
    some "volatile_value"
  else if policy.rederivableTerms.any
      (fun term => term.toList <:+: (policy.py.lower statement).toList) then
    some "rederivable_value"
  else none

/-- `TTL_DAYS[fact.fact_class]`, of a class that can be stored. -/
def retentionDays (factClass : String) : Option Int := (ttlDays.lookup factClass).join

/-- `evaluate`. -/
def evaluate (fact : ExtractedFact) (sourceTurnIds : List Uuid) (now : DateTime) : FactEvaluation :=
  match policy.rejection fact sourceTurnIds with
  | some reason => ⟨.rejected, reason, none⟩
  | none => ⟨.accepted, "accepted",
      (retentionDays fact.factClass).map (fun days => now + DateTime.days days)⟩

end FactAcceptancePolicy

end HotAirBalloon.Memory
