import HotAirBalloon.Python.Value

/-!
# Response evidence

The value objects of `shared/kernel/response_evidence.py`: what a tool call showed, as
blocks that later code composes into answers and stores with the exchange.
-/

namespace HotAirBalloon.Kernel

open Python

/-- `str | int | float | bool | None`. -/
inductive EvidenceScalar where
  | str (s : String)
  | int (i : Int)
  | float (x : PyFloat)
  | bool (b : Bool)
  | none
  deriving DecidableEq

structure EvidenceField where
  name : String
  label : String
  value : EvidenceScalar
  deriving DecidableEq

structure SourceReference where
  sourceId : String
  title : String
  url : String
  publishedAt : Option String := none
  deriving DecidableEq

structure EvidenceItem where
  evidenceId : String
  entityId : String
  label : String
  fields : List EvidenceField := []
  source : Option SourceReference := none
  deriving DecidableEq

structure CollectionEvidence where
  evidenceId : String
  entityLabel : String
  entityLabelPlural : String
  filters : List EvidenceField
  requestedCount : Option Int
  items : List EvidenceItem
  deriving DecidableEq

structure MutationEvidence where
  evidenceId : String
  entityLabel : String
  entityId : String
  previousState : Option String
  currentState : String
  changed : Bool
  deriving DecidableEq

structure ActionRequiredEvidence where
  evidenceId : String
  action : String
  reason : String
  deriving DecidableEq

structure FailureEvidence where
  evidenceId : String
  code : String
  message : String
  retryable : Bool
  deriving DecidableEq

inductive EvidenceBlock where
  | collection (block : CollectionEvidence)
  | mutation (block : MutationEvidence)
  | actionRequired (block : ActionRequiredEvidence)
  | failure (block : FailureEvidence)
  deriving DecidableEq

/-- `EvidenceAdaptationError(message)`. -/
def evidenceAdaptationError (message : String) : PyError :=
  ⟨"EvidenceAdaptationError", message, true⟩

end HotAirBalloon.Kernel
