import HotAirBalloon.Agent.ReferenceResolution

/-!
# The wording of follow-up answers

`formatting.py` and `policy.py` of `application/reference_resolution`. A template is given by its
pieces, as `str.format` parses it; the policy names no other fields than the three that `format` is
given.
-/

namespace HotAirBalloon.Agent

open Python Python.Re Regex Pattern Kernel Evidence

/-! ## Formatters -/

/-- `FieldValueFormatter.format`. -/
abbrev FieldValueFormatter := FieldQueryResult → Except PyError String

/-- A piece of a format string: a text, or a replacement field. -/
inductive TemplatePiece where
  | text (s : String)
  | entityId
  | label
  | value

/-- `format(value, "")`. -/
def formatScalar (py : Interpreter) : EvidenceScalar → Except PyError String
  | .int i => Json.intText i
  | scalar => .ok (py.str (scalarValue scalar))

def TemplatePiece.format (py : Interpreter) (value : FieldValue) :
    TemplatePiece → Except PyError String
  | text s => .ok s
  | entityId => .ok value.entityId
  | label => .ok value.label
  | TemplatePiece.value => formatScalar py value.value

/-- `"{entity_id}: {value}"`. -/
def defaultTemplate : List TemplatePiece := [.entityId, .text ": ", .value]

/-- `TemplateFieldValueFormatter.format`: a line for each value that there is. -/
def templateFieldValueFormatter (py : Interpreter) (template : List TemplatePiece) :
    FieldValueFormatter := fun result => do
  let lines ← (result.values.filter (fun value => value.value ≠ .none)).mapM fun value => do
    return String.join (← template.mapM (TemplatePiece.format py value))
  if !lines.isEmpty then return "\n".intercalate lines
  else return "The referenced " ++ result.entityLabel ++ " items do not contain " ++
    result.fieldName ++ "."

structure FieldValueFormatterRegistry where
  formatters : Dict FieldValueFormatter
  defaultFormatter : FieldValueFormatter

def FieldValueFormatterRegistry.format (registry : FieldValueFormatterRegistry) :
    FieldValueFormatter :=
  fun result => ((registry.formatters.get? result.fieldName).getD registry.defaultFormatter) result

/-! ## The policy -/

/-- `MappingValueRanker.rank`. -/
def mappingValueRanker (py : Interpreter) (values : Dict Int) : ReferenceValueRanker
  | .str value => values.get? (py.casefold value)
  | _ => none

/-- A field of the policy; its patterns are given by their searches. -/
structure ReferenceFieldPolicy where
  fieldName : String
  queryPatterns : List (String → Bool)
  formatter : FieldValueFormatter
  ranker : Option ReferenceValueRanker := none

structure ReferenceResolutionPolicy where
  fields : List ReferenceFieldPolicy
  maximumPatterns : List (String → Bool) := []
  minimumPatterns : List (String → Bool) := []

namespace ReferenceResolutionPolicy

variable (policy : ReferenceResolutionPolicy)

def parser : RegexReferenceQueryParser where
  fieldPatterns := policy.fields.flatMap fun field =>
    field.queryPatterns.map fun pattern => (pattern, field.fieldName)
  maximumPatterns := policy.maximumPatterns
  minimumPatterns := policy.minimumPatterns

/-- `build_resolver`. -/
def buildResolver (py : Interpreter) : ReferenceResolver where
  parser := policy.parser.parse py
  rankers := (policy.fields.filterMap fun field => field.ranker.map fun ranker =>
    (field.fieldName, ranker)).foldl (fun rankers entry => rankers.set entry.1 entry.2) []

/-- `build_formatter_registry`. -/
def buildFormatterRegistry (py : Interpreter) : FieldValueFormatterRegistry where
  formatters := policy.fields.foldl (fun formatters field =>
    formatters.set field.fieldName field.formatter) []
  defaultFormatter := templateFieldValueFormatter py defaultTemplate

end ReferenceResolutionPolicy

/-- A word of the list, between word boundaries. -/
def wordSearch (py : Interpreter) (choices : List String) : String → Bool :=
  found (seqs [wordEdge py, words choices, wordEdge py])

/-- Two words with white space between them, between word boundaries. -/
def phraseSearch (py : Interpreter) (first second : String) : String → Bool :=
  found (seqs [wordEdge py, lit first, plus space, lit second, wordEdge py])

/-- `build_default_reference_resolution_policy`. -/
def buildDefaultReferenceResolutionPolicy (py : Interpreter) : ReferenceResolutionPolicy where
  fields := [
    { fieldName := "due_at"
      queryPatterns := [wordSearch py ["due", "deadline", "date"]]
      formatter :=
        templateFieldValueFormatter py [.entityId, .text " is due on ", .value, .text "."] },
    { fieldName := "priority"
      queryPatterns := [wordSearch py ["priority"]]
      formatter := templateFieldValueFormatter py defaultTemplate
      ranker :=
        some (mappingValueRanker py [("low", 1), ("medium", 2), ("high", 3), ("critical", 4)]) }]
  maximumPatterns := [wordSearch py ["highest"], phraseSearch py "most" "urgent",
    phraseSearch py "most" "critical"]
  minimumPatterns := [wordSearch py ["lowest"], phraseSearch py "least" "urgent",
    phraseSearch py "least" "critical"]

end HotAirBalloon.Agent
