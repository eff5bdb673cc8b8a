import HotAirBalloon.Agent.Workflow
import HotAirBalloon.Evidence.Snapshot

/-!
# The composer of tool-backed answers

`application/response_composer.py`: the answer is rendered from the evidence alone, and it is never
blank.
-/

namespace HotAirBalloon.Agent

open Python Kernel Evidence

/-- The composer, with `str.title()` of the interpreter. -/
structure FinalResponseComposer where
  py : Interpreter
  title : String → String

namespace FinalResponseComposer

variable (composer : FinalResponseComposer)

def fieldText (field : EvidenceField) : String :=
  field.label ++ ": " ++ composer.py.str (scalarValue field.value)

/-- A row of the list of items. -/
def itemRow (index : Nat) (item : EvidenceItem) : String :=
  toString index ++ ". " ++ item.label ++
    if item.fields.isEmpty then ""
    else " (" ++ ", ".intercalate (item.fields.map composer.fieldText) ++ ")"

/-- `_collection`. -/
def collection (block : CollectionEvidence) : String :=
  let count := block.items.length
  let label := if count = 1 then block.entityLabel else block.entityLabelPlural
  let filters := ", ".intercalate (block.filters.map composer.fieldText)
  let suffix := if filters = "" then "" else " (" ++ filters ++ ")"
  if count = 0 then "No " ++ block.entityLabelPlural ++ " found" ++ suffix ++ "."
  else
    let header := "Found " ++ toString count ++ " " ++ label ++ suffix ++
      match block.requestedCount with
      | some requested =>
        if (count : Int) < requested then ", fewer than the " ++ toString requested ++ " requested"
        else ""
      | none => ""
    let rows := (block.items.zipIdx 1).map fun (item, index) => composer.itemRow index item
    header ++ ":\n" ++ "\n".intercalate rows

/-- `_mutation`. -/
def mutation (block : MutationEvidence) : String :=
  let subject := composer.title block.entityLabel ++ " " ++ block.entityId
  if !block.changed then subject ++ " is already " ++ block.currentState ++ "."
  else
    match block.previousState with
    | none => subject ++ " is now " ++ block.currentState ++ "."
    | some previous =>
      subject ++ " changed from " ++ previous ++ " to " ++ block.currentState ++ "."

/-- `_render`. -/
def render : EvidenceBlock → String
  | .collection block => composer.collection block
  | .mutation block => composer.mutation block
  | .actionRequired block =>
    "Action required: " ++ block.action ++ ". Reason: " ++ block.reason ++ "."
  | .failure block => "Unable to complete the request (" ++ block.code ++ "): " ++ block.message

/-- `compose(query, evidence).answer`. -/
def compose (_query : String) (evidence : List EvidenceBlock) : Except PyError String :=
  if evidence.isEmpty then throw (PyError.valueError "evidence is required")
  else return "\n\n".intercalate (evidence.map composer.render)

/-- A context whose answers this composer renders. -/
def context {B W : Type} (ctx : GraphContext B W) : GraphContext B W :=
  { ctx with composeAnswer := composer.compose }

end FinalResponseComposer

/-! ## Blank text -/

/-- A text with a character that is not white space. -/
def HasText (s : String) : Prop := ∃ c ∈ s.toList, isSpace c = false

theorem strip_ne_empty {s : String} (h : HasText s) : strip s ≠ "" := by
  obtain ⟨c, hc, hspace⟩ := h
  unfold strip stripBy stripList
  intro hempty
  have hnil : ((s.toList.dropWhile isSpace).rdropWhile isSpace) = [] := by
    have htoList := congrArg String.toList hempty
    rwa [String.toList_ofList] at htoList
  rw [List.rdropWhile_eq_nil_iff] at hnil
  have hfront : s.toList.dropWhile isSpace ≠ [] := by
    rw [Ne, List.dropWhile_eq_nil_iff]
    intro hall
    rw [hall c hc] at hspace
    cases hspace
  -- the first character that is left is not white space
  have hlength : 0 < (s.toList.dropWhile isSpace).length := List.length_pos_iff.mpr hfront
  have hhead := List.dropWhile_get_zero_not isSpace s.toList hlength
  exact hhead (hnil _ (List.get_mem _ _))

theorem HasText.append_left {s : String} (h : HasText s) (s' : String) : HasText (s ++ s') := by
  obtain ⟨c, hc, hspace⟩ := h
  refine ⟨c, ?_, hspace⟩
  rw [String.toList_append]
  exact List.mem_append_left _ hc

theorem HasText.append_right {s : String} (h : HasText s) (s' : String) : HasText (s' ++ s) := by
  obtain ⟨c, hc, hspace⟩ := h
  refine ⟨c, ?_, hspace⟩
  rw [String.toList_append]
  exact List.mem_append_right _ hc

theorem HasText.intercalate {s : String} (h : HasText s) (separator : String) (rest : List String) :
    HasText (separator.intercalate (s :: rest)) := by
  cases rest with
  | nil =>
    rw [String.intercalate_singleton]
    exact h
  | cons first rest =>
    rw [String.intercalate_cons_cons]
    exact (h.append_left _).append_left _

namespace FinalResponseComposer

variable {composer : FinalResponseComposer}

theorem hasText_render (block : EvidenceBlock) : HasText (composer.render block) := by
  cases block with
  | collection block =>
    change HasText (composer.collection block)
    unfold collection
    dsimp only
    split
    · have hno : HasText "No " := ⟨'N', by decide, by decide⟩
      exact ((((hno.append_left _).append_left _).append_left _).append_left _)
    · have hfound : HasText "Found " := ⟨'F', by decide, by decide⟩
      exact ((((((hfound.append_left _).append_left _).append_left _).append_left _).append_left
        _).append_left _).append_left _
  | mutation block =>
    change HasText (composer.mutation block)
    have hdot : HasText "." := ⟨'.', by decide, by decide⟩
    unfold mutation
    dsimp only
    split
    · exact hdot.append_right _
    · split <;> exact hdot.append_right _
  | actionRequired block => exact HasText.append_right ⟨'.', by decide, by decide⟩ _
  | failure block =>
    have hunable : HasText "Unable to complete the request (" := ⟨'U', by decide, by decide⟩
    exact ((hunable.append_left _).append_left _).append_left _

/-- A composed answer is not blank. -/
theorem strip_compose_ne_empty {query answer : String} {evidence : List EvidenceBlock}
    (h : composer.compose query evidence = .ok answer) : strip answer ≠ "" := by
  cases evidence with
  | nil => cases h
  | cons block rest =>
    cases h
    exact strip_ne_empty ((hasText_render block).intercalate _ _)

end FinalResponseComposer

end HotAirBalloon.Agent
