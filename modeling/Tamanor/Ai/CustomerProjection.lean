import Tamanor.Ai.Pipeline
import Tamanor.Library.Json

/-! What a customer may see of a stored classification (`evidence.ts`). The stored
diagnostics are JSON of unknown shape; anything that is not a readable gate
decision counts as no decision at all. -/

set_option autoImplicit false

namespace Tamanor.Ai

open Tamanor.Core Library Library.Text

/-! The diagnostics as they are stored. -/

def stringsToJson (values : List String) : Json ℚ := .arr (values.map Json.str)

def RiskSnapshot.toJson (snapshot : RiskSnapshot) : Json ℚ :=
  .obj [
    ("level", .str snapshot.level),
    ("confidence", .num snapshot.confidence),
    ("categories", stringsToJson snapshot.categories)]

def CategoryDecision.toJson (decision : CategoryDecision) : Json ℚ :=
  .obj [
    ("category", .str decision.category),
    ("verdict", .str decision.verdict.value),
    ("reason", .str decision.reason)]

def EvidenceGate.toJson (gate : EvidenceGate) : Json ℚ :=
  .obj [
    ("decisions", .arr (gate.decisions.map CategoryDecision.toJson)),
    ("severity", .obj [
      ("proposed", .str gate.severity.proposed),
      ("applied", .str gate.severity.applied),
      ("capped", .bool gate.severity.capped),
      ("reason", .str gate.severity.reason)])]

def AiDiagnostics.toJson (diagnostics : AiDiagnostics) : Json ℚ :=
  .obj [
    ("callMode", .str diagnostics.callMode.value),
    ("gate", .obj [
      ("aiCalled", .bool diagnostics.gate.aiCalled),
      ("reason", .str diagnostics.gate.reason)]),
    ("rules", diagnostics.rules.toJson),
    ("ai", .obj (("status", .str diagnostics.ai.status.value) ::
      (Json.optional "errorCode" (diagnostics.ai.errorCode.map Json.str) ++
        Json.optional "verdict" (diagnostics.ai.verdict.map RiskSnapshot.toJson)))),
    ("merged", diagnostics.merged.toJson),
    ("evidenceGate", diagnostics.evidenceGate.toJson)]

def nonAccusatory : List String := ["neutral", "positive"]

inductive CustomerClassificationDisplay where
  | confirmedCategory (category : String)
  | reviewRequired (legacy : Bool)
  | noIssue

structure GateDecision where
  category : String
  verdict : String

def gateConfirms (decisions : List GateDecision) (category : String) : Bool :=
  decisions.any fun decision => decision.category == category && decision.verdict == "confirmed"

def presentable (categories : List String) : List String :=
  categories.filter fun category => !nonAccusatory.contains category

def accusations (categories : List String) : List String :=
  (presentable categories).filter fun category => evidenceRequiredCategories.contains category

def heldForReview (decisions : List GateDecision) : Bool :=
  decisions.any fun decision => decision.verdict == "review_required"

def customerClassificationDisplay (persistedCategories : List String)
    (decisions : List GateDecision) : CustomerClassificationDisplay :=
  if heldForReview decisions then .reviewRequired false
  else
    match accusations persistedCategories with
    | first :: rest =>
      let unverified := (first :: rest).filter fun category => !gateConfirms decisions category
      if 0 < unverified.length then .reviewRequired (decisions.length = 0)
      else .confirmedCategory first
    | [] =>
      match presentable persistedCategories with
      | [] => .noIssue
      | descriptive :: _ => .confirmedCategory descriptive

def isLegacyUnverifiedVerdict (persistedCategories : List String)
    (decisions : List GateDecision) : Bool :=
  persistedCategories.any (fun category => evidenceRequiredCategories.contains category) &&
    decisions.length = 0

def capUnconfirmed (level : String) : String :=
  if rank "high" ≤ rank level then "medium" else level

def customerVisibleRiskLevel (level : String) : CustomerClassificationDisplay → String
  | .confirmedCategory _ => level
  | _ => capUnconfirmed level

structure StoredAutoProtect where
  decision : String
  matchedCategory : String

/-- `riskCategories` may be missing; `aiDiagnostics` is whatever the column holds. -/
structure StoredClassificationRow where
  riskLevel : String
  riskCategories : Option (List String)
  aiDiagnostics : Json ℚ
  autoProtect : Option StoredAutoProtect

inductive AutoProtectViewState where
  | confirmed | staleUnverified | none

structure CustomerAutoProtectView where
  state : AutoProtectViewState
  decision : Option String
  matchedCategory : Option String
  countsTowardWouldAutoHide : Bool
  requiresReanalysis : Bool

inductive ProjectionState where
  | confirmed | reviewRequired | noIssue
deriving DecidableEq

def ProjectionState.value : ProjectionState → String
  | .confirmed => "confirmed"
  | .reviewRequired => "review_required"
  | .noIssue => "no_issue"

structure StoredValues where
  riskLevel : String
  categories : List String
  autoProtectDecision : Option String
  matchedCategory : Option String

structure CustomerClassificationProjection where
  state : ProjectionState
  categories : List String
  riskLevel : String
  legacyUnverified : Bool
  requiresReview : Bool
  eligibleForCategoryTotals : Bool
  eligibleForSeverityTotals : Bool
  autoProtect : CustomerAutoProtectView
  stored : StoredValues

def readGateDecision (entry : Json ℚ) : Option GateDecision := do
  let category ← (← entry.field? "category").asString?
  let verdict ← (← entry.field? "verdict").asString?
  if category = "" ∨ verdict = "" then none else some { category, verdict }

def readEvidenceGateDecisions (aiDiagnostics : Json ℚ) : List GateDecision :=
  match (aiDiagnostics.field? "evidenceGate").bind (·.field? "decisions") with
  | some (.arr raw) => raw.filterMap readGateDecision
  | _ => []

def CustomerClassificationDisplay.state : CustomerClassificationDisplay → ProjectionState
  | .confirmedCategory _ => .confirmed
  | .reviewRequired _ => .reviewRequired
  | .noIssue => .noIssue

def highish : List String := ["high", "critical"]

/-- A fresh clean classification may carry a current decision of ordinary criticism. -/
def currentNoIssueDecision (state : ProjectionState) (stored : StoredAutoProtect) : Bool :=
  state == .noIssue && stored.matchedCategory == "normal_criticism" &&
    (stored.decision == "no_action" || stored.decision == "monitor" ||
      stored.decision == "blocked_by_safety")

def customerAutoProtectView (state : ProjectionState) :
    Option StoredAutoProtect → CustomerAutoProtectView
  | none =>
    { state := .none, decision := none, matchedCategory := none
      countsTowardWouldAutoHide := false, requiresReanalysis := false }
  | some stored =>
    if state == .confirmed || currentNoIssueDecision state stored then
      { state := .confirmed
        decision := some stored.decision
        matchedCategory := some stored.matchedCategory
        countsTowardWouldAutoHide := stored.decision == "would_auto_hide"
        requiresReanalysis := false }
    else
      { state := .staleUnverified, decision := none, matchedCategory := none
        countsTowardWouldAutoHide := false, requiresReanalysis := true }

def projectStoredClassification (row : StoredClassificationRow) :
    CustomerClassificationProjection :=
  let storedCategories := row.riskCategories.getD []
  let decisions := readEvidenceGateDecisions row.aiDiagnostics
  let display := customerClassificationDisplay storedCategories decisions
  let state := display.state
  let categories := match display with
    | .confirmedCategory _ => storedCategories.filter fun category =>
      !nonAccusatory.contains category &&
        (!evidenceRequiredCategories.contains category || gateConfirms decisions category)
    | _ => []
  { state
    categories
    riskLevel := customerVisibleRiskLevel row.riskLevel display
    legacyUnverified := isLegacyUnverifiedVerdict storedCategories decisions
    requiresReview := state == .reviewRequired
    eligibleForCategoryTotals := state == .confirmed
    eligibleForSeverityTotals := state == .confirmed && highish.contains row.riskLevel
    autoProtect := customerAutoProtectView state row.autoProtect
    stored :=
      { riskLevel := row.riskLevel
        categories := storedCategories
        autoProtectDecision := row.autoProtect.map StoredAutoProtect.decision
        matchedCategory := row.autoProtect.map StoredAutoProtect.matchedCategory } }

def customerProjectionVersion : Int := 1

structure PersistedProjectionFields where
  customerClassificationState : ProjectionState
  customerRiskLevel : String
  customerRiskCategories : List String
  customerClassificationProjectionVersion : Int
  customerRequiresReanalysis : Bool

def persistedProjectionFields (row : StoredClassificationRow) : PersistedProjectionFields :=
  let projection := projectStoredClassification row
  { customerClassificationState := projection.state
    customerRiskLevel := projection.riskLevel
    customerRiskCategories := projection.categories
    customerClassificationProjectionVersion := customerProjectionVersion
    customerRequiresReanalysis :=
      projection.requiresReview || projection.autoProtect.requiresReanalysis }

def persistedProjectionFieldsAfterClassification (row : StoredClassificationRow) :
    PersistedProjectionFields :=
  { persistedProjectionFields row with customerRequiresReanalysis := false }

/-- The columns as they are read back: any of them may be missing, and the state
may be any string. -/
structure PersistedProjectionRow where
  customerClassificationState : Option String
  customerRiskLevel : Option String
  customerRiskCategories : Option (List String)
  customerClassificationProjectionVersion : Option Int
  customerRequiresReanalysis : Option Bool

def PersistedProjectionFields.toRow (fields : PersistedProjectionFields) :
    PersistedProjectionRow where
  customerClassificationState := some fields.customerClassificationState.value
  customerRiskLevel := some fields.customerRiskLevel
  customerRiskCategories := some fields.customerRiskCategories
  customerClassificationProjectionVersion := some fields.customerClassificationProjectionVersion
  customerRequiresReanalysis := some fields.customerRequiresReanalysis

structure ReadProjection where
  state : ProjectionState
  categories : List String
  riskLevel : String
  requiresReanalysis : Bool
  stale : Bool

def versionCurrent : Option Int → Bool
  | none => false
  | some version => decide (customerProjectionVersion ≤ version)

def ProjectionState.ofString? : String → Option ProjectionState
  | "confirmed" => some .confirmed
  | "review_required" => some .reviewRequired
  | "no_issue" => some .noIssue
  | _ => none

/-- The closed answer for a row that is missing, stale or contradictory. -/
def ReadProjection.unverified : ReadProjection where
  state := .reviewRequired
  categories := []
  riskLevel := "medium"
  requiresReanalysis := true
  stale := true

def readPersistedProjection (row : PersistedProjectionRow) : ReadProjection :=
  let known := row.customerClassificationState.bind ProjectionState.ofString?
  match versionCurrent row.customerClassificationProjectionVersion, known with
  | true, some state =>
    let categories := row.customerRiskCategories.getD []
    if state = .confirmed ∧ categories.length = 0 then .unverified
    else
      let stored := row.customerRiskLevel.getD ""
      let level := if 0 < stored.length then stored else "none"
      { state
        categories := if state = .confirmed then categories else []
        riskLevel := if state = .confirmed then level else capUnconfirmed level
        requiresReanalysis := row.customerRequiresReanalysis == some true
        stale := false }
  | _, _ => .unverified

end Tamanor.Ai
