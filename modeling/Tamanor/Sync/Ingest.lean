import Tamanor.Ai.CustomerProjection
import Tamanor.Db.AccountProtection
import Tamanor.Sync.LiveActions
import Tamanor.Sync.MeteredClassify

/-! Ingest of one provider item (`ingestItem` and `persistNewItem` of the sync package):
classify, persist, let the Control Center decide, and attempt an autonomous hide. The
answers of the database and of the services are in the environment; a run collects what
the ingest wrote and attempted. -/

set_option autoImplicit false

namespace Tamanor.Sync

open Tamanor.Core Tamanor.Db Ai Library

structure TenantRow where
  plan : String
  accessState : String
  internalAccess : Bool
  defaults : TenantDefaultFields

structure AccountRow where
  id : String
  tenantId : String
  brandId : String
  platform : Platform
  status : String
  health : String
  grantedPermissions : List String
  pageId : Option String
  externalId : String
  tokenExpiresAt : Option Int
  connectionStatus : Option String
  tokenHealth : Option String
  lastError : Option String
  protection : AccountProtectionFields

structure ContentAuthor where
  externalId : Option String
  displayName : Option String
  locale : Option String
deriving DecidableEq

structure FetchedContent where
  externalId : String
  externalParentId : Option String
  kind : String
  platform : Platform
  text : Text
  rating : Option ℚ
  author : ContentAuthor
  permalink : Option String
  publishedAt : Int
deriving DecidableEq

structure ContentFields where
  text : Text
  externalParentId : Option String
  authorDisplayName : Option String
  authorLocale : Option String
  rating : Option ℚ
  permalink : Option String
  publishedAt : Int
deriving DecidableEq

def mutableContentFields (item : FetchedContent) : ContentFields where
  text := item.text
  externalParentId := item.externalParentId
  authorDisplayName := item.author.displayName
  authorLocale := item.author.locale
  rating := item.rating
  permalink := item.permalink
  publishedAt := item.publishedAt

def contentChanged (existing : ContentFields) (item : FetchedContent) : Bool :=
  existing != mutableContentFields item

structure ControlPolicyRow extends ControlPolicyLite where
  id : String

structure OpenIncident where
  id : String
  relatedItemIds : List String

inductive Priority where
  | urgent | high | normal | low

def priorityFor (level : String) : Priority :=
  if level = "critical" then .urgent
  else if level = "high" then .high
  else if level = "medium" then .normal
  else .low

structure ReputationRow where
  priority : Priority
  requiresApproval : Bool
  riskLevel : String
  riskConfidence : ℚ
  riskCategories : List String
  projection : PersistedProjectionFields
  sentiment : String
  riskRationale : String
  riskEngine : String
  processingTier : ProcessingTier
  processingStatus : ProcessingStatus
  processingReason : Option String
  contentHash : String

structure QueueItem where
  category : ControlCategory
  confidence : ℚ
  proposedAction : ControlAction
  queueState : QueueState
  reason : String
  safetyBlocked : Bool
  wouldExecute : Bool

structure Incident where
  title : String
  category : ControlCategory
  severity : String
  sourcePlatform : Platform
  relatedItemIds : List String

inductive IncidentWrite where
  | related (incidentId : String) (pushed : Bool)
  | created (incident : Incident)

inductive IngestOutcome where
  | created | updated | deduped

inductive IngestFailure where
  | itemInvalid
  | classification
  | hide (failure : HideFailure)

structure IngestEnv where
  metered : MeteredEnv
  tenant : Option TenantRow
  /-- The locale of the brand, unless its row is missing. -/
  brandLocale : Option String
  memoryRules : List BrandMemoryRule
  hideFeatureEnabled : Bool
  translation : TranslationConfig
  aiRisk : AiRiskConfig
  usageCorrelationId : String
  autoProtectPolicies : List AutoProtectPolicy
  controlPolicies : List ControlPolicyRow
  /-- The content row of the item, if it has been seen before. -/
  existingContent : Option ContentFields
  /-- Another sync has created the reputation item first. -/
  existingRep : Bool
  repItemId : String
  queueItemId : String
  safety : ControlCategory → ProductionSafetyContext
  pageToken : Option String
  liveActions : LiveActionsConfig
  hide : HideEnvironment
  openIncident : ControlCategory → Option OpenIncident

structure IngestRun where
  metered : MeteredWorld
  content : Option ContentFields
  reputation : Option ReputationRow
  autoProtect : Option AutoProtectResult
  queued : Option QueueItem
  attempts : List HideContext
  incident : Option IncidentWrite
  audits : List String

def IngestRun.start (metered : MeteredWorld) : IngestRun where
  metered := metered
  content := none
  reputation := none
  autoProtect := none
  queued := none
  attempts := []
  incident := none
  audits := []

abbrev IngestAnswer := IngestRun × Except IngestFailure IngestOutcome

/-! Reads of the first phase, with the defaults of a missing tenant. -/

def IngestEnv.plan (env : IngestEnv) : String := (env.tenant.map TenantRow.plan).getD "free"

def IngestEnv.accessState (env : IngestEnv) : String :=
  (env.tenant.map TenantRow.accessState).getD "full_access"

def IngestEnv.internalAccess (env : IngestEnv) : Bool :=
  (env.tenant.map TenantRow.internalAccess).getD false

def IngestEnv.tenantDefaults (env : IngestEnv) : TenantDefaultFields :=
  (env.tenant.map TenantRow.defaults).getD
    { defaultAutoHideEnabled := false
      defaultAutoHideMode := "recommend"
      defaultAutoHideRiskThreshold := "high"
      defaultAutoHideCategories := []
      defaultRequireManualApproval := false }

def effectiveProtection (env : IngestEnv) (account : AccountRow) : EffectiveProtection :=
  resolveAccountProtection account.protection env.tenantDefaults

def IngestEnv.meteredCtx (env : IngestEnv) (account : AccountRow) : MeteredCtx where
  tenantId := account.tenantId
  plan := env.plan
  accessState := some env.accessState
  internalAccess := env.internalAccess
  reputationItemId := none
  contentItemId := none
  correlationId := some env.usageCorrelationId
  refresh := false

def classificationInput (item : FetchedContent) (rules : List ClassifierRule) :
    ClassificationInput where
  text := item.text
  platform := item.platform
  locale := item.author.locale
  rating := item.rating
  rules := rules

def IngestEnv.hybridConfig (env : IngestEnv) : HybridConfig where
  workspaceLocale := env.brandLocale.getD "en"
  translation := env.translation
  aiRisk := env.aiRisk
  brandContext := none
  memoryRules := env.memoryRules.filter BrandMemoryRule.isActive

def classifyItem (env : IngestEnv) (account : AccountRow) (item : FetchedContent)
    (rules : List ClassifierRule) (metered : MeteredWorld) : MeteredWorld × Option MeteredResult :=
  classifyWithUsagePolicy env.metered (env.meteredCtx account) (classificationInput item rules)
    env.hybridConfig metered

/-! The shadow decision and the rows of the third phase. -/

def shadowDecision (env : IngestEnv) (item : FetchedContent) (hybrid : HybridResult) :
    AutoProtectResult :=
  evaluateAutoProtect env.metered.database
    { text := item.text
      riskLevel := hybrid.level
      categories := hybrid.categories
      riskSignals := hybrid.explanation.riskSignals
      matchedTerms := hybrid.explanation.matchedTerms
      sentiment := hybrid.sentiment
      confidence := hybrid.confidence
      requiresReview := hybrid.requiresReview }
    (env.autoProtectPolicies.filter AutoProtectPolicy.isActive)

def reputationRow (hybrid : MeteredResult) (autoProtect : AutoProtectResult) : ReputationRow where
  priority := priorityFor hybrid.level
  requiresApproval := hybrid.approvalRequired || autoProtect.decision == .requiresApproval
  riskLevel := hybrid.level
  riskConfidence := hybrid.confidence
  riskCategories := hybrid.categories
  projection := persistedProjectionFieldsAfterClassification
    { riskLevel := hybrid.level
      riskCategories := some hybrid.categories
      aiDiagnostics := (hybrid.diagnostics.map AiDiagnostics.toJson).getD .null
      autoProtect := some
        { decision := autoProtect.decision.value
          matchedCategory := autoProtect.matchedCategory.value } }
  sentiment := hybrid.sentiment
  riskRationale :=
    if hybrid.explanation.shortReason ≠ "" then hybrid.explanation.shortReason else hybrid.engine
  riskEngine := hybrid.engine
  processingTier := hybrid.processingTier
  processingStatus := hybrid.processingStatus
  processingReason := hybrid.processingReason
  contentHash := hybrid.contentHash

def linkUsageEvents (correlationId repItemId : String) (store : UsageStore) : UsageStore :=
  { store with
    events := store.events.mapValues fun event =>
      if event.correlationId = correlationId ∧ event.reputationItemId = none then
        { event with reputationItemId := some repItemId }
      else event }

def persistAudits (hybrid : HybridResult) (autoProtect : AutoProtectResult) : List String :=
  (if hybrid.memoryMatched = [] then [] else ["classifier.brand_memory_used"]) ++
    if autoProtect.decision = .wouldAutoHide then ["auto_protect.would_auto_hide"] else []

def controlInput (item : FetchedContent) (hybrid : HybridResult) : ControlInput where
  text := item.text
  riskSignals := hybrid.explanation.riskSignals
  categories := hybrid.categories
  sentiment := hybrid.sentiment
  riskLevel := hybrid.level
  confidence := hybrid.confidence

def IngestEnv.activeControlPolicies (env : IngestEnv) : List ControlPolicyRow :=
  env.controlPolicies.filter fun policy => policy.isActive

def controlDecision (env : IngestEnv) (item : FetchedContent) (hybrid : HybridResult) :
    ControlDecision :=
  evaluateControl env.metered.database (controlInput item hybrid)
    (env.activeControlPolicies.map ControlPolicyRow.toControlPolicyLite)

def matchedPolicy (env : IngestEnv) (category : ControlCategory) : Option ControlPolicyRow :=
  env.activeControlPolicies.find? fun policy => policy.category == category.value

def queueItem (decision : ControlDecision) : QueueItem where
  category := decision.matchedCategory
  confidence := decision.confidence
  proposedAction := decision.proposedAction
  queueState := decision.queueState
  reason := decision.reason
  safetyBlocked := decision.safetyBlocked
  wouldExecute := decision.wouldExecute

def autonomousAllowed (env : IngestEnv) (account : AccountRow) (policy : ControlPolicyRow)
    (decision : ControlDecision) : Bool :=
  policy.mode == "autonomous" && decision.wouldExecute && accessAllowsOperations env.accessState &&
    env.hideFeatureEnabled && (effectiveProtection env account).autoHideEnabled &&
    (effectiveProtection env account).autoHideMode == .automatic

def AccountRow.needsReconnect (account : AccountRow) : Bool :=
  account.connectionStatus == some "needs_reconnect" || account.tokenHealth == some "expired" ||
    account.tokenHealth == some "invalid" || account.tokenHealth == some "revoked" ||
    account.lastError == some "token_expired"

def hideContext (env : IngestEnv) (account : AccountRow) (item : FetchedContent)
    (hybrid : HybridResult) (policy : ControlPolicyRow) (decision : ControlDecision) :
    HideContext where
  tenantId := account.tenantId
  brandId := account.brandId
  itemId := env.repItemId
  queueItemId := some env.queueItemId
  policyId := some policy.id
  connectedAccountId := account.id
  platform := account.platform.value
  externalCommentId := some item.externalId
  externalPostId := item.externalParentId
  matchedCategory := decision.matchedCategory.value
  confidence := decision.confidence
  riskLevel := hybrid.level
  mode := policy.mode
  trigger := .autonomous
  account :=
    { status := account.status
      health := account.health
      grantedPermissions := account.grantedPermissions
      accessToken := env.pageToken
      pageId := account.pageId
      externalId := account.externalId
      tokenExpiresAt := account.tokenExpiresAt
      needsReconnect := account.needsReconnect
      connectionStatus := account.connectionStatus
      tokenHealth := account.tokenHealth }
  requestedBy := "system"

def terminalBlocks : List String := ["comment_deleted_or_unavailable", "facebook_can_hide_false"]

def routeBlocked (result : HideExecutionResult) (queued : QueueItem) : QueueItem :=
  if result.status = .blocked ∧ result.reason ∉ terminalBlocks then
    { queued with queueState := .approvalRequired, safetyBlocked := true }
  else queued

def attemptAutonomousHide (env : IngestEnv) (ctx : HideContext) (category : ControlCategory)
    (queued : QueueItem) (run : IngestRun) : IngestRun × Option HideFailure :=
  let (hideRun, answer) := attemptFacebookHide env.hide env.liveActions
    { retry := false, liveAttempt := false, safety := some (env.safety category) } ctx
  let queued := hideRun.queueWrites.foldl (fun queued state => { queued with queueState := state })
    queued
  let run := { run with attempts := run.attempts ++ [ctx], queued := some queued }
  match answer with
  | .error failure => (run, some failure)
  | .ok result => ({ run with queued := some (routeBlocked result queued) }, none)

def incidentTitle (category : ControlCategory) : String :=
  String.ofList (category.value.toList.map fun char => if char = '_' then ' ' else char) ++
    " detected"

def raiseIncident (env : IngestEnv) (account : AccountRow) (hybrid : HybridResult)
    (decision : ControlDecision) (run : IngestRun) : IngestRun :=
  if decision.raisesIncident ∧ (hybrid.level = "high" ∨ hybrid.level = "critical") then
    match env.openIncident decision.matchedCategory with
    | some incident =>
      { run with
        incident := some (.related incident.id (!incident.relatedItemIds.contains env.repItemId)) }
    | none =>
      { run with
        incident := some (.created
          { title := incidentTitle decision.matchedCategory
            category := decision.matchedCategory
            severity := if hybrid.level = "critical" then "critical" else "high"
            sourcePlatform := account.platform
            relatedItemIds := [env.repItemId] })
        audits := run.audits ++ ["incident.created"] }
  else run

def runControlCenter (env : IngestEnv) (account : AccountRow) (item : FetchedContent)
    (hybrid : HybridResult) (run : IngestRun) : IngestAnswer :=
  if env.activeControlPolicies = [] then (run, .ok .created)
  else
    let decision := controlDecision env item hybrid
    let run := { run with queued := some (queueItem decision) }
    let (run, failure) :=
      match matchedPolicy env decision.matchedCategory with
      | none => (run, none)
      | some policy =>
        if autonomousAllowed env account policy decision then
          attemptAutonomousHide env (hideContext env account item hybrid policy decision)
            decision.matchedCategory (queueItem decision) run
        else (run, none)
    match failure with
    | some failure => (run, .error (.hide failure))
    | none => (raiseIncident env account hybrid decision run, .ok .created)

def persistNewItem (env : IngestEnv) (account : AccountRow) (item : FetchedContent)
    (rules : List ClassifierRule) (metered : MeteredWorld) : IngestAnswer :=
  let (metered, classified) := classifyItem env account item rules metered
  let run := IngestRun.start metered
  match classified with
  | none => (run, .error .classification)
  | some hybrid =>
    let run := { run with content := some (mutableContentFields item) }
    if env.existingRep then (run, .ok .updated)
    else
      let autoProtect := shadowDecision env item hybrid.toHybridResult
      runControlCenter env account item hybrid.toHybridResult
        { run with
          metered :=
            { metered with
              usage := linkUsageEvents env.usageCorrelationId env.repItemId metered.usage }
          reputation := some (reputationRow hybrid autoProtect)
          autoProtect := some autoProtect
          audits := persistAudits hybrid.toHybridResult autoProtect }

def ingestItem (env : IngestEnv) (account : AccountRow) (item : FetchedContent)
    (rules : List ClassifierRule) (metered : MeteredWorld) : IngestAnswer :=
  if item.externalId = "" then (.start metered, .error .itemInvalid)
  else
    match env.existingContent with
    | some existing =>
      if contentChanged existing item then
        ({ IngestRun.start metered with content := some (mutableContentFields item) },
          .ok .updated)
      else (.start metered, .ok .deduped)
    | none => persistNewItem env account item rules metered

end Tamanor.Sync
