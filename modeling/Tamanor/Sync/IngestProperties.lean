import Tamanor.Sync.Ingest
import Tamanor.Sync.LiveActionsProperties
import Tamanor.Sync.MeteredClassifyProperties

/-! When an ingest reaches the autonomous hide, and what the classification and the
protection of the account have to do with it. -/

set_option autoImplicit false

namespace Tamanor.Sync

open Tamanor.Core Tamanor.Db Ai Library

/-- `attemptFacebookHide` was called on behalf of a policy, not of a human. -/
def ReachesAutonomousHide (answer : IngestAnswer) : Prop :=
  ∃ ctx ∈ answer.1.attempts, ctx.trigger = .autonomous

def filedCategory (env : IngestEnv) (item : FetchedContent) (hybrid : HybridResult) :
    ControlCategory :=
  matchControlCategory env.metered.database (controlInput item hybrid)

structure AutonomousPathOpen (env : IngestEnv) (account : AccountRow) (item : FetchedContent)
    (hybrid : HybridResult) : Prop where
  fresh : env.existingRep = false
  policy : ∃ policy, matchedPolicy env (filedCategory env item hybrid) = some policy ∧
    policy.mode = "autonomous" ∧
    max minAutonomousConfidence policy.minConfidence ≤ hybrid.confidence
  eligible : filedCategory env item hybrid ∈ autonomousEligible
  access : accessAllowsOperations env.accessState = true
  feature : env.hideFeatureEnabled = true
  enabled : (effectiveProtection env account).autoHideEnabled = true
  automatic : (effectiveProtection env account).autoHideMode = .automatic

section Path

variable {env : IngestEnv} {account : AccountRow} {item : FetchedContent} {hybrid : HybridResult}

theorem activePolicy_eq_matchedPolicy (category : ControlCategory) :
    activePolicy (env.activeControlPolicies.map ControlPolicyRow.toControlPolicyLite) category =
      (matchedPolicy env category).map ControlPolicyRow.toControlPolicyLite := by
  unfold activePolicy matchedPolicy
  rw [List.find?_map]
  congr 1
  apply List.find?_congr
  intro policy member
  have active : policy.isActive = true := (List.mem_filter.mp member).2
  simp [active]

theorem not_never_of_eligible {category : ControlCategory}
    (eligible : category ∈ autonomousEligible) : category ∉ neverAutonomous := by
  revert eligible
  cases category <;> decide

theorem controlDecision_wouldExecute {policy : ControlPolicyRow}
    (found : matchedPolicy env (filedCategory env item hybrid) = some policy)
    (autonomous : policy.mode = "autonomous") :
    (controlDecision env item hybrid).wouldExecute = true ↔
      filedCategory env item hybrid ∈ autonomousEligible ∧
        max minAutonomousConfidence policy.minConfidence ≤ hybrid.confidence := by
  unfold controlDecision
  rw [evaluateControl_wouldExecute_iff, activePolicy_eq_matchedPolicy]
  change (∃ lite, (matchedPolicy env (filedCategory env item hybrid)).map
    ControlPolicyRow.toControlPolicyLite = some lite ∧
      AutonomousCandidate lite (filedCategory env item hybrid) hybrid.confidence) ↔ _
  rw [found]
  constructor
  · rintro ⟨lite, same, candidate⟩
    cases same
    exact ⟨candidate.eligible, candidate.confident⟩
  · rintro ⟨eligible, confident⟩
    refine ⟨policy.toControlPolicyLite, rfl, ?_, not_never_of_eligible eligible, eligible, confident⟩
    rw [autonomous]
    decide

@[simp] theorem raiseIncident_attempts (decision : ControlDecision) (run : IngestRun) :
    (raiseIncident env account hybrid decision run).attempts = run.attempts := by
  unfold raiseIncident
  split
  · split <;> rfl
  · rfl

theorem attemptAutonomousHide_attempts (ctx : HideContext) (category : ControlCategory)
    (queued : QueueItem) (run : IngestRun) :
    (attemptAutonomousHide env ctx category queued run).1.attempts = run.attempts ++ [ctx] := by
  unfold attemptAutonomousHide
  dsimp only
  split <;> rfl

theorem runControlCenter_attempts (run : IngestRun) :
    (runControlCenter env account item hybrid run).1.attempts =
      match matchedPolicy env (filedCategory env item hybrid) with
      | none => run.attempts
      | some policy =>
        if autonomousAllowed env account policy (controlDecision env item hybrid) then
          run.attempts ++
            [hideContext env account item hybrid policy (controlDecision env item hybrid)]
        else run.attempts := by
  have category : (controlDecision env item hybrid).matchedCategory =
      filedCategory env item hybrid := evaluateControl_matchedCategory _ _ _
  unfold runControlCenter
  by_cases none : env.activeControlPolicies = []
  · have missing : matchedPolicy env (filedCategory env item hybrid) = Option.none := by
      simp [matchedPolicy, none]
    rw [if_pos none, missing]
  · rw [if_neg none]
    dsimp only
    rw [category]
    cases matchedPolicy env (filedCategory env item hybrid) with
    | none => exact raiseIncident_attempts _ _
    | some policy =>
      dsimp only
      by_cases allowed :
          autonomousAllowed env account policy (controlDecision env item hybrid) = true
      · rw [if_pos allowed, if_pos allowed]
        have attempts := @attemptAutonomousHide_attempts env
          (hideContext env account item hybrid policy (controlDecision env item hybrid))
          (filedCategory env item hybrid) (queueItem (controlDecision env item hybrid))
          { run with queued := some (queueItem (controlDecision env item hybrid)) }
        generalize attemptAutonomousHide env
          (hideContext env account item hybrid policy (controlDecision env item hybrid))
          (filedCategory env item hybrid) (queueItem (controlDecision env item hybrid))
          { run with queued := some (queueItem (controlDecision env item hybrid)) } =
          attempted at attempts ⊢
        obtain ⟨after, failure⟩ := attempted
        cases failure with
        | none => exact (raiseIncident_attempts _ _).trans attempts
        | some failure => exact attempts
      · rw [if_neg allowed, if_neg allowed]
        exact raiseIncident_attempts _ _

theorem runControlCenter_reaches_iff {run : IngestRun} (none : run.attempts = [])
    (fresh : env.existingRep = false) :
    ReachesAutonomousHide (runControlCenter env account item hybrid run) ↔
      AutonomousPathOpen env account item hybrid := by
  unfold ReachesAutonomousHide
  rw [runControlCenter_attempts, none]
  cases found : matchedPolicy env (filedCategory env item hybrid) with
  | none =>
    constructor
    · rintro ⟨ctx, member, -⟩
      cases member
    · intro path
      obtain ⟨policy, other, -⟩ := path.policy
      rw [found] at other
      cases other
  | some policy =>
    dsimp only
    constructor
    · intro reached
      split at reached
      next allowed =>
        simp only [autonomousAllowed, Bool.and_eq_true, beq_iff_eq] at allowed
        obtain ⟨⟨⟨⟨⟨autonomous, executes⟩, access⟩, feature⟩, enabled⟩, automatic⟩ := allowed
        obtain ⟨eligible, confident⟩ := (controlDecision_wouldExecute found autonomous).mp executes
        exact ⟨fresh, ⟨policy, found, autonomous, confident⟩, eligible, access, feature, enabled,
          automatic⟩
      next =>
        obtain ⟨ctx, member, -⟩ := reached
        cases member
    · intro path
      obtain ⟨other, same, autonomous, confident⟩ := path.policy
      rw [found] at same
      cases same
      have executes := (controlDecision_wouldExecute found autonomous).mpr
        ⟨path.eligible, confident⟩
      have allowed :
          autonomousAllowed env account policy (controlDecision env item hybrid) = true := by
        simp [autonomousAllowed, autonomous, executes, path.access, path.feature, path.enabled,
          path.automatic]
      rw [if_pos allowed]
      exact ⟨_, List.mem_singleton_self _, rfl⟩

theorem persistNewItem_reaches_iff {rules : List ClassifierRule} {metered : MeteredWorld}
    {classified : MeteredResult}
    (answer : (classifyItem env account item rules metered).2 = some classified) :
    ReachesAutonomousHide (persistNewItem env account item rules metered) ↔
      AutonomousPathOpen env account item classified.toHybridResult := by
  unfold persistNewItem
  generalize classifyItem env account item rules metered = outcome at answer ⊢
  obtain ⟨after, result⟩ := outcome
  cases answer
  dsimp only
  cases existing : env.existingRep with
  | true =>
    constructor
    · rintro ⟨ctx, member, -⟩
      cases member
    · intro path
      have fresh := path.fresh
      rw [existing] at fresh
      cases fresh
  | false => exact runControlCenter_reaches_iff rfl existing

end Path

/-- The category of the gate that drives the category of the Control Center: the one of
that name, or one that stands for it as a signal. -/
def drives (category : String) (filed : ControlCategory) : Bool :=
  category == filed.value ||
    signalMap.any fun (signal, other) =>
      signal == category && decide (ControlCategory.ofAutoProtect other = filed)

/-- The item waits for a human, or the gate did not confirm what the action is about. -/
structure Unconfirmed (env : IngestEnv) (item : FetchedContent) (hybrid : HybridResult) : Prop where
  doubt : hybrid.requiresReview = true ∨
    ∃ category ∈ hybrid.reviewCategories ++ hybrid.rejectedCategories,
      drives category (filedCategory env item hybrid) = true

/-! A brand that blocks the greeting. Its rule raises a signal without evidence, which the
gate rejects; the account hides automatically what its policy allows. -/

def blockingEnv : IngestEnv where
  metered := greetingEnv
  tenant := some
    { plan := "free", accessState := "full_access", internalAccess := false
      defaults :=
        { defaultAutoHideEnabled := false, defaultAutoHideMode := "recommend"
          defaultAutoHideRiskThreshold := "high", defaultAutoHideCategories := []
          defaultRequireManualApproval := false } }
  brandLocale := some "en"
  memoryRules := []
  hideFeatureEnabled := true
  translation := { enabled := false, provider := "none", targetMode := .en }
  aiRisk :=
    { enabled := false, provider := "none", minConfidence := 1 / 2, callMode := none
      openai := none }
  usageCorrelationId := "correlation"
  autoProtectPolicies := []
  controlPolicies :=
    [{ id := "policy", category := "profanity", mode := "autonomous", minConfidence := 0.8
       isActive := true }]
  existingContent := none
  existingRep := false
  repItemId := "item"
  queueItemId := "queue"
  safety _ := openSafety
  pageToken := some "token"
  liveActions := liveConfig
  hide := acceptingEnvironment
  openIncident _ := none

def scamOnlyAccount : AccountRow where
  id := "account"
  tenantId := "tenant"
  brandId := "brand"
  platform := .facebookPage
  status := "active"
  health := "healthy"
  grantedPermissions := [facebookHidePermission]
  pageId := some "page"
  externalId := "page"
  tokenExpiresAt := none
  connectionStatus := some "connected"
  tokenHealth := some "ok"
  lastError := none
  protection :=
    { monitoringEnabled := true, protectionOverridden := true, autoHideEnabled := true
      autoHideMode := "automatic", autoHideRiskThreshold := "critical"
      autoHideCategories := ["scam"], requireManualApproval := false }

def greetingComment : FetchedContent where
  externalId := "comment"
  externalParentId := none
  kind := "comment"
  platform := .facebookPage
  text := "hi".toList
  rating := none
  author := { externalId := none, displayName := none, locale := none }
  permalink := none
  publishedAt := 0

def greetingBlocked : List ClassifierRule :=
  [{ category := .blockedWords, phrases := ["hi".toList], enabled := true }]

def unmeteredWorld : MeteredWorld where
  usage := .empty
  global := .empty
  cache := .empty
  guard := .initial
  trace := []

def blockedAnswer : IngestAnswer :=
  persistNewItem blockingEnv scamOnlyAccount greetingComment greetingBlocked unmeteredWorld

def blockedClassification : Option MeteredResult :=
  (classifyItem blockingEnv scamOnlyAccount greetingComment greetingBlocked unmeteredWorld).2

theorem blockedClassification_summary :
    (blockedClassification.map fun classified =>
      (filedCategory blockingEnv greetingComment classified.toHybridResult,
        decide (0.8 ≤ classified.confidence), classified.rejectedCategories, classified.level)) =
      some (.profanity, true, ["profanity"], "high") := by
  decide +kernel

theorem blockedClassification_facts : ∃ classified, blockedClassification = some classified ∧
    filedCategory blockingEnv greetingComment classified.toHybridResult = .profanity ∧
    0.8 ≤ classified.confidence ∧ classified.rejectedCategories = ["profanity"] ∧
    classified.level = "high" := by
  obtain ⟨classified, answer, same⟩ := Option.map_eq_some_iff.mp blockedClassification_summary
  simp only [Prod.mk.injEq, decide_eq_true_eq] at same
  exact ⟨classified, answer, same⟩

theorem blockedAnswer_reaches {classified : MeteredResult}
    (answer : blockedClassification = some classified)
    (filed : filedCategory blockingEnv greetingComment classified.toHybridResult = .profanity)
    (confident : 0.8 ≤ classified.confidence) : ReachesAutonomousHide blockedAnswer := by
  refine (persistNewItem_reaches_iff answer).mpr ⟨rfl, ?_, ?_, rfl, rfl, rfl, rfl⟩
  · rw [filed]
    refine ⟨_, rfl, rfl, ?_⟩
    simpa [minAutonomousConfidence] using confident
  · rw [filed]
    decide

/-- A category that the gate rejected drives an autonomous hide. -/
theorem persistNewItem_hides_rejected :
    ∃ classified, blockedClassification = some classified ∧
      Unconfirmed blockingEnv greetingComment classified.toHybridResult ∧
      ReachesAutonomousHide blockedAnswer := by
  obtain ⟨classified, answer, filed, confident, rejected, -⟩ := blockedClassification_facts
  refine ⟨classified, answer, ⟨.inr ⟨"profanity", ?_, ?_⟩⟩,
    blockedAnswer_reaches answer filed confident⟩
  · rw [rejected]
    exact List.mem_append_right _ List.mem_cons_self
  · rw [filed]
    decide

end Tamanor.Sync
