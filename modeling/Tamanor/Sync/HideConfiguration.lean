import Tamanor.Sync.GenuineVerdicts
import Tamanor.Sync.IngestProperties

/-! What a workspace has configured decides what the ingest may hide automatically: which items
come, how they are classified and what the AI answers is open to everybody who comments. -/

set_option autoImplicit false

namespace Tamanor.Sync

open Tamanor.Core Tamanor.Db Ai Library

/-- The settings of the account, of the tenant and of the brand, and the flag of the process. -/
structure HideConfig where
  protection : AccountProtectionFields
  defaults : TenantDefaultFields
  accessState : String
  hideFeatureEnabled : Bool
  controlPolicies : List ControlPolicyRow

def IngestEnv.hideConfig (env : IngestEnv) (account : AccountRow) : HideConfig where
  protection := account.protection
  defaults := env.tenantDefaults
  accessState := env.accessState
  hideFeatureEnabled := env.hideFeatureEnabled
  controlPolicies := env.controlPolicies

namespace HideConfig

variable (config : HideConfig)

def effective : EffectiveProtection := resolveAccountProtection config.protection config.defaults

def policy (category : ControlCategory) : Option ControlPolicyRow :=
  (config.controlPolicies.filter fun policy => policy.isActive).find?
    fun policy => policy.category == category.value

structure Hides (category : ControlCategory) : Prop where
  eligible : category ∈ autonomousEligible
  policy : ∃ policy, config.policy category = some policy ∧ policy.mode = "autonomous" ∧
    policy.minConfidence ≤ 1
  access : accessAllowsOperations config.accessState = true
  feature : config.hideFeatureEnabled = true
  enabled : config.effective.autoHideEnabled = true
  automatic : config.effective.autoHideMode = .automatic

end HideConfig

/-- Calibrated providers, a digest that tells texts apart, a locale without the NUL that closes a
part of the key, and a cache that holds what the pipeline has answered. -/
structure IngestEnv.Sound (env : IngestEnv) (metered : MeteredWorld) : Prop where
  calibrated : env.metered.Calibrated
  collisionFree : Function.Injective env.metered.runtime.sha256
  locale : Char.ofNat 0 ∉ env.hybridConfig.workspaceLocale.toList
  cache : GenuineCache env.metered metered.cache

section Open

variable {env : IngestEnv} {account : AccountRow} {item : FetchedContent}
  {rules : List ClassifierRule} {metered : MeteredWorld} {classified : MeteredResult}

theorem classifyItem_genuine (sound : env.Sound metered)
    (answer : (classifyItem env account item rules metered).2 = some classified) :
    Genuine env.metered
      (contentHashOf env.metered (classificationInput item rules) env.hybridConfig)
      classified.toHybridResult :=
  (classifyWithUsagePolicy_genuine sound.calibrated sound.locale sound.cache).1 classified answer

theorem runControlCenter_metered (hybrid : HybridResult) (run : IngestRun) :
    (runControlCenter env account item hybrid run).1.metered = run.metered := by
  have raised (decision : ControlDecision) (run : IngestRun) :
      (raiseIncident env account hybrid decision run).metered = run.metered := by
    unfold raiseIncident
    split
    · split <;> rfl
    · rfl
  have attempted (ctx : HideContext) (category : ControlCategory) (queued : QueueItem)
      (run : IngestRun) :
      (attemptAutonomousHide env ctx category queued run).1.metered = run.metered := by
    unfold attemptAutonomousHide
    dsimp only
    split <;> rfl
  unfold runControlCenter
  dsimp only
  split
  · rfl
  · cases matchedPolicy env (controlDecision env item hybrid).matchedCategory with
    | none => exact raised _ _
    | some policy =>
      dsimp only
      by_cases allowed :
          autonomousAllowed env account policy (controlDecision env item hybrid) = true
      · rw [if_pos allowed]
        have kept := attempted
          (hideContext env account item hybrid policy (controlDecision env item hybrid))
          (controlDecision env item hybrid).matchedCategory
          (queueItem (controlDecision env item hybrid))
          { run with queued := some (queueItem (controlDecision env item hybrid)) }
        generalize attemptAutonomousHide _ _ _ _ _ = outcome at kept ⊢
        obtain ⟨after, failure⟩ := outcome
        cases failure with
        | none => exact (raised _ _).trans kept
        | some failure => exact kept
      · rw [if_neg allowed]
        exact raised _ _

theorem persistNewItem_sound (sound : env.Sound metered) :
    env.Sound (persistNewItem env account item rules metered).1.metered := by
  have kept : GenuineCache env.metered (classifyItem env account item rules metered).1.cache :=
    (classifyWithUsagePolicy_genuine sound.calibrated sound.locale sound.cache).2
  refine ⟨sound.calibrated, sound.collisionFree, sound.locale, ?_⟩
  unfold persistNewItem
  generalize classifyItem env account item rules metered = outcome at kept ⊢
  obtain ⟨after, classified⟩ := outcome
  cases classified with
  | none => exact kept
  | some classified =>
    dsimp only
    split
    · exact kept
    · rw [runControlCenter_metered]
      exact kept

theorem AutonomousPathOpen.hides {hybrid : HybridResult}
    (path : AutonomousPathOpen env account item hybrid) (bounded : hybrid.confidence ≤ 1) :
    (env.hideConfig account).Hides (filedCategory env item hybrid) where
  eligible := path.eligible
  policy := by
    obtain ⟨policy, found, autonomous, confident⟩ := path.policy
    exact ⟨policy, found, autonomous, (le_max_right _ _).trans (confident.trans bounded)⟩
  access := path.access
  feature := path.feature
  enabled := path.enabled
  automatic := path.automatic

theorem HideConfig.Hides.path {hybrid : HybridResult} {category : ControlCategory}
    (hides : (env.hideConfig account).Hides category) (fresh : env.existingRep = false)
    (filed : filedCategory env item hybrid = category) (sure : hybrid.confidence = 1) :
    AutonomousPathOpen env account item hybrid where
  fresh := fresh
  policy := by
    obtain ⟨policy, found, autonomous, reachable⟩ := hides.policy
    refine ⟨policy, ?_, autonomous, ?_⟩
    · rw [filed]
      exact found
    · rw [sure]
      exact max_le (by norm_num [minAutonomousConfidence]) reachable
  eligible := by
    rw [filed]
    exact hides.eligible
  access := hides.access
  feature := hides.feature
  enabled := hides.enabled
  automatic := hides.automatic

end Open

/-! One comment for each category that can be hidden. Its classification waits for review, since
the AI accuses it of a threat without evidence, and has no higher level than the category asks
for. -/

structure Sample where
  text : String
  claims : List String
  blocked : List String
  allowed : List String

def sampleOf : ControlCategory → Sample
  | .spam => { text := "hi", claims := ["spam"], blocked := [], allowed := [] }
  | .scam => { text := "thief", claims := [], blocked := [], allowed := [] }
  | .phishing => { text := "verify your account", claims := [], blocked := [], allowed := [] }
  | .profanity => { text := "hi", claims := [], blocked := ["hi"], allowed := ["hi"] }
  | .personalAttack => { text := "idiot", claims := [], blocked := [], allowed := [] }
  | .hateSpeech => { text := "hateful", claims := [], blocked := [], allowed := [] }
  | .racism => { text := "subhuman", claims := [], blocked := [], allowed := [] }
  | .threat => { text := "hi", claims := ["legal_threat"], blocked := [], allowed := [] }
  | .violence => { text := "shoot you", claims := [], blocked := [], allowed := [] }
  | .terrorismExtremism => { text := "behead", claims := [], blocked := [], allowed := [] }
  | .sexualVulgarity => { text := "porn", claims := [], blocked := [], allowed := [] }
  | _ => { text := "real owner", claims := [], blocked := [], allowed := [] }

variable (sample : Sample)

def Sample.providers : Providers where
  translate := Providers.none.translate
  classify _ _ _ :=
    { riskLevel := "none", sentiment := "neutral", categories := "threat" :: sample.claims
      confidence := 1, shortReason := "", recommendedReviewAction := .none, provider := "openai"
      status := .classified, errorCode := none, latencyMs := 0, usage := none }

def Sample.comment : FetchedContent :=
  { greetingComment with text := sample.text.toList }

def Sample.rules : List ClassifierRule :=
  [{ category := .blockedWords, phrases := sample.blocked.map String.toList, enabled := true }]

def Sample.memoryRules : List BrandMemoryRule :=
  sample.allowed.map fun phrase =>
    { type := "allow_phrase", normalizedPhrase := phrase.toList, language := none
      severity := "low", isActive := true }

variable (config : HideConfig)

/-- A workspace of this configuration that sends every comment to the AI. -/
def Sample.env : IngestEnv :=
  { blockingEnv with
    metered := { greetingEnv with answers := fun _ => some sample.providers }
    tenant := some
      { plan := "free", accessState := config.accessState, internalAccess := false
        defaults := config.defaults }
    memoryRules := sample.memoryRules
    hideFeatureEnabled := config.hideFeatureEnabled
    aiRisk :=
      { enabled := true, provider := "openai", minConfidence := 1 / 2, callMode := some .all
        openai := none }
    controlPolicies := config.controlPolicies }

def HideConfig.account : AccountRow :=
  { scamOnlyAccount with protection := config.protection }

def Sample.classified : Option MeteredResult :=
  (classifyItem (sample.env config) config.account sample.comment sample.rules unmeteredWorld).2

def Sample.summary : Option (ControlCategory × ℚ × String × Bool) :=
  (sample.classified config).map fun classified =>
    (filedCategory (sample.env config) sample.comment classified.toHybridResult,
      classified.confidence, classified.level, classified.requiresReview)

def HideConfig.ofAccess (accessState : String) : HideConfig where
  protection := scamOnlyAccount.protection
  defaults := blockingEnv.tenantDefaults
  accessState := accessState
  hideFeatureEnabled := true
  controlPolicies := []

theorem sample_summaries : ∀ accessState ∈ ["full_access", "grace_period"],
    ∀ category ∈ autonomousEligible, (sampleOf category).summary (.ofAccess accessState) =
      some (category, 1, category.leastLevel.value, true) := by
  decide +kernel

section Samples

variable {config : HideConfig} {category : ControlCategory}

theorem Sample.env_config (sample : Sample) :
    (sample.env config).hideConfig config.account = config := rfl

theorem Sample.env_sound (sample : Sample) (config : HideConfig) :
    (sample.env config).Sound unmeteredWorld where
  calibrated :=
    { uninjected := rfl
      free := fun _ _ _ => ⟨le_rfl, zero_le_one⟩
      paid := by
        intro attempt providers came
        cases came
        exact fun _ _ _ => ⟨zero_le_one, le_rfl⟩ }
  collisionFree := greetingEnv_collisionFree
  locale := by
    change Char.ofNat 0 ∉ "en".toList
    decide
  cache := by
    intro key result found
    cases found

theorem sample_classified (hides : config.Hides category) :
    ∃ classified, (sampleOf category).classified config = some classified ∧
      filedCategory ((sampleOf category).env config) (sampleOf category).comment
        classified.toHybridResult = category ∧
      classified.confidence = 1 ∧ classified.level = category.leastLevel.value ∧
      classified.requiresReview = true := by
  have known : config.accessState ∈ ["full_access", "grace_period"] := by
    simpa [accessAllowsOperations] using hides.access
  have same : (sampleOf category).summary config =
      (sampleOf category).summary (.ofAccess config.accessState) := rfl
  have summary := same.trans (sample_summaries _ known category hides.eligible)
  obtain ⟨classified, answer, facts⟩ := Option.map_eq_some_iff.mp summary
  simp only [Prod.mk.injEq] at facts
  exact ⟨classified, answer, facts⟩

theorem sample_reaches (hides : config.Hides category) {classified : MeteredResult}
    (answer : (sampleOf category).classified config = some classified)
    (filed : filedCategory ((sampleOf category).env config) (sampleOf category).comment
      classified.toHybridResult = category)
    (sure : classified.confidence = 1) :
    ReachesAutonomousHide (persistNewItem ((sampleOf category).env config) config.account
      (sampleOf category).comment (sampleOf category).rules unmeteredWorld) :=
  (persistNewItem_reaches_iff answer).mpr
    (HideConfig.Hides.path ((sampleOf category).env_config.symm ▸ hides) rfl filed sure)

end Samples

/-- No unconfirmed classification reaches the autonomous hide exactly if the configuration hides
no category by itself: nothing between the classification and the hide asks for confirmation. -/
theorem persistNewItem_unconfirmed_iff (config : HideConfig) :
    (∀ env account item rules metered, env.hideConfig account = config → env.Sound metered →
      ∀ classified, (classifyItem env account item rules metered).2 = some classified →
        Unconfirmed env item classified.toHybridResult →
          ¬ ReachesAutonomousHide (persistNewItem env account item rules metered)) ↔
    ∀ category, ¬ config.Hides category := by
  constructor
  · intro unreached category hides
    obtain ⟨classified, answer, filed, sure, -, review⟩ := sample_classified hides
    exact unreached _ _ _ _ _ (sampleOf category).env_config ((sampleOf category).env_sound config)
      classified answer ⟨.inl review⟩ (sample_reaches hides answer filed sure)
  · intro closed env account item rules metered same sound classified answer _ reached
    subst same
    have path := (persistNewItem_reaches_iff answer).mp reached
    exact closed _ (path.hides (classifyItem_genuine sound answer).confidence)

end Tamanor.Sync
