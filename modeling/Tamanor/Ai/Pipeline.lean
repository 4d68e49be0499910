import Tamanor.Ai.BrandMemory

/-! The hybrid pipeline (`pipeline.ts`): risk rules, brand memory, translation, the
optional AI provider and the evidence gate. Providers are parameters; whatever
they answer passes through the same gate. -/

set_option autoImplicit false

namespace Tamanor.Ai

open Tamanor.Core Library Library.Text

structure TranslationInput where
  text : Text
  sourceLanguage : String
  targetLocale : String

inductive TranslationCallStatus where
  | translated | unavailable | failed

def TranslationCallStatus.value : TranslationCallStatus → String
  | .translated => "translated"
  | .unavailable => "unavailable"
  | .failed => "failed"

structure TranslationOutput where
  translatedText : Option Text
  provider : String
  status : TranslationCallStatus
  errorCode : Option String
  latencyMs : Nat

structure AiRiskInput where
  originalText : Text
  translatedText : Option Text
  detectedLanguage : String
  brandContext : Option String
  existingRuleSignals : List String
  platform : String
  itemKind : String

inductive AiRiskCallStatus where
  | classified | skipped | unavailable | failed
deriving DecidableEq

def AiRiskCallStatus.value : AiRiskCallStatus → String
  | .classified => "classified"
  | .skipped => "skipped"
  | .unavailable => "unavailable"
  | .failed => "failed"

structure TokenUsage where
  inputTokens : Nat
  outputTokens : Nat

structure AiRiskOutput where
  riskLevel : String
  sentiment : String
  categories : List String
  confidence : ℚ
  shortReason : String
  recommendedReviewAction : RecommendedReviewAction
  provider : String
  status : AiRiskCallStatus
  errorCode : Option String
  latencyMs : Nat
  usage : Option TokenUsage

structure OpenAiRiskConfig where
  apiKey : String
  model : String
  timeoutMs : Nat
  maxRetries : Nat

/-- What `getTranslationProvider` and `getAiRiskProvider` resolve a name to, with
the answers of the provider behind it. -/
structure Providers where
  translate : String → TranslationInput → TranslationOutput
  classify : String → Option OpenAiRiskConfig → AiRiskInput → AiRiskOutput

def Providers.none : Providers where
  translate _ _ :=
    { translatedText := .none, provider := "none", status := .unavailable, errorCode := .none
      latencyMs := 0 }
  classify _ _ _ :=
    { riskLevel := "none", sentiment := "neutral", categories := [], confidence := 0
      shortReason := "", recommendedReviewAction := .none, provider := "none", status := .skipped
      errorCode := .none, latencyMs := 0, usage := .none }

inductive TargetMode where
  | workspaceLocale | en
deriving DecidableEq

inductive CallMode where
  | valueGated | all
deriving DecidableEq

def CallMode.value : CallMode → String
  | .valueGated => "value_gated"
  | .all => "all"

structure TranslationConfig where
  enabled : Bool
  provider : String
  targetMode : TargetMode

structure AiRiskConfig where
  enabled : Bool
  provider : String
  minConfidence : ℚ
  callMode : Option CallMode
  openai : Option OpenAiRiskConfig

structure HybridConfig where
  workspaceLocale : String
  translation : TranslationConfig
  aiRisk : AiRiskConfig
  brandContext : Option String
  memoryRules : List BrandMemoryRule

inductive ProviderCallType where
  | translation | aiRisk
deriving DecidableEq

structure ProviderCallRecord where
  type : ProviderCallType
  provider : String
  status : String
  latencyMs : Nat
  errorCode : Option String

structure RiskSnapshot where
  level : String
  confidence : ℚ
  categories : List String

structure GateDiagnostics where
  aiCalled : Bool
  reason : String

structure AiCallDiagnostics where
  status : AiRiskCallStatus
  errorCode : Option String
  verdict : Option RiskSnapshot

structure SeverityDiagnostics where
  proposed : String
  applied : String
  capped : Bool
  reason : String

structure EvidenceGate where
  decisions : List CategoryDecision
  severity : SeverityDiagnostics

structure AiDiagnostics where
  callMode : CallMode
  gate : GateDiagnostics
  rules : RiskSnapshot
  ai : AiCallDiagnostics
  merged : RiskSnapshot
  evidenceGate : EvidenceGate

inductive ClassificationState where
  | confirmed | reviewRequired

inductive ClassificationMode where
  | rulesOnly | aiAssisted

structure HybridExplanation where
  matchedTerms : List Text
  matchedRules : List Text
  riskSignals : List String
  recommendedReviewAction : RecommendedReviewAction
  shortReason : String

structure HybridResult where
  level : String
  categories : List String
  confidence : ℚ
  classificationState : ClassificationState
  requiresReview : Bool
  confirmedCategories : List String
  reviewCategories : List String
  rejectedCategories : List String
  evidence : List EvidenceSpan
  analyzedText : Text
  sentiment : String
  detectedLanguage : String
  languageConfidence : ℚ
  isMixedLanguage : Bool
  languageDetectionSource : String
  approvalRequired : Bool
  explanation : HybridExplanation
  translationStatus : String
  translationProvider : String
  translatedText : Option Text
  translatedToLocale : Option String
  classificationMode : ClassificationMode
  aiProvider : String
  aiProviderStatus : AiRiskCallStatus
  aiUsage : Option TokenUsage
  memoryMatched : List BrandMemoryMatch
  engine : String
  providerCalls : List ProviderCallRecord
  diagnostics : Option AiDiagnostics

variable (database : CharacterDatabase)

def memoryVerdict (input : ClassificationInput) (memoryRules : List BrandMemoryRule) :
    BrandMemoryResult :=
  let rules := classify database input
  applyBrandMemory database input.text rules.level.value (rules.categories.map RiskCategory.value)
    rules.explanation.riskSignals memoryRules

def escalatingSignals : List String := ["scam", "legal_threat", "harassment", "hate_speech"]

/-- `signals` and `matchedRules` are those of the risk rules alone; the level
already includes the brand memory. -/
def shouldCallAi (rules : ClassificationResult) (level : String) (minConfidence : ℚ) : Bool :=
  rules.detectedLanguage == "unknown" || rules.isMixedLanguage ||
    decide (rules.confidence < minConfidence) || decide (rank "high" ≤ rank level) ||
    rules.explanation.riskSignals.any (fun signal => escalatingSignals.contains signal) ||
    decide (0 < rules.explanation.matchedRules.length)

structure TranslationStage where
  status : String
  provider : String
  text : Option Text
  toLocale : Option String
  calls : List ProviderCallRecord

def targetLocale (cfg : HybridConfig) : String :=
  if cfg.translation.targetMode = .en then "en" else cfg.workspaceLocale

def translationStage (providers : Providers) (text : Text) (detectedLanguage : String)
    (cfg : HybridConfig) : TranslationStage :=
  let target := targetLocale cfg
  if detectedLanguage != "unknown" && detectedLanguage.toList.take 2 == target.toList.take 2 then
    { status := "not_needed", provider := "none", text := none, toLocale := none, calls := [] }
  else if cfg.translation.enabled && cfg.translation.provider != "none" then
    let out := providers.translate cfg.translation.provider
      { text, sourceLanguage := detectedLanguage, targetLocale := target }
    { status := out.status.value
      provider := out.provider
      text := out.translatedText
      toLocale := some target
      calls := [{
        type := .translation
        provider := out.provider
        status := out.status.value
        latencyMs := out.latencyMs
        errorCode := out.errorCode }] }
  else
    { status := "unavailable", provider := "none", text := none, toLocale := some target, calls := [] }

def AiRiskConfig.available (config : AiRiskConfig) : Bool :=
  config.enabled && config.provider != "none"

def AiRiskConfig.mode (config : AiRiskConfig) : CallMode := config.callMode.getD .valueGated

def gateReason (config : AiRiskConfig) (valueGateOpen : Bool) : String :=
  if !config.enabled then "ai_disabled"
  else if config.provider == "none" then "no_provider"
  else if config.mode == .all then "all_mode"
  else if valueGateOpen then "value_added"
  else "gate_not_fired"

def valueGateOpen (input : ClassificationInput) (cfg : HybridConfig) : Bool :=
  shouldCallAi (classify database input) (memoryVerdict database input cfg.memoryRules).level
    cfg.aiRisk.minConfidence

def aiGated (input : ClassificationInput) (cfg : HybridConfig) : Bool :=
  cfg.aiRisk.available && (cfg.aiRisk.mode == .all || valueGateOpen database input cfg)

def aiAnswer (providers : Providers) (input : ClassificationInput) (cfg : HybridConfig) :
    Option AiRiskOutput :=
  let rules := classify database input
  if aiGated database input cfg then
    some (providers.classify cfg.aiRisk.provider cfg.aiRisk.openai
      { originalText := input.text
        translatedText := (translationStage providers input.text rules.detectedLanguage cfg).text
        detectedLanguage := rules.detectedLanguage
        brandContext := cfg.brandContext
        existingRuleSignals := (memoryVerdict database input cfg.memoryRules).riskSignals.toList
        platform := input.platform.value
        itemKind := "comment" })
  else none

structure AiStage where
  classificationMode : ClassificationMode
  provider : String
  status : AiRiskCallStatus
  errorCode : Option String
  proposedLevel : String
  aiCategories : List String
  confidence : ℚ
  sentiment : String
  categories : OrderedSet String
  recommendedReviewAction : RecommendedReviewAction
  shortReason : String
  verdict : Option RiskSnapshot
  usage : Option TokenUsage
  parserOk : Bool
  calls : List ProviderCallRecord

def AiStage.rulesOnly (rules : ClassificationResult) (memory : BrandMemoryResult) : AiStage where
  classificationMode := .rulesOnly
  provider := "none"
  status := .skipped
  errorCode := none
  proposedLevel := memory.level
  aiCategories := []
  confidence := rules.confidence
  sentiment := rules.sentiment.value
  categories := memory.categories
  recommendedReviewAction := rules.explanation.recommendedReviewAction
  shortReason := ""
  verdict := none
  usage := none
  parserOk := true
  calls := []

/-- Record the call, and merge a classified answer. The proposed level is only
held here; the evidence gate decides on it. -/
def AiStage.merge (stage : AiStage) (out : AiRiskOutput) : AiStage :=
  let called := { stage with
    provider := out.provider
    status := out.status
    errorCode := out.errorCode
    calls := [{
      type := .aiRisk
      provider := out.provider
      status := out.status.value
      latencyMs := out.latencyMs
      errorCode := out.errorCode }] }
  if out.status = .classified then
    { called with
      classificationMode := .aiAssisted
      verdict := some
        { level := out.riskLevel, confidence := round2 out.confidence, categories := out.categories }
      proposedLevel := out.riskLevel
      aiCategories := out.categories
      confidence := max stage.confidence out.confidence
      categories := stage.categories.addAll out.categories
      recommendedReviewAction :=
        if out.recommendedReviewAction ≠ .none then out.recommendedReviewAction
        else stage.recommendedReviewAction
      sentiment := if out.sentiment ≠ "" then out.sentiment else stage.sentiment
      shortReason := out.shortReason
      usage := out.usage }
  else { called with parserOk := false }

def AiStage.mergeAnswer (stage : AiStage) : Option AiRiskOutput → AiStage
  | none => stage
  | some out => stage.merge out

def aiStage (providers : Providers) (input : ClassificationInput) (cfg : HybridConfig) : AiStage :=
  (AiStage.rulesOnly (classify database input)
    (memoryVerdict database input cfg.memoryRules)).mergeAnswer
      (aiAnswer database providers input cfg)

def gateDecisions (rules : ClassificationResult) (memory : BrandMemoryResult) (stage : AiStage) :
    List CategoryDecision :=
  stage.categories.toList.map fun category =>
    decideCategory {
      category
      validEvidenceCount :=
        (validEvidenceForCategory rules.analyzedText rules.evidence category).length
      rulesAgree := decide (category ∈ memory.categories)
      aiClaimed := stage.aiCategories.contains category
      confidence := stage.confidence
      parserOk := stage.parserOk }

def categoriesDecided (verdict : CategoryVerdict) (decisions : List CategoryDecision) :
    List String :=
  (decisions.filter fun decision => decision.verdict = verdict).map CategoryDecision.category

/-- `none` stands for a diagnostics build that failed. -/
def safeBuildAiDiagnostics (forceDiagnosticsError : Bool) (build : AiDiagnostics) :
    Option AiDiagnostics :=
  if forceDiagnosticsError then none else some build

def classifyHybrid (providers : Providers) (forceDiagnosticsError : Bool)
    (input : ClassificationInput) (cfg : HybridConfig) :
    HybridResult :=
  let rules := classify database input
  let memory := memoryVerdict database input cfg.memoryRules
  let translation := translationStage providers input.text rules.detectedLanguage cfg
  let stage := aiStage database providers input cfg
  let decisions := gateDecisions rules memory stage
  let severity := severityForVerdicts memory.level stage.proposedLevel decisions
  let confirmedCategories := categoriesDecided .confirmed decisions
  let reviewCategories := categoriesDecided .reviewRequired decisions
  let rejectedCategories := categoriesDecided .rejected decisions
  let categories :=
    if 0 < confirmedCategories.length then confirmedCategories
    else [if "positive" ∈ memory.categories then "positive" else "neutral"]
  let requiresReview := decide (0 < reviewCategories.length)
  { level := severity.level
    confidence := round2 stage.confidence
    categories
    classificationState := if 0 < reviewCategories.length then .reviewRequired else .confirmed
    requiresReview
    confirmedCategories
    reviewCategories
    rejectedCategories
    evidence := rules.evidence
    analyzedText := rules.analyzedText
    sentiment := stage.sentiment
    detectedLanguage := rules.detectedLanguage
    languageConfidence := rules.languageConfidence
    isMixedLanguage := rules.isMixedLanguage
    languageDetectionSource := rules.languageDetectionSource
    approvalRequired := decide (rank "high" ≤ rank memory.level) ||
      decide (rank "high" ≤ rank severity.level) || requiresReview
    explanation :=
      { matchedTerms := rules.explanation.matchedTerms
        matchedRules := rules.explanation.matchedRules
        riskSignals := memory.riskSignals.toList
        recommendedReviewAction :=
          if requiresReview && stage.recommendedReviewAction == .none then .review
          else stage.recommendedReviewAction
        shortReason := stage.shortReason }
    translationStatus := translation.status
    translationProvider := translation.provider
    translatedText := translation.text
    translatedToLocale := translation.toLocale
    classificationMode := stage.classificationMode
    aiProvider := stage.provider
    aiProviderStatus := stage.status
    aiUsage := stage.usage
    memoryMatched := memory.matches_
    engine := rules.engine
    providerCalls := translation.calls ++ stage.calls
    diagnostics := safeBuildAiDiagnostics forceDiagnosticsError
      { callMode := cfg.aiRisk.mode
        gate :=
          { aiCalled := aiGated database input cfg
            reason := gateReason cfg.aiRisk (valueGateOpen database input cfg) }
        rules :=
          { level := memory.level
            confidence := round2 rules.confidence
            categories := memory.categories.toList }
        ai := { status := stage.status, errorCode := stage.errorCode, verdict := stage.verdict }
        merged := { level := severity.level, confidence := round2 stage.confidence, categories }
        evidenceGate :=
          { decisions
            severity :=
              { proposed := stage.proposedLevel
                applied := severity.level
                capped := severity.capped
                reason := severity.reason } } } }

end Tamanor.Ai
