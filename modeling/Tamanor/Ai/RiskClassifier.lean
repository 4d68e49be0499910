import Tamanor.Ai.Evidence
import Tamanor.Ai.LanguageDetect

/-! Risk Rules V1 (`risk-classifier.ts`): the deterministic classifier that runs
on every item. Matching happens on a normalized text, in which every evidence
span of the result can be checked again. -/

set_option autoImplicit false

namespace Tamanor.Ai

open Tamanor.Core Library Library.Text

structure ClassifierRule where
  category : RuleCategory
  phrases : List Text
  enabled : Bool

structure MatchedRule where
  category : RuleCategory
  phrase : Text

structure ClassificationInput where
  text : Text
  platform : Platform
  locale : Option String
  rating : Option ℚ
  rules : List ClassifierRule

inductive RecommendedReviewAction where
  | escalate | review | monitor | none
deriving DecidableEq

structure RiskExplanation where
  matchedTerms : List Text
  matchedRules : List Text
  riskSignals : List String
  recommendedReviewAction : RecommendedReviewAction

structure ClassificationResult where
  level : RiskLevel
  confidence : ℚ
  categories : List RiskCategory
  sentiment : Sentiment
  rationale : String
  engine : String
  detectedLanguage : String
  languageConfidence : ℚ
  isMixedLanguage : Bool
  languageDetectionSource : String
  analyzedText : Text
  evidence : List EvidenceSpan
  explanation : RiskExplanation
  matchedRules : List MatchedRule

/-- `[\u0300-\u036f]`. -/
def isCombiningMark (char : Char) : Bool := 0x300 ≤ char.toNat && char.toNat ≤ 0x36F

def foldLeet : Char → Char
  | '0' => 'o'
  | '1' => 'i'
  | '3' => 'e'
  | '4' => 'a'
  | '5' => 's'
  | '7' => 't'
  | '8' => 'b'
  | '@' => 'a'
  | '$' => 's'
  | char => char

/-- `[^a-z0-9*\s]` becomes a blank. -/
def blankOther (char : Char) : Char :=
  if isLowerAlphanumeric char || char == '*' || isSpace char then char else ' '

/-- What `normalize` does to each character between decomposing the text and
collapsing its white space. -/
def foldCharacters (text : Text) : Text :=
  ((text.filter fun char => !isCombiningMark char).map foldLeet).map blankOther

variable (database : CharacterDatabase)

def normalize (input : Text) : Text :=
  trim (collapseSpaces (foldCharacters (database.nfd (database.toLowerCase input))))

/-- The pairwise comparison of the inner loop of `containsFuzzy`: `needle`
stands at the front of `hay`, where a `*` of `hay` matches any code unit. -/
def fuzzyAt : List Nat → List Nat → Bool
  | _, [] => true
  | [], _ :: _ => false
  | unit :: hay, wanted :: needle => (unit == wanted || unit == 0x2A) && fuzzyAt hay needle

def fuzzyScan (needle : List Nat) : List Nat → Bool
  | [] => fuzzyAt [] needle
  | unit :: hay => fuzzyAt (unit :: hay) needle || fuzzyScan needle hay

/-- Substring match where a `*` in `hay` acts as a single-character wildcard. -/
def containsFuzzy (hay needle : Text) : Bool :=
  if includes hay needle then true
  else if !hay.contains '*' then false
  else fuzzyScan (codeUnits needle) (codeUnits hay)

structure LexiconRow where
  category : RiskCategory
  weight : ℚ
  terms : List String
  isStem : Bool

def lexicon : List LexiconRow := [
  ⟨.profanity, 0.9, [
    "kokot", "pica", "kurva", "kurv", "hovno", "skurveny", "chuj", "curak", "sracka", "mrdka",
    "jebat", "vyjebany", "zmrd", "ojeb", "kokotina", "fuck", "fucker", "motherfucker", "shit",
    "bitch", "asshole", "cunt", "scheisse", "arschloch", "hurensohn", "wichser", "fick"], false⟩,
  ⟨.profanity, 0.85, [
    "jeb", "pic"], true⟩,
  ⟨.harassment, 0.8, [
    "kreten", "idiot", "debil", "hajzel", "svina", "sprostak", "magor", "nenazraty", "hovado",
    "vul ", "blbec", "trkvas", "moron", "loser", "stupid", "dumb", "shut up", "you are idiots",
    "scumbag", "blodmann", "spinner", "vollidiot", "trottel", "hulye", "barom", "glupek"], false⟩,
  ⟨.hateSpeech, 0.9, [
    "hateful", "disgusting people", "nenavid", "go back to your country", "your race",
    "subhuman", "racial slur", "plant a bomb", "jihad", "heil hitler", "terror attack"], false⟩,
  ⟨.harassment, 0.92, [
    "zabijem", "zabit ta", "i will kill", "kill you", "vyhrazam", "ublizim", "umresh",
    "toch dich", "i will hurt", "burn your store", "beat you up"], false⟩,
  ⟨.scam, 0.9, [
    "podvod", "podvodnik", "scam", "scammer", "scammed", "fraud", "fraudulent", "betrug",
    "betrueger", "oszustwo", "oszust", "atveres", "csalas", "csalo", "verify your account",
    "confirm your password", "reset your password", "send your password",
    "confirm your login details", "zadajte heslo", "poslite heslo", "posli heslo",
    "bestatigen sie ihr passwort", "geben sie ihr passwort ein", "free money", "crypto giveaway",
    "claim prize", "claim your prize", "click here to claim", "click here to win", "advance fee",
    "pay to claim", "zaplatte za vyhru", "guaranteed returns", "guaranteed profit",
    "double your money", "garantovany vynos", "garantovany zisk", "garantierte rendite"], false⟩,
  ⟨.spam, 0.7, [
    "buy now", "promo code", "subscribe to my", "check my profile", "kup teraz",
    "zlava len dnes", "jetzt kaufen"], false⟩,
  ⟨.legalThreat, 0.85, [
    "lawsuit", "sue you", "my lawyer", "legal action", "pravnik", "zalujem", "anwalt"], false⟩,
  ⟨.scam, 0.75, [
    "zlodej", "thief", "dieb", "okradli"], false⟩,
  ⟨.complaint, 0.5, [
    "klamar", "klamete", "liar", "luegner", "terrible", "worst", "refund", "scammed me",
    "never again", "reklamacia", "otrasne"], false⟩]

def positiveTerms : List String := [
  "super", "dakujem", "vyborne", "skvele", "najlepsi", "odporucam",
  "great", "thanks", "thank you", "love it", "perfect", "amazing", "excellent",
  "danke", "toll", "super service"]

def negativeCategories : List RiskCategory := [
  .scam, .spam, .legalThreat, .harassment, .profanity, .hateSpeech, .complaint, .brandAttack]

def ruleCategoryEffect : RuleCategory → Option RiskCategory × ℚ
  | .blockedWords => (some .profanity, 0.8)
  | .competitorMentions => (none, 0.3)
  | .crisisKeywords => (some .brandAttack, 0.9)
  | .customPhrases => (some .neutral, 0.35)

def matchBrandRules (normText : Text) (rules : List ClassifierRule) : List MatchedRule :=
  (rules.filter fun rule => rule.enabled).flatMap fun rule =>
    (rule.phrases.filter fun phrase =>
      let needle := normalize database phrase
      0 < needle.length && containsFuzzy normText needle).map
        fun phrase => { category := rule.category, phrase }

def hasNegative (categories : OrderedSet RiskCategory) : Bool :=
  categories.toList.any fun category => negativeCategories.contains category

def deriveSentiment (categories : OrderedSet RiskCategory) (rating : Option ℚ)
    (positiveHit : Bool) : Sentiment :=
  let byCategories : Sentiment :=
    if hasNegative categories then .negative
    else if positiveHit || decide (RiskCategory.positive ∈ categories) then .positive
    else .neutral
  match rating with
  | none => byCategories
  | some rating => if 4 ≤ rating then .positive else if rating ≤ 2 then .negative else byCategories

def scoreToLevel (score : ℚ) : RiskLevel :=
  if 0.85 ≤ score then .critical
  else if 0.65 ≤ score then .high
  else if 0.4 ≤ score then .medium
  else if 0 < score then .low
  else .none

def confidenceFor (score : ℚ) (deterministic : Bool) : ℚ :=
  if deterministic then min 0.9 (0.75 + score * 0.15) else min 0.6 (0.3 + score * 0.3)

def buildRationale (deterministic : Bool) (ruleMatches : Nat) : String :=
  if deterministic then
    let suffix := if 0 < ruleMatches then " + " ++ toString ruleMatches ++ " brand-rule match(es)" else ""
    "Risk Rules V1: deterministic lexicon match" ++ suffix ++
      ". Human review recommended; no platform action taken."
  else "Risk Rules V1: no deterministic match; heuristic classification only."

def recommendedAction : RiskLevel → RecommendedReviewAction
  | .critical => .escalate
  | .high => .review
  | .medium => .monitor
  | _ => .none

/-! The accumulators of `classify` and the passes that update them. -/

structure Findings where
  categories : OrderedSet RiskCategory
  matchedTerms : OrderedSet Text
  evidence : List EvidenceSpan
  score : ℚ
  deterministic : Bool

def Findings.start : Findings where
  categories := .empty
  matchedTerms := .empty
  evidence := []
  score := 0
  deterministic := false

variable (norm : Text)

def lexiconHits (row : LexiconRow) : List (String × List EvidenceSpan) :=
  (row.terms.map fun term =>
    (term, findTermSpans norm term.toList row.category.value row.isStem)).filter
      fun hit => !hit.2.isEmpty

def Findings.applyLexiconRow (findings : Findings) (row : LexiconRow) : Findings :=
  let hits := lexiconHits norm row
  if hits.isEmpty then findings
  else { findings with
    categories := findings.categories.add row.category
    matchedTerms := findings.matchedTerms.addAll (hits.map fun hit => trim hit.1.toList)
    evidence := findings.evidence ++ hits.flatMap Prod.snd
    score := max findings.score row.weight
    deterministic := true }

def Findings.applyScamContext (findings : Findings) : Findings :=
  let context := assessScamContext norm (decide (RiskCategory.scam ∈ findings.categories))
  if context.confirms && context.reason == .multiDimensionWithHarm then
    { findings with
      categories := findings.categories.add .scam
      matchedTerms := findings.matchedTerms.addAll (context.spans.map EvidenceSpan.term)
      evidence := findings.evidence ++ context.spans
      score := max findings.score 0.9
      deterministic := true }
  else findings

def Findings.applyRating (rating : Option ℚ) (findings : Findings) : Findings :=
  match rating with
  | none => findings
  | some rating =>
    if rating ≤ 2 then
      { findings with
        categories := findings.categories.add .complaint
        score := max findings.score 0.45 }
    else findings

def Findings.applyBrandRule (findings : Findings) (matched : MatchedRule) : Findings :=
  let effect := ruleCategoryEffect matched.category
  { findings with
    categories := match effect.1 with
      | none => findings.categories
      | some category => findings.categories.add category
    score := max findings.score effect.2
    deterministic := true }

def lexicalFindings : Findings :=
  (lexicon.foldl (Findings.applyLexiconRow norm) .start).applyScamContext norm

def ruleFindings (rating : Option ℚ) (matchedRules : List MatchedRule) : Findings :=
  matchedRules.foldl Findings.applyBrandRule ((lexicalFindings norm).applyRating rating)

/-- The verdict on an already normalized text; only the language is read off the
original one. -/
def classifyNormalized (rating : Option ℚ) (matchedRules : List MatchedRule)
    (lang : LanguageDetection) : ClassificationResult :=
  let positiveHit := !hasNegative (lexicalFindings norm).categories &&
    positiveTerms.any fun term => containsFuzzy norm term.toList
  let findings := ruleFindings norm rating matchedRules
  let sentiment := deriveSentiment findings.categories rating positiveHit
  let categories :=
    if findings.categories.toList.isEmpty then
      findings.categories.add (if sentiment = .positive then .positive else .neutral)
    else findings.categories
  let level := scoreToLevel findings.score
  { level
    confidence := round2 (confidenceFor findings.score findings.deterministic)
    categories := categories.toList
    sentiment
    rationale := buildRationale findings.deterministic matchedRules.length
    engine := "risk-rules-v1"
    detectedLanguage := lang.language
    languageConfidence := lang.confidence
    isMixedLanguage := lang.isMixed
    languageDetectionSource := lang.source
    analyzedText := norm
    evidence := findings.evidence
    explanation :=
      { matchedTerms := findings.matchedTerms.toList
        matchedRules := matchedRules.map MatchedRule.phrase
        riskSignals := (categories.toList.filter fun category =>
          category != .positive && category != .neutral).map RiskCategory.value
        recommendedReviewAction := recommendedAction level }
    matchedRules }

def classify (input : ClassificationInput) : ClassificationResult :=
  let norm := normalize database input.text
  classifyNormalized norm input.rating (matchBrandRules database norm input.rules)
    (detectLanguage database input.text)

end Tamanor.Ai
