import Tamanor.Ai.BrandMemoryProperties
import Tamanor.Ai.ControlCenter
import Tamanor.Ai.LexiconProperties
import Tamanor.Ai.PipelineProperties

/-! Bounds on a verdict of the pipeline: the confidence does not exceed one, and the category
under which the Control Center files a text guarantees a level. -/

set_option autoImplicit false

namespace Tamanor.Ai

open Tamanor.Core Library Library.Text

def Providers.Calibrated (providers : Providers) : Prop :=
  ∀ name openai input, 0 ≤ (providers.classify name openai input).confidence ∧
    (providers.classify name openai input).confidence ≤ 1

theorem round2_le_one {number : ℚ} (bounded : number ≤ 1) : round2 number ≤ 1 := by
  have hundredths : (number * 100 + 1 / 2).floor ≤ 100 := by
    have below : number * 100 + 1 / 2 < ((101 : ℤ) : ℚ) := by
      push_cast
      linarith
    have := Rat.floor_lt_iff.mpr below
    omega
  unfold round2
  rw [div_le_one (by norm_num)]
  exact_mod_cast hundredths

theorem confidenceFor_le_one (score : ℚ) (deterministic : Bool) :
    confidenceFor score deterministic ≤ 1 := by
  unfold confidenceFor
  split <;> exact (min_le_left _ _).trans (by norm_num)

theorem AiStage.mergeAnswer_confidence {stage : AiStage} (bounded : stage.confidence ≤ 1)
    {answer : Option AiRiskOutput} (calibrated : ∀ out ∈ answer, out.confidence ≤ 1) :
    (stage.mergeAnswer answer).confidence ≤ 1 := by
  cases answer with
  | none => exact bounded
  | some out =>
    unfold mergeAnswer merge
    dsimp only
    split
    · exact max_le bounded (calibrated out rfl)
    · exact bounded

theorem classifyHybrid_confidence (database : CharacterDatabase) {providers : Providers}
    (calibrated : providers.Calibrated) (forceDiagnosticsError : Bool)
    (input : ClassificationInput) (cfg : HybridConfig) :
    (classifyHybrid database providers forceDiagnosticsError input cfg).confidence ≤ 1 := by
  refine round2_le_one (AiStage.mergeAnswer_confidence ?_ ?_)
  · exact round2_le_one (confidenceFor_le_one _ _)
  · intro out answered
    unfold aiAnswer at answered
    dsimp only at answered
    split at answered
    · cases answered
      exact (calibrated _ _ _).2
    · cases answered

/-! The category of the Control Center. -/

section Source

variable {norm : Text}

theorem pickHigher_cases (left right : AutoProtectCategory) :
    pickHigher left right = left ∨ pickHigher left right = right := by
  unfold pickHigher
  split
  · exact .inl rfl
  · exact .inr rfl

theorem foldl_pickHigher {ε : Type} (hit : ε → Bool) (value : ε → AutoProtectCategory)
    (entries : List ε) (start : AutoProtectCategory) :
    entries.foldl (fun category entry =>
        if hit entry then pickHigher category (value entry) else category) start = start ∨
      ∃ entry ∈ entries, hit entry = true ∧ entries.foldl (fun category entry =>
        if hit entry then pickHigher category (value entry) else category) start = value entry := by
  induction entries generalizing start with
  | nil => exact .inl rfl
  | cons entry entries ih =>
    rw [List.foldl_cons]
    obtain kept | ⟨other, member, hits, picked⟩ :=
      ih (if hit entry then pickHigher start (value entry) else start)
    · rw [kept]
      cases hits : hit entry with
      | false => exact .inl rfl
      | true =>
        obtain first | second := pickHigher_cases start (value entry)
        · exact .inl first
        · exact .inr ⟨entry, List.mem_cons_self, hits, second⟩
    · exact .inr ⟨other, List.mem_cons_of_mem _ member, hits, picked⟩

inductive CategorySource (norm : Text) (signals : List String) : AutoProtectCategory → Prop where
  | none : CategorySource norm signals .normalCriticism
  | promo : CategorySource norm signals .competitorPromo
  | term {category : AutoProtectCategory} {terms : List String} {term : String} :
      (category, terms) ∈ termLexicon → term ∈ terms →
      findTermSpans norm term.toList category.value false ≠ [] →
      CategorySource norm signals category
  | signal {category : AutoProtectCategory} {signal : String} :
      (signal, category) ∈ signalMap → signal ∈ signals → CategorySource norm signals category

theorem CategorySource.pick {signals : List String} {left right : AutoProtectCategory}
    (fromLeft : CategorySource norm signals left) (fromRight : CategorySource norm signals right) :
    CategorySource norm signals (pickHigher left right) := by
  obtain same | same := pickHigher_cases left right
  · rwa [same]
  · rwa [same]

theorem matchAutoProtectCategory_source (database : CharacterDatabase) (text : Text)
    (signals : List String) :
    CategorySource (normalize database text) signals
      (matchAutoProtectCategory database text signals) := by
  unfold matchAutoProtectCategory
  dsimp only
  have byTerms := foldl_pickHigher
    (fun entry => anyTerm (normalize database text) entry.1 entry.2) Prod.fst termLexicon
    .normalCriticism
  generalize termLexicon.foldl _ _ = found at byTerms ⊢
  have ofTerms : CategorySource (normalize database text) signals found := by
    obtain rfl | ⟨⟨category, terms⟩, listed, hits, rfl⟩ := byTerms
    · exact .none
    · obtain ⟨term, member, found⟩ := List.any_eq_true.mp hits
      exact .term listed member (by simpa using found)
  have bySignals :=
    foldl_pickHigher (fun entry => signals.contains entry.1) Prod.snd signalMap found
  generalize signalMap.foldl _ _ = picked at bySignals ⊢
  have ofSignals : CategorySource (normalize database text) signals picked := by
    obtain rfl | ⟨⟨signal, category⟩, listed, hits, rfl⟩ := bySignals
    · exact ofTerms
    · exact .signal listed (List.contains_iff_mem.mp hits)
  split
  · exact ofSignals.pick .promo
  · split
    · exact ofSignals.pick .none
    · exact ofSignals

end Source

def leastWeight : RiskCategory → ℚ
  | .scam => 0.75
  | .harassment => 0.8
  | .hateSpeech => 0.9
  | _ => 0

def Findings.Weighted (findings : Findings) : Prop :=
  ∀ category ∈ findings.categories, leastWeight category ≤ findings.score

/-- A pass of the classifier only adds, and a category only with its weight. -/
structure Findings.Grows (before after : Findings) : Prop where
  score : before.score ≤ after.score
  weighted : before.Weighted → after.Weighted

theorem lexicon_weights :
    (lexicon.all fun row => decide (leastWeight row.category ≤ row.weight)) = true := by
  decide +kernel

section Grows

variable {norm : Text} {before middle after : Findings} (findings : Findings)

theorem Findings.Grows.refl : findings.Grows findings := ⟨le_rfl, id⟩

theorem Findings.Grows.trans (first : before.Grows middle) (second : middle.Grows after) :
    before.Grows after :=
  ⟨first.score.trans second.score, second.weighted ∘ first.weighted⟩

theorem Findings.Grows.add {category : RiskCategory} {weight : ℚ}
    (bounded : leastWeight category ≤ weight)
    (categories : after.categories = before.categories.add category)
    (score : after.score = max before.score weight) : before.Grows after where
  score := score ▸ le_max_left _ _
  weighted := by
    intro weighted other member
    rw [categories, OrderedSet.mem_add] at member
    rw [score]
    obtain old | rfl := member
    · exact (weighted other old).trans (le_max_left _ _)
    · exact bounded.trans (le_max_right _ _)

theorem Findings.Grows.foldl {α : Type} {step : Findings → α → Findings} {values : List α}
    (grows : ∀ findings : Findings, ∀ value ∈ values, findings.Grows (step findings value))
    (findings : Findings) : findings.Grows (values.foldl step findings) := by
  induction values generalizing findings with
  | nil => exact .refl findings
  | cons value values ih =>
    have here := grows findings value List.mem_cons_self
    exact here.trans (ih (fun other inside member =>
      grows other inside (List.mem_cons_of_mem _ member)) (step findings value))

theorem applyLexiconRow_grows {row : LexiconRow} (listed : row ∈ lexicon) :
    findings.Grows (findings.applyLexiconRow norm row) := by
  have weight : leastWeight row.category ≤ row.weight := by
    simpa using List.all_eq_true.mp lexicon_weights row listed
  unfold Findings.applyLexiconRow
  dsimp only
  split
  · exact .refl findings
  · exact .add weight rfl rfl

theorem applyScamContext_grows : findings.Grows (findings.applyScamContext norm) := by
  unfold Findings.applyScamContext
  dsimp only
  split
  · have bounded : leastWeight .scam ≤ 0.9 := by norm_num [leastWeight]
    exact .add bounded rfl rfl
  · exact .refl findings

theorem applyRating_grows (rating : Option ℚ) : findings.Grows (findings.applyRating rating) := by
  unfold Findings.applyRating
  split
  · exact .refl findings
  · split
    · have bounded : leastWeight .complaint ≤ 0.45 := by norm_num [leastWeight]
      exact .add bounded rfl rfl
    · exact .refl findings

theorem applyBrandRule_grows (matched : MatchedRule) :
    findings.Grows (findings.applyBrandRule matched) := by
  unfold Findings.applyBrandRule
  cases matched.category with
  | blockedWords =>
    have bounded : leastWeight .profanity ≤ 0.8 := by norm_num [leastWeight]
    exact .add bounded rfl rfl
  | competitorMentions =>
    exact ⟨le_max_left _ _, fun weighted category member =>
      (weighted category member).trans (le_max_left _ _)⟩
  | crisisKeywords =>
    have bounded : leastWeight .brandAttack ≤ 0.9 := by norm_num [leastWeight]
    exact .add bounded rfl rfl
  | customPhrases =>
    have bounded : leastWeight .neutral ≤ 0.35 := by norm_num [leastWeight]
    exact .add bounded rfl rfl

theorem lexiconFindings_grows (rating : Option ℚ) (matchedRules : List MatchedRule) :
    (lexiconFindings norm).Grows (ruleFindings norm rating matchedRules) :=
  (applyScamContext_grows _).trans
    ((applyRating_grows _ rating).trans (.foldl (fun findings matched _ =>
      applyBrandRule_grows findings matched) _))

theorem ruleFindings_weighted (rating : Option ℚ) (matchedRules : List MatchedRule) :
    (ruleFindings norm rating matchedRules).Weighted := by
  have lexical : Findings.start.Grows (lexiconFindings norm) :=
    .foldl (fun findings row listed => applyLexiconRow_grows findings listed) _
  refine (lexical.trans (lexiconFindings_grows rating matchedRules)).weighted ?_
  intro category member
  exact absurd member OrderedSet.not_mem_empty

theorem weight_le_score {row : LexiconRow} (listed : row ∈ lexicon)
    (stands : ∃ term ∈ row.terms, StandsIn norm term row.isStem) (rating : Option ℚ)
    (matchedRules : List MatchedRule) :
    row.weight ≤ (ruleFindings norm rating matchedRules).score := by
  refine le_trans ?_ (lexiconFindings_grows rating matchedRules).score
  obtain ⟨earlier, later, split⟩ := List.append_of_mem listed
  have rest : ∀ other ∈ later, other ∈ lexicon := by
    intro other member
    rw [split]
    exact List.mem_append_right _ (List.mem_cons_of_mem _ member)
  have found := (lexiconHits_isEmpty row listed).mpr stands
  unfold lexiconFindings
  rw [split, List.foldl_append, List.foldl_cons]
  refine le_trans ?_ (Findings.Grows.foldl (fun findings other member =>
    applyLexiconRow_grows findings (rest other member)) _).score
  unfold Findings.applyLexiconRow
  simp only [found, Bool.false_eq_true, if_false]
  exact le_max_right _ _

end Grows

theorem rank_scoreToLevel {lower upper : ℚ} (ordered : lower ≤ upper) :
    rank (scoreToLevel lower).value ≤ rank (scoreToLevel upper).value := by
  unfold scoreToLevel
  split_ifs
  all_goals first | decide | linarith

/-! Accusations that the brand memory cannot lower. -/

def protectedCategories : List RiskCategory := [.scam, .harassment, .hateSpeech]

def memorySignals : List String := [
  "brand_blocked", "brand_watch", "brand_increase", "crisis", "competitor", "brand_allow",
  "brand_reduce"]

theorem RiskCategory.value_injective {left right : RiskCategory}
    (same : left.value = right.value) : left = right := by
  cases left <;> cases right <;> first | rfl | exact absurd same (by decide)

theorem protectedCategories_facts : ∀ category ∈ protectedCategories,
    (category ≠ .positive ∧ category ≠ .neutral) ∧ category.value ∈ evidenceRequiredCategories ∧
      category.value ∈ protectedSignals ∧ category.value ∉ memorySignals := by
  decide

theorem blank_signals {floored : Bool} {rule : BrandMemoryRule} {signal : String}
    (member : signal ∈ (BrandMemoryResult.blank.applyRule floored rule).riskSignals) :
    signal ∈ memorySignals := by
  unfold BrandMemoryResult.applyRule at member
  split at member
  all_goals cases floored
  all_goals
    simp [BrandMemoryResult.raiseTo, BrandMemoryResult.record, BrandMemoryResult.blank] at member
  all_goals subst member
  all_goals decide

section Protected

variable {database : CharacterDatabase} {input : ClassificationInput} {category : RiskCategory}

theorem mem_riskSignals (accuses : category ≠ .positive ∧ category ≠ .neutral) :
    category.value ∈ (classify database input).explanation.riskSignals ↔
      category ∈ (classify database input).categories := by
  change category.value ∈ ((classify database input).categories.filter fun category =>
    category != .positive && category != .neutral).map RiskCategory.value ↔ _
  constructor
  · intro listed
    obtain ⟨other, member, same⟩ := List.mem_map.mp listed
    obtain rfl := RiskCategory.value_injective same
    exact (List.mem_filter.mp member).1
  · intro member
    exact List.mem_map_of_mem (List.mem_filter.mpr ⟨member, by simp [accuses]⟩)

section

variable (listed : category ∈ protectedCategories)
include listed

theorem mem_categories_of_memorySignal {memoryRules : List BrandMemoryRule}
    (signal : category.value ∈ (memoryVerdict database input memoryRules).riskSignals) :
    category ∈ (classify database input).categories := by
  obtain ⟨accuses, -, -, foreign⟩ := protectedCategories_facts category listed
  unfold memoryVerdict applyBrandMemory at signal
  obtain fromRules | ⟨rule, -, added⟩ := ((BrandMemoryResult.mem_foldl_iff _ _ _).2).mp signal
  · exact (mem_riskSignals accuses).mp (OrderedSet.mem_ofList.mp fromRules)
  · exact absurd (blank_signals added) foreign

theorem mem_categories_of_evidence {span : EvidenceSpan}
    (member : span ∈ (classify database input).evidence) (same : span.category = category.value) :
    category ∈ (classify database input).categories := by
  obtain ⟨accuses, -⟩ := protectedCategories_facts category listed
  have labelled (term : Text) (name : String) (index : Nat) :
      (spanAt (normalize database input.text) term name index).category = name := by
    unfold spanAt
    split <;> rfl
  refine (mem_classify_categories accuses).mpr (.inl ?_)
  obtain ⟨row, inLexicon, term, inTerms, occurs, shape⟩ | ⟨confirms, _, _, _, _, _, shape⟩ :=
    (classify_evidence database input span).mp member
  · rw [shape, labelled] at same
    exact .inl ⟨row, inLexicon, RiskCategory.value_injective same, term, inTerms, _, occurs⟩
  · rw [shape, labelled] at same
    exact .inr ⟨@RiskCategory.value_injective category .scam same.symm, confirms⟩

theorem mem_categories_of_signal {providers : Providers} {forceDiagnosticsError : Bool}
    {cfg : HybridConfig}
    (signal : category.value ∈ unionSignals
      (classifyHybrid database providers forceDiagnosticsError input cfg).explanation.riskSignals
      (classifyHybrid database providers forceDiagnosticsError input cfg).categories) :
    category ∈ (classify database input).categories := by
  obtain ⟨-, required, -⟩ := protectedCategories_facts category listed
  have either := OrderedSet.mem_ofList.mp (OrderedSet.mem_toList.mp signal)
  obtain raised | confirmed := List.mem_append.mp either
  · exact mem_categories_of_memorySignal listed (OrderedSet.mem_toList.mp raised)
  · have gated := classifyHybrid_categories_confirmed _ _ _ _ _ confirmed required
    obtain ⟨⟨span, member, same, -⟩, -⟩ := gateDecisions_confirmed gated required
    exact mem_categories_of_evidence listed member same

theorem rank_le_classifyHybrid (accused : category ∈ (classify database input).categories)
    {weight : ℚ}
    (reached : weight ≤ (ruleFindings (normalize database input.text) input.rating
      (matchBrandRules database (normalize database input.text) input.rules)).score)
    (providers : Providers) (forceDiagnosticsError : Bool) (cfg : HybridConfig) :
    rank (scoreToLevel weight).value ≤
      rank (classifyHybrid database providers forceDiagnosticsError input cfg).level := by
  obtain ⟨accuses, -, hard, -⟩ := protectedCategories_facts category listed
  let base : BaseVerdict :=
    { level := (classify database input).level.value
      categories := (classify database input).categories.map RiskCategory.value
      riskSignals := (classify database input).explanation.riskSignals }
  have floored : base.floored = true := by
    unfold BaseVerdict.floored protectedFloor
    rw [Bool.or_eq_true, List.any_eq_true]
    exact .inl ⟨category.value, (mem_riskSignals accuses).mpr accused, by simpa using hard⟩
  calc rank (scoreToLevel weight).value
      ≤ rank base.level := rank_scoreToLevel reached
    _ ≤ rank (base.remember database input.text cfg.memoryRules).level :=
        rank_le_remember floored
    _ ≤ rank (classifyHybrid database providers forceDiagnosticsError input cfg).level :=
        severityForVerdicts_floor _ _ _

end

end Protected

/-! Levels by the category of the Control Center. -/

/-- The least level of what is filed under a category. Where it is `none`, the category can also
come from an answer of the AI, from a term that the risk rules do not know, or from a signal
whose level the brand memory may lower. -/
def ControlCategory.leastLevel : ControlCategory → RiskLevel
  | .scam | .personalAttack => .high
  | .phishing | .hateSpeech | .racism => .critical
  | _ => .none

theorem termLexicon_leastLevel : ∀ entry ∈ termLexicon,
    (ControlCategory.ofAutoProtect entry.1).leastLevel = .none ∨
      ∃ row ∈ lexicon, row.category ∈ protectedCategories ∧ row.isStem = false ∧
        (ControlCategory.ofAutoProtect entry.1).leastLevel = scoreToLevel row.weight ∧
        ∀ term ∈ entry.2, term ∈ row.terms := by
  decide +kernel

theorem signalMap_leastLevel : ∀ entry ∈ signalMap,
    (ControlCategory.ofAutoProtect entry.2).leastLevel = .none ∨
      ∃ accusation ∈ protectedCategories, accusation.value = entry.1 ∧
        (ControlCategory.ofAutoProtect entry.2).leastLevel =
          scoreToLevel (leastWeight accusation) := by
  decide +kernel

theorem intentLexicon_leastLevel : ∀ entry ∈ intentLexicon, entry.1.leastLevel = .none := by
  decide

theorem rank_leastLevel_none {category : ControlCategory} (none : category.leastLevel = .none)
    (level : String) : rank category.leastLevel.value ≤ rank level := by
  rw [none]
  exact Nat.zero_le _

section Filed

variable {database : CharacterDatabase} {input : ClassificationInput} {providers : Providers}
  {forceDiagnosticsError : Bool} {cfg : HybridConfig} {text : Text} {result : HybridResult}

theorem rank_leastLevel_harmful
    (answered : result = classifyHybrid database providers forceDiagnosticsError input cfg)
    (same : normalize database text = normalize database input.text)
    {category : AutoProtectCategory}
    (source : CategorySource (normalize database text)
      (unionSignals result.explanation.riskSignals result.categories) category) :
    rank (ControlCategory.ofAutoProtect category).leastLevel.value ≤ rank result.level := by
  subst answered
  cases source with
  | none => exact rank_leastLevel_none rfl _
  | promo => exact rank_leastLevel_none rfl _
  | @term category terms term listed member found =>
    obtain none | ⟨row, inLexicon, protect, whole, level, covered⟩ :=
      termLexicon_leastLevel _ listed
    · exact rank_leastLevel_none none _
    · -- the terms of this entry are terms of a row of the risk rules
      have inRow := covered term member
      have stands := (findTermSpans_ne_nil_iff (isTermText_of_lexicon inLexicon inRow)).mp found
      rw [same, ← whole] at stands
      have accused := (mem_classify_categories (protectedCategories_facts _ protect).1).mpr
        (.inl (.inl ⟨row, inLexicon, rfl, term, inRow, stands⟩))
      rw [level]
      exact rank_le_classifyHybrid protect accused
        (weight_le_score inLexicon ⟨term, inRow, stands⟩ _ _) _ _ _
  | signal listed raised =>
    obtain none | ⟨accusation, protect, named, level⟩ := signalMap_leastLevel _ listed
    · exact rank_leastLevel_none none _
    · subst named
      have accused := mem_categories_of_signal protect raised
      have found := (mem_classify_findings (protectedCategories_facts _ protect).1).mp accused
      rw [level]
      exact rank_le_classifyHybrid protect accused (ruleFindings_weighted _ _ _ found) _ _ _

/-- What is filed under a category has at least its level, whatever the providers answered and
the brand memory holds. -/
theorem rank_leastLevel_le
    (answered : result = classifyHybrid database providers forceDiagnosticsError input cfg)
    (same : normalize database text = normalize database input.text)
    (sentiment riskLevel : String) (confidence : ℚ) :
    rank (matchControlCategory database
        { text, riskSignals := result.explanation.riskSignals, categories := result.categories
          sentiment, riskLevel, confidence }).leastLevel.value ≤ rank result.level := by
  unfold matchControlCategory
  dsimp only
  split
  · exact rank_leastLevel_harmful answered same (matchAutoProtectCategory_source _ _ _)
  · split
    next entry found =>
      exact rank_leastLevel_none (intentLexicon_leastLevel _ (List.mem_of_find?_eq_some found)) _
    next =>
      refine rank_leastLevel_none ?_ _
      split_ifs <;> rfl

end Filed

end Tamanor.Ai
