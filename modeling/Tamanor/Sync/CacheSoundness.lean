import Tamanor.Ai.DeterministicVerdict
import Tamanor.Sync.MeteredClassifyProperties

/-! What the cache of metered classification may serve. The key of an entry determines
the normalized text and the rating; the rules of the brand are not part of it. -/

set_option autoImplicit false

namespace Tamanor.Sync

open Tamanor.Core Tamanor.Db Ai Library Library.Text

section Key

variable {database : CharacterDatabase} {runtime : Runtime}

theorem platform_plain (platform : Platform) : Char.ofNat 0 ∉ platform.value.toList := by
  cases platform <;> decide

theorem ratingText_plain (rating : Option ℚ) :
    Char.ofNat 0 ∉ (rating.map runtime.numberText).getD [] := by
  cases rating with
  | none => simp
  | some number => exact runtime.numberText_plain number

theorem ratingText_inj {first second : Option ℚ}
    (same : (first.map runtime.numberText).getD [] = (second.map runtime.numberText).getD []) :
    first = second := by
  cases first with
  | none =>
    cases second with
    | none => rfl
    | some number => exact absurd same.symm (runtime.numberText_ne_nil number)
  | some number =>
    cases second with
    | none => exact absurd same (runtime.numberText_ne_nil number)
    | some other => exact congrArg some (runtime.numberText_injective same)

theorem keyText_determines {first second : ContentVersion}
    (firstPlain : Char.ofNat 0 ∉ first.context) (secondPlain : Char.ofNat 0 ∉ second.context)
    (classifier : first.classifierVersion = second.classifierVersion)
    (policy : first.policyVersion = second.policyVersion)
    (same : closeParts (first.parts database runtime) =
      closeParts (second.parts database runtime)) :
    contentNorm database first.text = contentNorm database second.text ∧
      first.rating = second.rating := by
  have front : (contentNorm database first.text ++ Char.ofNat 0 ::
        (first.rating.map runtime.numberText).getD []) ++ Char.ofNat 0 :: first.context =
      (contentNorm database second.text ++ Char.ofNat 0 ::
        (second.rating.map runtime.numberText).getD []) ++ Char.ofNat 0 :: second.context := by
    simp only [closeParts, ContentVersion.parts, List.flatMap_cons, List.flatMap_nil, classifier,
      policy] at same
    refine (List.append_left_inj (Char.ofNat 0 :: (second.classifierVersion ++
      Char.ofNat 0 :: (second.policyVersion ++ [Char.ofNat 0])))).mp ?_
    simpa using same
  obtain ⟨front, -⟩ := append_separator_inj firstPlain secondPlain front
  obtain ⟨norm, rating⟩ := append_separator_inj (ratingText_plain first.rating)
    (ratingText_plain second.rating) front
  exact ⟨norm, ratingText_inj rating⟩

theorem words_contentNorm (text : Text) :
    words (contentNorm database text) = words (database.toLowerCase text) := by
  rw [contentNorm, words_collapseSpaces, CharacterDatabase.words_toLowerCase_trim]

theorem normalize_of_contentNorm {first second : Text}
    (same : contentNorm database first = contentNorm database second) :
    normalize database first = normalize database second := by
  apply normalize_congr
  rw [← words_contentNorm, ← words_contentNorm, same]

end Key

theorem context_plain (platform : Platform) {locale : Text} (plain : Char.ofNat 0 ∉ locale) :
    Char.ofNat 0 ∉ platform.value.toList ++ '|' :: locale := by
  simp only [List.mem_append, List.mem_cons, not_or]
  exact ⟨platform_plain platform, by decide, plain⟩

theorem content_of_key {env : MeteredEnv} {input other : ClassificationInput}
    {cfg otherConfig : HybridConfig} (collisionFree : Function.Injective env.runtime.sha256)
    (plain : Char.ofNat 0 ∉ cfg.workspaceLocale.toList)
    (otherPlain : Char.ofNat 0 ∉ otherConfig.workspaceLocale.toList)
    (hash : contentHashOf env input cfg = contentHashOf env other otherConfig) :
    normalize env.database input.text = normalize env.database other.text ∧
      input.rating = other.rating := by
  have key : closeParts ((contentVersionOf input cfg).parts env.database env.runtime) =
      closeParts ((contentVersionOf other otherConfig).parts env.database env.runtime) :=
    collisionFree hash
  obtain ⟨norm, rating⟩ := @keyText_determines env.database env.runtime
    (contentVersionOf input cfg) (contentVersionOf other otherConfig)
    (context_plain input.platform plain) (context_plain other.platform otherPlain) rfl rfl key
  exact ⟨normalize_of_contentNorm norm, rating⟩

/-- On the texts of the two calls, brand rules of the same categories match and the same
memory rules fire. -/
structure SameFiredRules (database : CharacterDatabase) (first second : ClassificationInput)
    (firstConfig secondConfig : HybridConfig) : Prop where
  brand : firedCategories database first = firedCategories database second
  memory : firedMemory database first.text firstConfig.memoryRules =
    firedMemory database second.text secondConfig.memoryRules

/-- Two calls with one key get one verdict, if the rules that fire in them are the same. -/
theorem rulesResult_verdict_of_key {first second : MeteredEnv} {input other : ClassificationInput}
    {cfg otherConfig : HybridConfig} (collisionFree : Function.Injective first.runtime.sha256)
    (runtime : second.runtime = first.runtime) (database : second.database = first.database)
    (plain : Char.ofNat 0 ∉ cfg.workspaceLocale.toList)
    (otherPlain : Char.ofNat 0 ∉ otherConfig.workspaceLocale.toList)
    (hash : contentHashOf first input cfg = contentHashOf second other otherConfig)
    (fired : SameFiredRules first.database input other cfg otherConfig) :
    (rulesResult first input cfg).verdict = (rulesResult second other otherConfig).verdict := by
  have key : contentHashOf first input cfg = contentHashOf first other otherConfig := by
    unfold contentHashOf at hash ⊢
    rwa [runtime, database] at hash
  obtain ⟨norm, rating⟩ := content_of_key collisionFree plain otherPlain key
  have same : SameFindings (classify first.database input) (classify first.database other) :=
    classify_congr norm rating fired.brand
  unfold rulesResult
  rw [database]
  exact classifyHybrid_verdict_congr rfl rfl same fired.memory

def blockedGreeting (text : String) (phrases : List String) : ClassificationInput :=
  { greetingInput with
    text := text.toList
    rules := [{ category := .blockedWords, phrases := phrases.map String.toList, enabled := true }] }

theorem greetingEnv_collisionFree : Function.Injective greetingEnv.runtime.sha256 :=
  Runtime.ofDigest_injective _ (by decide)

theorem rulesResult_verdict_of_key_greeting :
    (rulesResult greetingEnv (blockedGreeting "hi" ["hi"]) greetingConfig).verdict =
      (rulesResult greetingEnv (blockedGreeting " HI " ["h1", "bye"]) greetingConfig).verdict :=
  rulesResult_verdict_of_key greetingEnv_collisionFree rfl rfl (by decide) (by decide)
    (by decide +kernel) ⟨by decide +kernel, by decide +kernel⟩

/-- Two brands of one tenant share the key of a text that only one of them blocks. -/
theorem rulesResult_verdict_differs :
    Function.Injective greetingEnv.runtime.sha256 ∧
      contentHashOf greetingEnv (blockedGreeting "hi" ["hi"]) greetingConfig =
        contentHashOf greetingEnv greetingInput greetingConfig ∧
      (rulesResult greetingEnv (blockedGreeting "hi" ["hi"]) greetingConfig).verdict ≠
        (rulesResult greetingEnv greetingInput greetingConfig).verdict :=
  ⟨greetingEnv_collisionFree, by decide +kernel, by decide +kernel⟩

end Tamanor.Sync
