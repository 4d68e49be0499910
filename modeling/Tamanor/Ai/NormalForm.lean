import Tamanor.Ai.AutoProtect
import Tamanor.Ai.DeterministicVerdict

/-! The form of a normalized text: words of letters, digits and mask characters that `normalize`
leaves alone, one blank apart. -/

set_option autoImplicit false

namespace Tamanor.Ai

open Tamanor.Core Library Library.Text

def isFolded (char : Char) : Bool := isWordChar (some char) && foldLeet char == char

structure IsNormal (norm : Text) : Prop where
  joined : joinWords (words norm) = norm
  folded : ∀ word ∈ words norm, ∀ char ∈ word, isFolded char = true

theorem toNat_of_isWordChar {char : Char} (wordChar : isWordChar (some char) = true) :
    char = '*' ∨ 48 ≤ char.toNat ∧ char.toNat ≤ 57 ∨ 97 ≤ char.toNat ∧ char.toNat ≤ 122 := by
  simp only [isWordChar, isLowerAlphanumeric, Bool.or_eq_true, Bool.and_eq_true,
    decide_eq_true_eq, beq_iff_eq] at wordChar
  rcases wordChar with (lower | digit) | mask
  · exact .inr (.inr ⟨lower.1, lower.2⟩)
  · exact .inr (.inl ⟨digit.1, digit.2⟩)
  · exact .inl mask

theorem plain_of_isFolded {char : Char} (folded : isFolded char = true) :
    char.toNat < 0x80 ∧ char.toLower = char ∧ isCombiningMark char = false ∧
      blankOther (foldLeet char) = char := by
  obtain ⟨wordChar, same⟩ := Bool.and_eq_true_iff.mp folded
  rw [beq_iff_eq] at same
  have kept : blankOther char = char := by
    rw [isWordChar] at wordChar
    rw [blankOther, wordChar, Bool.true_or, if_pos rfl]
  rw [same]
  rcases toNat_of_isWordChar wordChar with rfl | code
  · exact ⟨by decide, by decide, by decide, kept⟩
  · refine ⟨by omega, ?_, ?_, kept⟩
    · unfold Char.toLower
      split
      next upper =>
        have bounds : 65 ≤ char.toNat ∧ char.toNat ≤ 90 := ⟨upper.1, upper.2⟩
        omega
      next => rfl
    · simp only [isCombiningMark, Bool.and_eq_false_iff, decide_eq_false_iff_not]
      omega

theorem isFolded_blankOther (char : Char) :
    isFolded (blankOther (foldLeet char)) = true ∨ isSpace (blankOther (foldLeet char)) = true := by
  have idle : foldLeet (foldLeet char) = foldLeet char := by
    fun_cases foldLeet char
    all_goals first | rfl | simp [foldLeet, *]
  unfold blankOther
  split
  next kept =>
    rw [Bool.or_eq_true] at kept
    rcases kept with wordChar | space
    · refine .inl (Bool.and_eq_true_iff.mpr ⟨wordChar, ?_⟩)
      rw [idle, beq_self_eq_true]
    · exact .inr space
  next => exact .inr (by decide)

section Normalize

variable {database : CharacterDatabase}

theorem words_normalize (text : Text) :
    words (normalize database text) =
      words (foldCharacters (database.nfd (database.toLowerCase text))) := by
  unfold normalize
  rw [trim_collapseSpaces]
  exact words_joinWords (fun _ => ne_nil_of_mem_words)
    fun _ member char inside => (of_mem_words member char inside).1

theorem isNormal_normalize (text : Text) : IsNormal (normalize database text) where
  joined := by
    rw [words_normalize]
    exact (trim_collapseSpaces _).symm
  folded := by
    rw [words_normalize]
    intro word member char inside
    obtain ⟨solid, there⟩ := of_mem_words member char inside
    obtain ⟨leet, inLeet, rfl⟩ := List.mem_map.mp there
    obtain ⟨source, _, rfl⟩ := List.mem_map.mp inLeet
    refine (isFolded_blankOther source).resolve_right ?_
    rw [solid]
    exact Bool.false_ne_true

theorem IsNormal.plain {norm : Text} (normal : IsNormal norm) :
    ∀ char ∈ norm, char = ' ' ∨ isFolded char = true := by
  rw [← normal.joined]
  have all := normal.folded
  generalize words norm = parts at all
  induction parts with
  | nil => exact fun char member => nomatch member
  | cons word rest ih =>
    have first := all word List.mem_cons_self
    have later := ih fun other member => all other (List.mem_cons_of_mem _ member)
    rw [joinWords_cons]
    split
    next => exact fun char member => .inr (first char member)
    next =>
      intro char member
      rcases List.mem_append.mp member with here | there
      · exact .inr (first char here)
      · rcases List.mem_cons.mp there with blank | there
        · exact .inl blank
        · exact later char there

theorem normalize_of_isNormal {norm : Text} (normal : IsNormal norm) :
    normalize database norm = norm := by
  have facts : ∀ char ∈ norm, char.toNat < 0x80 ∧ char.toLower = char ∧
      isCombiningMark char = false ∧ blankOther (foldLeet char) = char := by
    intro char member
    rcases normal.plain char member with rfl | folded
    · decide
    · exact plain_of_isFolded folded
  have lower : database.toLowerCase norm = norm :=
    database.toLowerCase_of_ascii fun char member =>
      ⟨(facts char member).1, (facts char member).2.1⟩
  have decomposed : database.nfd norm = norm :=
    database.nfd_of_ascii fun char member => (facts char member).1
  have marks : norm.filter (fun char => !isCombiningMark char) = norm := by
    rw [List.filter_eq_self]
    intro char member
    rw [(facts char member).2.2.1]
    rfl
  have folds : foldCharacters norm = norm := by
    rw [foldCharacters, marks, List.map_map]
    conv_rhs => rw [← List.map_id norm]
    exact List.map_congr_left fun char member => (facts char member).2.2.2
  rw [normalize, lower, decomposed, folds, trim_collapseSpaces]
  exact normal.joined

theorem normalize_normalize (text : Text) :
    normalize database (normalize database text) = normalize database text :=
  normalize_of_isNormal (isNormal_normalize text)

end Normalize

structure SameVerdict (first second : ClassificationResult) : Prop where
  level : first.level = second.level
  confidence : first.confidence = second.confidence
  categories : first.categories = second.categories
  sentiment : first.sentiment = second.sentiment
  evidence : first.evidence = second.evidence
  matchedTerms : first.explanation.matchedTerms = second.explanation.matchedTerms
  riskSignals : first.explanation.riskSignals = second.explanation.riskSignals

theorem classifyNormalized_language (norm : Text) (rating : Option ℚ)
    (matchedRules : List MatchedRule) (first second : LanguageDetection) :
    SameVerdict (classifyNormalized norm rating matchedRules first)
      (classifyNormalized norm rating matchedRules second) := by
  unfold classifyNormalized
  exact ⟨rfl, rfl, rfl, rfl, rfl, rfl, rfl⟩

/-- Every reader of a text normalizes it, and normalizing twice is normalizing once. -/
theorem normalize_keeps_verdict (database : CharacterDatabase) (text : Text) :
    normalize database (normalize database text) = normalize database text ∧
      (∀ input : ClassificationInput,
        SameVerdict (classify database { input with text := normalize database text })
          (classify database { input with text })) ∧
      (∀ (level : String) (categories riskSignals : List String) (rules : List BrandMemoryRule),
        applyBrandMemory database (normalize database text) level categories riskSignals rules =
          applyBrandMemory database text level categories riskSignals rules) ∧
      ∀ signals : List String,
        matchAutoProtectCategory database (normalize database text) signals =
          matchAutoProtectCategory database text signals := by
  have once : normalize database (normalize database text) = normalize database text :=
    normalize_normalize text
  refine ⟨once, ?_, ?_, ?_⟩
  · intro input
    unfold classify
    rw [once]
    exact classifyNormalized_language ..
  · intro level categories riskSignals rules
    unfold applyBrandMemory
    rw [once]
  · intro signals
    unfold matchAutoProtectCategory
    rw [once]

end Tamanor.Ai
