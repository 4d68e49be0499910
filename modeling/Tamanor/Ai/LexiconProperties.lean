import Tamanor.Ai.DeterministicVerdict
import Tamanor.Ai.TermSpans

/-! What the lexicon finds in a text: the categories and the evidence of the classifier by the
terms that stand in it. A term stands in a row of mask characters of its own shape, and some
entries of the lexicon are out of reach. -/

set_option autoImplicit false

namespace Tamanor.Ai

open Tamanor.Core Library Library.Text

def StandsIn (norm : Text) (term : String) (stem : Bool) : Prop :=
  ∃ index, Occurs norm term.toList stem index

def Fires (norm : Text) (category : RiskCategory) : Prop :=
  ∃ row ∈ lexicon, row.category = category ∧ ∃ term ∈ row.terms, StandsIn norm term row.isStem

def DimensionFires (norm : Text) (dimension : ScamDimension) : Prop :=
  ∃ entry ∈ scamContextLexicon, entry.1 = dimension ∧ ∃ term ∈ entry.2, StandsIn norm term false

/-- No term accuses of a scam, and there are two dimensions of context, one of which does harm. -/
def ContextConfirms (norm : Text) : Prop :=
  ¬ Fires norm .scam ∧ ∃ first second, first ≠ second ∧ first ∈ harmBearingDimensions ∧
    DimensionFires norm first ∧ DimensionFires norm second

def isTermText (term : Text) : Bool :=
  !term.isEmpty && term.all fun char => isLowerAlphanumeric char || char == ' '

def isWordTerm (term : Text) : Bool :=
  joinWords (words term) == term && !safeWords.contains term

theorem lexicon_terms :
    (lexicon.all fun row => row.terms.all fun term =>
      isTermText term.toList && (term == "vul " || isWordTerm term.toList)) = true ∧
    (scamContextLexicon.all fun entry =>
      entry.2.all fun term => isTermText term.toList) = true := by
  decide +kernel

variable {term : String} {norm : Text} {category : RiskCategory}

theorem isTermText_of_lexicon {row : LexiconRow} (listed : row ∈ lexicon)
    (member : term ∈ row.terms) : isTermText term.toList = true := by
  have facts := List.all_eq_true.mp (List.all_eq_true.mp lexicon_terms.1 row listed) term member
  exact (Bool.and_eq_true_iff.mp facts).1

theorem isTermText_of_context {entry : ScamDimension × List String}
    (listed : entry ∈ scamContextLexicon) (member : term ∈ entry.2) :
    isTermText term.toList = true :=
  List.all_eq_true.mp (List.all_eq_true.mp lexicon_terms.2 entry listed) term member

theorem ne_nil_of_isTermText {term : Text} (isText : isTermText term = true) : term ≠ [] := by
  rintro rfl
  cases isText

theorem findTermSpans_ne_nil_iff {category : String} {stem : Bool}
    (isText : isTermText term.toList = true) :
    findTermSpans norm term.toList category stem ≠ [] ↔ StandsIn norm term stem := by
  have nonempty := ne_nil_of_isTermText isText
  constructor
  · intro found
    obtain ⟨span, member⟩ := List.exists_mem_of_ne_nil _ found
    exact ⟨span.start, ((mem_findTermSpans nonempty).mp member).1⟩
  · rintro ⟨index, occurs⟩
    refine List.ne_nil_of_mem (a := spanAt norm term.toList category index) ?_
    rw [mem_findTermSpans nonempty, spanAt_start]
    exact ⟨occurs, rfl⟩

section Findings

variable {norm : Text}

theorem lexiconHits_isEmpty (row : LexiconRow) (listed : row ∈ lexicon) :
    (lexiconHits norm row).isEmpty = false ↔ ∃ term ∈ row.terms, StandsIn norm term row.isStem := by
  have hits : (lexiconHits norm row).isEmpty = false ↔ ∃ term ∈ row.terms,
      findTermSpans norm term.toList row.category.value row.isStem ≠ [] := by
    simp [lexiconHits, ← Bool.not_eq_true, List.isEmpty_iff]
  rw [hits]
  constructor
  · rintro ⟨term, member, found⟩
    exact ⟨term, member, (findTermSpans_ne_nil_iff (isTermText_of_lexicon listed member)).mp found⟩
  · rintro ⟨term, member, stands⟩
    exact ⟨term, member,
      (findTermSpans_ne_nil_iff (isTermText_of_lexicon listed member)).mpr stands⟩

theorem mem_foldl_lexicon {rows : List LexiconRow} (listed : ∀ row ∈ rows, row ∈ lexicon)
    (findings : Findings) (category : RiskCategory) :
    category ∈ (rows.foldl (Findings.applyLexiconRow norm) findings).categories ↔
      category ∈ findings.categories ∨ ∃ row ∈ rows, row.category = category ∧
        ∃ term ∈ row.terms, StandsIn norm term row.isStem := by
  induction rows generalizing findings with
  | nil => simp
  | cons row rows ih =>
    obtain ⟨here, others⟩ := List.forall_mem_cons.mp listed
    rw [List.foldl_cons, ih others, List.exists_mem_cons_iff, ← lexiconHits_isEmpty row here]
    unfold Findings.applyLexiconRow
    cases empty : (lexiconHits norm row).isEmpty with
    | true => simp only [empty, if_true, Bool.true_eq_false, and_false, false_or]
    | false =>
      simp only [empty, Bool.false_eq_true, if_false, OrderedSet.mem_add, and_true, or_assoc,
        eq_comm (a := category)]

theorem evidence_foldl_lexicon (rows : List LexiconRow) (findings : Findings) :
    (rows.foldl (Findings.applyLexiconRow norm) findings).evidence =
      findings.evidence ++ rows.flatMap fun row => (lexiconHits norm row).flatMap Prod.snd := by
  induction rows generalizing findings with
  | nil => simp
  | cons row rows ih =>
    rw [List.foldl_cons, ih, List.flatMap_cons]
    unfold Findings.applyLexiconRow
    cases empty : (lexiconHits norm row).isEmpty with
    | true =>
      simp only [empty, if_true]
      rw [List.isEmpty_iff.mp empty, List.flatMap_nil, List.nil_append]
    | false => simp only [empty, Bool.false_eq_true, if_false, List.append_assoc]

def contextHits (norm : Text) : List (ScamDimension × List EvidenceSpan) :=
  (scamContextLexicon.flatMap fun (dimension, terms) =>
    terms.map fun term => (dimension, findTermSpans norm term.toList "scam" false)).filter
      fun hit => !hit.2.isEmpty

theorem assessScamContext_dimensions (accused : Bool) :
    (assessScamContext norm accused).dimensions =
      (OrderedSet.ofList ((contextHits norm).map Prod.fst)).toList := by
  unfold assessScamContext
  dsimp only
  split_ifs <;> rfl

theorem assessScamContext_spans (accused : Bool) :
    (assessScamContext norm accused).spans = (contextHits norm).flatMap Prod.snd := by
  unfold assessScamContext
  dsimp only
  split_ifs <;> rfl

theorem assessScamContext_confirms (accused : Bool) :
    ((assessScamContext norm accused).confirms &&
        (assessScamContext norm accused).reason == .multiDimensionWithHarm) = true ↔
      accused = false ∧ 2 ≤ (assessScamContext norm accused).dimensions.length ∧
        ∃ dimension ∈ (assessScamContext norm accused).dimensions,
          dimension ∈ harmBearingDimensions := by
  unfold assessScamContext
  dsimp only
  cases accused with
  | true => simp
  | false =>
    simp only [Bool.false_eq_true, if_false, true_and]
    split
    next both =>
      simp only [Bool.and_eq_true, beq_self_eq_true, and_self, true_iff]
      refine ⟨both.1, ?_⟩
      obtain ⟨dimension, member⟩ := List.length_pos_iff_exists_mem.mp both.2
      exact ⟨dimension, (List.mem_filter.mp member).1,
        List.contains_iff_mem.mp (List.mem_filter.mp member).2⟩
    next neither =>
      simp only [Bool.false_and, Bool.false_eq_true, false_iff]
      rintro ⟨two, dimension, member, harms⟩
      refine neither ⟨two, List.length_pos_iff_exists_mem.mpr ⟨dimension, ?_⟩⟩
      exact List.mem_filter.mpr ⟨member, List.contains_iff_mem.mpr harms⟩

theorem mem_contextHits {hit : ScamDimension × List EvidenceSpan} :
    hit ∈ contextHits norm ↔ hit.2 ≠ [] ∧ ∃ entry ∈ scamContextLexicon, ∃ term ∈ entry.2,
      hit = (entry.1, findTermSpans norm term.toList "scam" false) := by
  unfold contextHits
  rw [List.mem_filter, List.mem_flatMap]
  simp only [List.mem_map, Bool.not_eq_true', List.isEmpty_eq_false_iff]
  rw [and_comm]
  simp only [eq_comm (b := hit)]

theorem mem_dimensions (accused : Bool) (dimension : ScamDimension) :
    dimension ∈ (assessScamContext norm accused).dimensions ↔ DimensionFires norm dimension := by
  rw [assessScamContext_dimensions, OrderedSet.mem_toList, OrderedSet.mem_ofList, List.mem_map]
  constructor
  · rintro ⟨hit, member, rfl⟩
    obtain ⟨found, entry, listed, term, inTerms, rfl⟩ := mem_contextHits.mp member
    exact ⟨entry, listed, rfl, term, inTerms,
      (findTermSpans_ne_nil_iff (isTermText_of_context listed inTerms)).mp found⟩
  · rintro ⟨entry, listed, rfl, term, inTerms, stands⟩
    have found : findTermSpans norm term.toList "scam" false ≠ [] :=
      (findTermSpans_ne_nil_iff (isTermText_of_context listed inTerms)).mpr stands
    exact ⟨_, mem_contextHits.mpr ⟨found, entry, listed, term, inTerms, rfl⟩, rfl⟩

theorem two_le_length_iff {α : Type} {values : List α} (once : values.Nodup) {value : α}
    (member : value ∈ values) : 2 ≤ values.length ↔ ∃ other ∈ values, value ≠ other := by
  constructor
  · intro two
    by_contra alone
    push Not at alone
    have inside : values ⊆ [value] := fun other present => by
      rw [alone other present]
      exact List.mem_singleton_self other
    have short := List.Nodup.length_le_of_subset once inside
    rw [List.length_singleton] at short
    omega
  · rintro ⟨other, present, different⟩
    have pair : [value, other].Nodup := by simpa using different
    exact List.Nodup.length_le_of_subset pair (by simp [member, present])

theorem contextConfirms_iff {accused : Bool} (isAccused : accused = true ↔ Fires norm .scam) :
    ((assessScamContext norm accused).confirms &&
        (assessScamContext norm accused).reason == .multiDimensionWithHarm) = true ↔
      ContextConfirms norm := by
  have once : (assessScamContext norm accused).dimensions.Nodup := by
    rw [assessScamContext_dimensions]
    exact OrderedSet.nodup _
  rw [assessScamContext_confirms, ContextConfirms, ← isAccused, Bool.not_eq_true]
  refine and_congr_right fun _ => ?_
  constructor
  · rintro ⟨two, first, member, harms⟩
    obtain ⟨second, other, different⟩ := (two_le_length_iff once member).mp two
    exact ⟨first, second, different, harms, (mem_dimensions accused first).mp member,
      (mem_dimensions accused second).mp other⟩
  · rintro ⟨first, second, different, harms, one, two⟩
    have member := (mem_dimensions accused first).mpr one
    have other := (mem_dimensions accused second).mpr two
    exact ⟨(two_le_length_iff once member).mpr ⟨second, other, different⟩, first, member, harms⟩

def lexiconFindings (norm : Text) : Findings :=
  lexicon.foldl (Findings.applyLexiconRow norm) .start

theorem mem_lexiconFindings (category : RiskCategory) :
    category ∈ (lexiconFindings norm).categories ↔ Fires norm category := by
  rw [lexiconFindings, mem_foldl_lexicon fun _ listed => listed]
  simp [Findings.start, Fires]

theorem contextConfirms_findings :
    ((assessScamContext norm (decide (.scam ∈ (lexiconFindings norm).categories))).confirms &&
        (assessScamContext norm (decide (.scam ∈ (lexiconFindings norm).categories))).reason ==
          .multiDimensionWithHarm) = true ↔ ContextConfirms norm := by
  refine contextConfirms_iff ?_
  rw [decide_eq_true_eq, mem_lexiconFindings]

theorem mem_lexicalFindings (category : RiskCategory) :
    category ∈ (lexicalFindings norm).categories ↔
      Fires norm category ∨ category = .scam ∧ ContextConfirms norm := by
  change category ∈ ((lexiconFindings norm).applyScamContext norm).categories ↔ _
  rw [← contextConfirms_findings, ← mem_lexiconFindings]
  unfold Findings.applyScamContext
  dsimp only
  split
  next confirms => simp [confirms]
  next not => simp [not]

def Evidences (norm : Text) (span : EvidenceSpan) : Prop :=
  (∃ row ∈ lexicon, ∃ term ∈ row.terms, Occurs norm term.toList row.isStem span.start ∧
    span = spanAt norm term.toList row.category.value span.start) ∨
  ContextConfirms norm ∧ ∃ entry ∈ scamContextLexicon, ∃ term ∈ entry.2,
    Occurs norm term.toList false span.start ∧ span = spanAt norm term.toList "scam" span.start

theorem mem_lexiconFindings_evidence (span : EvidenceSpan) :
    span ∈ (lexiconFindings norm).evidence ↔ ∃ row ∈ lexicon, ∃ term ∈ row.terms,
      Occurs norm term.toList row.isStem span.start ∧
        span = spanAt norm term.toList row.category.value span.start := by
  rw [lexiconFindings, evidence_foldl_lexicon, Findings.start, List.nil_append, List.mem_flatMap]
  refine exists_congr fun row => and_congr_right fun listed => ?_
  rw [List.mem_flatMap]
  constructor
  · rintro ⟨hit, member, inside⟩
    obtain ⟨term, inTerms, rfl⟩ := List.mem_map.mp (List.mem_filter.mp member).1
    have nonempty := ne_nil_of_isTermText (isTermText_of_lexicon listed inTerms)
    exact ⟨term, inTerms, (mem_findTermSpans nonempty).mp inside⟩
  · rintro ⟨term, inTerms, occurs⟩
    have nonempty := ne_nil_of_isTermText (isTermText_of_lexicon listed inTerms)
    have inside := (mem_findTermSpans nonempty).mpr occurs
    refine ⟨_, List.mem_filter.mpr ⟨List.mem_map.mpr ⟨term, inTerms, rfl⟩, ?_⟩, inside⟩
    rw [Bool.not_eq_true', List.isEmpty_eq_false_iff]
    exact List.ne_nil_of_mem inside

theorem mem_lexicalFindings_evidence (span : EvidenceSpan) :
    span ∈ (lexicalFindings norm).evidence ↔ Evidences norm span := by
  change span ∈ ((lexiconFindings norm).applyScamContext norm).evidence ↔ _
  have ofContext : span ∈ (contextHits norm).flatMap Prod.snd ↔
      ∃ entry ∈ scamContextLexicon, ∃ term ∈ entry.2, Occurs norm term.toList false span.start ∧
        span = spanAt norm term.toList "scam" span.start := by
    rw [List.mem_flatMap]
    constructor
    · rintro ⟨hit, member, inside⟩
      obtain ⟨_, entry, listed, term, inTerms, rfl⟩ := mem_contextHits.mp member
      have nonempty := ne_nil_of_isTermText (isTermText_of_context listed inTerms)
      exact ⟨entry, listed, term, inTerms, (mem_findTermSpans nonempty).mp inside⟩
    · rintro ⟨entry, listed, term, inTerms, occurs⟩
      have nonempty := ne_nil_of_isTermText (isTermText_of_context listed inTerms)
      have inside := (mem_findTermSpans nonempty).mpr occurs
      exact ⟨_, mem_contextHits.mpr
        ⟨List.ne_nil_of_mem inside, entry, listed, term, inTerms, rfl⟩, inside⟩
  rw [Evidences, ← contextConfirms_findings, ← mem_lexiconFindings_evidence, ← ofContext]
  unfold Findings.applyScamContext
  dsimp only
  split
  next confirms => simp [confirms, assessScamContext_spans]
  next not => simp [not]

end Findings

theorem ruleFindings_evidence (norm : Text) (rating : Option ℚ) (matchedRules : List MatchedRule) :
    (ruleFindings norm rating matchedRules).evidence = (lexicalFindings norm).evidence := by
  have rated : ((lexicalFindings norm).applyRating rating).evidence =
      (lexicalFindings norm).evidence := by
    unfold Findings.applyRating
    split
    · rfl
    · split <;> rfl
  rw [← rated]
  unfold ruleFindings
  generalize (lexicalFindings norm).applyRating rating = findings
  induction matchedRules generalizing findings with
  | nil => rfl
  | cons matched rest ih => exact ih (findings.applyBrandRule matched)

theorem mem_foldl_applyBrandRule (matchedRules : List MatchedRule) (findings : Findings)
    (category : RiskCategory) :
    category ∈ (matchedRules.foldl Findings.applyBrandRule findings).categories ↔
      category ∈ findings.categories ∨
        ∃ matched ∈ matchedRules, (ruleCategoryEffect matched.category).1 = some category := by
  induction matchedRules generalizing findings with
  | nil => simp
  | cons matched rest ih =>
    rw [List.foldl_cons, ih, List.exists_mem_cons_iff, ← or_assoc]
    refine or_congr_left ?_
    unfold Findings.applyBrandRule
    dsimp only
    split
    next none => simp [none]
    next added found => simp [found, eq_comm]

theorem mem_classify_findings {database : CharacterDatabase} {input : ClassificationInput}
    (accuses : category ≠ .positive ∧ category ≠ .neutral) :
    category ∈ (classify database input).categories ↔
      category ∈ (ruleFindings (normalize database input.text) input.rating
        (matchBrandRules database (normalize database input.text) input.rules)).categories := by
  unfold classify classifyNormalized
  dsimp only
  rw [OrderedSet.mem_toList]
  split
  next =>
    rw [OrderedSet.mem_add]
    refine or_iff_left ?_
    split
    · exact accuses.1
    · exact accuses.2
  next => exact Iff.rfl

theorem mem_classify_categories {database : CharacterDatabase} {input : ClassificationInput}
    (accuses : category ≠ .positive ∧ category ≠ .neutral) :
    category ∈ (classify database input).categories ↔
      (Fires (normalize database input.text) category ∨
        category = .scam ∧ ContextConfirms (normalize database input.text)) ∨
      (category = .complaint ∧ ∃ rating, input.rating = some rating ∧ rating ≤ 2) ∨
      ∃ matched ∈ matchBrandRules database (normalize database input.text) input.rules,
        (ruleCategoryEffect matched.category).1 = some category := by
  rw [mem_classify_findings accuses, ruleFindings, mem_foldl_applyBrandRule, ← or_assoc,
    ← mem_lexicalFindings]
  refine or_congr_left ?_
  unfold Findings.applyRating
  cases input.rating with
  | none => simp
  | some rating =>
    dsimp only
    split
    next low => simp [low]
    next high => simp [high]

def PointsAtLetter (norm : Text) (span : EvidenceSpan) : Prop :=
  ∃ offset char, span.term[offset]? = some char ∧ norm[span.start + offset]? = some char ∧
    isLowerAlphanumeric char = true

def Matches (norm : Text) (span : EvidenceSpan) : Prop :=
  (∃ row ∈ lexicon, ∃ term ∈ row.terms, Occurs norm term.toList row.isStem span.start ∧
    span = spanAt norm term.toList row.category.value span.start) ∨
  ∃ entry ∈ scamContextLexicon, ∃ term ∈ entry.2, Occurs norm term.toList false span.start ∧
    span = spanAt norm term.toList "scam" span.start

/-- Terms match mask characters, and no word that has a letter. -/
def OnlyMasksMatch (norm : Text) : Prop :=
  ∀ span, Matches norm span → ∀ index, span.start ≤ index → index < span.stop →
    norm[index]? = some '*' ∨ norm[index]? = some ' '

def evidencedCategories : List RiskCategory := [.profanity, .harassment, .hateSpeech, .scam]

structure EvidenceLiteral (database : CharacterDatabase) (input : ClassificationInput) :
    Prop where
  letters : ∀ span ∈ (classify database input).evidence,
    PointsAtLetter (classify database input).analyzedText span
  unaccused : input.rules = [] → OnlyMasksMatch (classify database input).analyzedText →
    ∀ category ∈ evidencedCategories, category ∉ (classify database input).categories

/-- A row of mask characters has the shape of a term: its length, its blanks or masks for them, and
an end that is allowed after it. -/
structure MaskShape (norm term : Text) (stem : Bool) (index : Nat) : Prop where
  starts : isWordChar (charBefore norm index) = false
  masks : ∀ offset < term.length, norm[index + offset]? = some '*' ∨
    term[offset]? = some ' ' ∧ norm[index + offset]? = some ' '
  ends : EndsAllowed norm term stem index

/-- No part of the text has the shape of a term of the lexicon, nor that of a term of the context
where the context confirms a scam. -/
structure NoMaskShape (norm : Text) : Prop where
  lexicon : ∀ row ∈ lexicon, ∀ term ∈ row.terms, ∀ index,
    ¬ MaskShape norm term.toList row.isStem index
  context : ContextConfirms norm → ∀ entry ∈ scamContextLexicon, ∀ term ∈ entry.2, ∀ index,
    ¬ MaskShape norm term.toList false index

section Masks

variable {norm term : Text} {stem : Bool} {index : Nat}

theorem MaskShape.occurs (shape : MaskShape norm term stem index) :
    Occurs norm term stem index where
  starts := shape.starts
  agrees := by
    intro offset below
    rcases shape.masks offset below with mask | ⟨wanted, blank⟩
    · exact .inr mask
    · exact .inl (blank.trans wanted.symm)
  ends := shape.ends

theorem spanAt_term (category : String) : (spanAt norm term category index).term = term := by
  unfold spanAt
  split <;> rfl

theorem termChars (isText : isTermText term = true) :
    ∀ char ∈ term, isLowerAlphanumeric char = true ∨ char = ' ' := by
  intro char member
  have known := List.all_eq_true.mp (Bool.and_eq_true_iff.mp isText).2 char member
  rwa [Bool.or_eq_true, beq_iff_eq] at known

theorem Occurs.pointsAtLetter_iff (occurs : Occurs norm term stem index)
    (isText : isTermText term = true) (category : String) :
    PointsAtLetter norm (spanAt norm term category index) ↔ ¬ MaskShape norm term stem index := by
  unfold PointsAtLetter
  rw [spanAt_start, spanAt_term]
  constructor
  · rintro ⟨offset, char, wanted, found, letter⟩ shape
    obtain ⟨below, _⟩ := List.getElem?_eq_some_iff.mp wanted
    rcases shape.masks offset below with mask | ⟨blank, _⟩
    · rw [found] at mask
      cases mask
      cases letter
    · rw [wanted] at blank
      cases blank
      cases letter
  · intro shapeless
    by_contra none
    refine shapeless ⟨occurs.starts, ?_, occurs.ends⟩
    intro offset below
    rcases occurs.agrees offset below with same | mask
    · have wanted := List.getElem?_eq_getElem below
      rcases termChars isText _ (List.getElem_mem below) with letter | blank
      · exact absurd ⟨offset, _, wanted, same.trans wanted, letter⟩ none
      · rw [blank] at wanted
        exact .inr ⟨wanted, same.trans wanted⟩
    · exact .inl mask

end Masks

theorem classify_evidence (database : CharacterDatabase) (input : ClassificationInput)
    (span : EvidenceSpan) :
    span ∈ (classify database input).evidence ↔ Evidences (normalize database input.text) span := by
  rw [← mem_lexicalFindings_evidence]
  change span ∈ (ruleFindings _ _ _).evidence ↔ _
  rw [ruleFindings_evidence]

theorem pointsAtLetters_iff (norm : Text) :
    (∀ span, Evidences norm span → PointsAtLetter norm span) ↔ NoMaskShape norm := by
  constructor
  · intro letters
    constructor
    · intro row listed term member index shape
      refine (shape.occurs.pointsAtLetter_iff (isTermText_of_lexicon listed member)
        row.category.value).mp (letters _ (.inl ⟨row, listed, term, member, ?_⟩)) shape
      rw [spanAt_start]
      exact ⟨shape.occurs, rfl⟩
    · intro confirms entry listed term member index shape
      refine (shape.occurs.pointsAtLetter_iff (isTermText_of_context listed member)
        "scam").mp (letters _ (.inr ⟨confirms, entry, listed, term, member, ?_⟩)) shape
      rw [spanAt_start]
      exact ⟨shape.occurs, rfl⟩
  · rintro shapeless span (⟨row, listed, term, member, occurs, same⟩ |
      ⟨confirms, entry, listed, term, member, occurs, same⟩)
    · rw [same]
      exact (occurs.pointsAtLetter_iff (isTermText_of_lexicon listed member) _).mpr
        (shapeless.lexicon row listed term member _)
    · rw [same]
      exact (occurs.pointsAtLetter_iff (isTermText_of_context listed member) _).mpr
        (shapeless.context confirms entry listed term member _)

theorem exists_evidence (accused : Fires norm category ∨ category = .scam ∧ ContextConfirms norm) :
    ∃ span, Evidences norm span := by
  rcases accused with ⟨row, listed, _, term, member, index, occurs⟩ | ⟨_, confirms⟩
  · refine ⟨spanAt norm term.toList row.category.value index, .inl ⟨row, listed, term, member, ?_⟩⟩
    rw [spanAt_start]
    exact ⟨occurs, rfl⟩
  · obtain ⟨_, first, _, _, _, ⟨entry, listed, _, term, member, index, occurs⟩, _⟩ := confirms
    refine ⟨spanAt norm term.toList "scam" index,
      .inr ⟨⟨‹_›, first, _, ‹_›, ‹_›, ⟨entry, listed, ‹_›, term, member, index, occurs⟩, ‹_›⟩,
        entry, listed, term, member, ?_⟩⟩
    rw [spanAt_start]
    exact ⟨occurs, rfl⟩

theorem Evidences.matches {span : EvidenceSpan} (evident : Evidences norm span) :
    Matches norm span :=
  evident.imp_right And.right

theorem Matches.inside {span : EvidenceSpan} (matching : Matches norm span) :
    span.start + span.term.length ≤ span.stop := by
  rcases matching with ⟨row, listed, term, member, occurs, same⟩ |
    ⟨entry, listed, term, member, occurs, same⟩
  · have inside := occurs.inside (termChars (isTermText_of_lexicon listed member))
      row.category.value
    rw [same, spanAt_term, spanAt_start]
    exact inside
  · have inside := occurs.inside (termChars (isTermText_of_context listed member)) "scam"
    rw [same, spanAt_term, spanAt_start]
    exact inside

theorem evidencedCategories_accuse (listed : category ∈ evidencedCategories) :
    (category ≠ .positive ∧ category ≠ .neutral) ∧ category ≠ .complaint := by
  revert category
  decide

/-- Evidence points at letters exactly where no row of mask characters looks like a term. -/
theorem evidenceLiteral_iff (database : CharacterDatabase) (input : ClassificationInput) :
    EvidenceLiteral database input ↔ NoMaskShape (normalize database input.text) := by
  have analyzed : (classify database input).analyzedText = normalize database input.text := rfl
  rw [← pointsAtLetters_iff]
  constructor
  · intro literal span evident
    exact literal.letters span ((classify_evidence database input span).mpr evident)
  · intro letters
    constructor
    · intro span member
      exact letters span ((classify_evidence database input span).mp member)
    · intro unruled masks category listed accused
      obtain ⟨accuses, notComplaint⟩ := evidencedCategories_accuse listed
      rw [mem_classify_categories accuses, unruled] at accused
      rcases accused with found | ⟨rated, _⟩ | ⟨matched, member, _⟩
      · obtain ⟨span, evident⟩ := exists_evidence found
        have matching := evident.matches
        obtain ⟨offset, char, wanted, here, letter⟩ := letters span evident
        have below := (List.getElem?_eq_some_iff.mp wanted).1
        have masked := masks span matching _ (Nat.le_add_right _ offset)
          ((Nat.add_lt_add_left below _).trans_le matching.inside)
        rw [analyzed, here] at masked
        rcases masked with mask | blank
        · cases mask
          cases letter
        · cases blank
          cases letter
      · exact notComplaint rated
      · cases member

/-- Four stars are found to be four letters. -/
theorem not_evidenceLiteral : ¬ ∀ database input, EvidenceLiteral database input := by
  intro all
  let input : ClassificationInput := ⟨"****".toList, .facebookPage, none, none, []⟩
  have norm : normalize .ascii input.text = "****".toList := by decide
  have shape : MaskShape "****".toList "kurv".toList false 0 :=
    ⟨rfl, by decide, by unfold EndsAllowed; decide⟩
  have letters := (pointsAtLetters_iff "****".toList).mp fun span evident => by
    rw [← norm] at evident ⊢
    exact (all .ascii input).letters span ((classify_evidence .ascii input span).mpr evident)
  exact letters.lexicon _ List.mem_cons_self "kurv" (by decide) 0 shape

end Tamanor.Ai
