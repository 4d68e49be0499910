import Tamanor.Ai.LexiconProperties
import Tamanor.Ai.NormalForm

/-! Which entries of the lexicon are in reach. Every entry but one is found wherever its words stand
in the text: `vul` is listed with a blank after it, and a normalized text has no blank at its end
and no two in a row. A stem is found when it is masked up to the length of a listed word. -/

set_option autoImplicit false

namespace Tamanor.Ai

open Tamanor.Core Library Library.Text

variable {norm : Text} {database : CharacterDatabase} {input : ClassificationInput}

theorem IsNormal.exists_position (normal : IsNormal norm) {part : List Text}
    (inside : part <:+: words norm) (nonempty : part ≠ []) :
    ∃ front back, norm = front ++ (joinWords part ++ back) ∧
      isWordChar (charBefore norm front.length) = false ∧
      (back = [] ∨ ∃ rest, back = ' ' :: rest) := by
  obtain ⟨before, after, split⟩ := inside
  have printed := normal.joined
  rw [← split, List.append_assoc, joinWords_append, joinWords_append] at printed
  have more : part ++ after ≠ [] := by simp [nonempty]
  refine ⟨joinWords before ++ if before = [] ∨ part ++ after = [] then [] else [' '],
    (if part = [] ∨ after = [] then [] else [' ']) ++ joinWords after, ?_, ?_, ?_⟩
  · rw [← printed]
    simp only [List.append_assoc]
  · by_cases first : before = []
    · simp [first, charBefore, isWordChar]
    · rw [← printed]
      simp [first, more, charBefore, isWordChar, isLowerAlphanumeric]
  · by_cases last : after = []
    · exact .inl (by simp [last])
    · exact .inr ⟨joinWords after, by simp [nonempty, last]⟩

theorem takeWhile_word {word back : Text} (all : ∀ char ∈ word, isWordChar (some char) = true)
    (stops : back = [] ∨ ∃ rest, back = ' ' :: rest) :
    (word ++ back).takeWhile (fun char => isWordChar (some char)) = word := by
  rw [List.takeWhile_append_of_pos all]
  rcases stops with rfl | ⟨rest, rfl⟩
  · rw [List.takeWhile_nil, List.append_nil]
  · rw [List.takeWhile_cons_of_neg (by decide), List.append_nil]

theorem IsNormal.exists_wordAt (normal : IsNormal norm) {word : Text} (member : word ∈ words norm) :
    ∃ index, isWordChar (charBefore norm index) = false ∧ wordAt norm index = word := by
  obtain ⟨before, after, split⟩ := List.append_of_mem member
  have inside : [word] <:+: words norm := ⟨before, after, by rw [split, List.append_assoc]; rfl⟩
  obtain ⟨front, back, printed, starts, stops⟩ :=
    normal.exists_position inside (List.cons_ne_nil _ _)
  rw [joinWords_cons, if_pos rfl] at printed
  refine ⟨front.length, starts, ?_⟩
  unfold wordAt
  conv_lhs => rw [printed]
  rw [List.drop_left]
  refine takeWhile_word ?_ stops
  intro char here
  exact (Bool.and_eq_true_iff.mp (normal.folded word member char here)).1

theorem IsNormal.word_after_blank (normal : IsNormal norm) {index : Nat}
    (blank : norm[index]? = some ' ') : isWordChar norm[index + 1]? = true := by
  have nonempty : ∀ word ∈ words norm, word ≠ [] := fun _ => ne_nil_of_mem_words
  have all := normal.folded
  rw [← normal.joined] at blank ⊢
  generalize words norm = parts at nonempty all blank
  induction parts generalizing index with
  | nil => cases blank
  | cons word rest ih =>
    obtain ⟨solid, others⟩ := List.forall_mem_cons.mp nonempty
    obtain ⟨folded, later⟩ := List.forall_mem_cons.mp all
    have outside : word.length ≤ index := by
      by_contra below
      have inside := Nat.not_le.mp below
      have here : (joinWords (word :: rest))[index]? = some word[index] := by
        rw [joinWords_cons]
        split
        · exact List.getElem?_eq_getElem inside
        · rw [List.getElem?_append_left inside, List.getElem?_eq_getElem inside]
      have letter := folded _ (List.getElem_mem inside)
      rw [here, Option.some.injEq] at blank
      rw [blank] at letter
      cases letter
    rw [joinWords_cons] at blank ⊢
    split
    next last =>
      rw [if_pos last, List.getElem?_eq_none outside] at blank
      cases blank
    next more =>
      rw [if_neg more, List.getElem?_append_right outside] at blank
      rw [List.getElem?_append_right (outside.trans (Nat.le_succ _)), Nat.succ_sub outside,
        List.getElem?_cons_succ]
      cases place : index - word.length with
      | succ place =>
        rw [place, List.getElem?_cons_succ] at blank
        exact ih others later blank
      | zero =>
        obtain ⟨next, rest, rfl⟩ := List.exists_cons_of_ne_nil more
        obtain ⟨letter, tail, rfl⟩ := List.exists_cons_of_ne_nil (others next List.mem_cons_self)
        have first := later _ List.mem_cons_self letter List.mem_cons_self
        have head : (joinWords ((letter :: tail) :: rest))[0]? = some letter := by
          rw [joinWords_cons]
          split <;> rfl
        rw [head]
        exact (Bool.and_eq_true_iff.mp first).1

def fits (word term : Text) (stem : Bool) : Bool :=
  maskedPrefix word term && (suffixesFor stem).contains (word.drop term.length) &&
    !safeWords.contains word

section Terms

variable {norm term : Text} {stem : Bool} {index : Nat}

theorem getElem?_wordAt {offset : Nat} (inside : offset < (wordAt norm index).length) :
    norm[index + offset]? = (wordAt norm index)[offset]? := by
  have front : wordAt norm index <+: norm.drop index := List.takeWhile_prefix _
  rw [← List.getElem?_drop, List.getElem?_eq_getElem inside,
    List.getElem?_eq_getElem (inside.trans_le front.length_le), front.getElem inside]

theorem occurs_of_fits (starts : isWordChar (charBefore norm index) = false) (single : ' ' ∉ term)
    (fit : fits (wordAt norm index) term stem = true) : Occurs norm term stem index := by
  simp only [fits, Bool.and_eq_true, Bool.not_eq_true', List.contains_iff_mem] at fit
  obtain ⟨⟨masked, suffix⟩, safe⟩ := fit
  refine ⟨starts, ?_, ?_⟩
  · intro offset below
    have agree := (maskedPrefix_iff _ _).mp masked offset below
    by_cases inside : offset < (wordAt norm index).length
    · rwa [getElem?_wordAt inside]
    · rw [List.getElem?_eq_none (Nat.not_lt.mp inside), List.getElem?_eq_getElem below] at agree
      rcases agree with missing | missing <;> cases missing
  · rw [EndsAllowed, if_neg single]
    exact ⟨suffix, by simpa using safe⟩

theorem Occurs.agrees_word (occurs : Occurs norm term stem index) {word : Text}
    (here : wordAt norm index = word) : maskedPrefix word (term.take word.length) = true := by
  rw [maskedPrefix_iff]
  intro offset below
  rw [List.length_take, lt_min_iff] at below
  obtain ⟨inside, below⟩ := below
  rw [← here] at inside
  rw [List.getElem?_take_of_lt (here ▸ inside), ← here, ← getElem?_wordAt inside]
  exact occurs.agrees offset below

theorem standsIn_of_words (normal : IsNormal norm) (isText : isTermText term = true)
    (isWord : isWordTerm term = true) (inside : words term <:+: words norm) :
    ∃ index, Occurs norm term stem index := by
  simp only [isWordTerm, Bool.and_eq_true, beq_iff_eq, Bool.not_eq_true'] at isWord
  obtain ⟨same, safe⟩ := isWord
  have nonempty : words term ≠ [] := by
    intro none
    rw [none, joinWords_nil] at same
    exact ne_nil_of_isTermText isText same.symm
  obtain ⟨front, back, printed, starts, stops⟩ := normal.exists_position inside nonempty
  rw [same] at printed
  refine ⟨front.length, starts, ?_, ?_⟩
  · intro offset below
    rw [printed, List.getElem?_append_right (Nat.le_add_right _ _), Nat.add_sub_cancel_left,
      List.getElem?_append_left below]
    exact .inl rfl
  · unfold EndsAllowed
    split
    next =>
      rw [printed, List.getElem?_append_right (Nat.le_add_right _ _), Nat.add_sub_cancel_left,
        List.getElem?_append_right (Nat.le_refl _), Nat.sub_self]
      rcases stops with rfl | ⟨rest, rfl⟩ <;> rfl
    next single =>
      have word : wordAt norm front.length = term := by
        unfold wordAt
        conv_lhs => rw [printed]
        rw [List.drop_left]
        refine takeWhile_word ?_ stops
        intro char member
        rcases termChars isText char member with letter | blank
        · rw [isWordChar, letter, Bool.true_or]
        · exact absurd (blank ▸ member) single
      rw [word, List.drop_length]
      refine ⟨?_, by simpa using safe⟩
      unfold suffixesFor
      split <;> decide

end Terms

def FiresApart (norm : Text) (category : RiskCategory) (word : Text) : Prop :=
  ∃ row ∈ lexicon, row.category = category ∧ ∃ term ∈ row.terms, ∃ index,
    Occurs norm term.toList row.isStem index ∧ wordAt norm index ≠ word

/-- The stems, each with the number of letters that a longer listed word adds to it. -/
def stemEntries : List (String × Nat) := [("jeb", 2), ("pic", 1)]

def maskedStem (stem : String) (count : Nat) : Text := stem.toList ++ List.replicate count '*'

/-- Every entry of the lexicon is found, and every stem that is masked at its end. -/
structure LexiconEffective (database : CharacterDatabase) (input : ClassificationInput) :
    Prop where
  entries : ∀ row ∈ lexicon, ∀ term ∈ row.terms,
    words term.toList <:+: words (normalize database input.text) →
      row.category ∈ (classify database input).categories
  masked : ∀ row ∈ lexicon, row.isStem = true → ∀ term ∈ row.terms, ∀ count, 0 < count →
    maskedStem term count ∈ words (normalize database input.text) →
      row.category ∈ (classify database input).categories

/-- The text has the word `vul`, or a stem masked to a length that no listed word has, only next to
a word that is found. -/
structure DeadEntriesCovered (database : CharacterDatabase) (input : ClassificationInput) :
    Prop where
  vul : "vul".toList ∈ words (normalize database input.text) →
    FiresApart (normalize database input.text) .harassment "vul".toList
  masked : ∀ entry ∈ stemEntries, ∀ count, 0 < count → count ≠ entry.2 →
    maskedStem entry.1 count ∈ words (normalize database input.text) →
      FiresApart (normalize database input.text) .profanity (maskedStem entry.1 count) ∨
        ∃ matched ∈ matchBrandRules database (normalize database input.text) input.rules,
          matched.category = .blockedWords

theorem lexicon_accuses : ∀ row ∈ lexicon, row.category ≠ .positive ∧ row.category ≠ .neutral := by
  decide

theorem lexicon_stems : ∀ row ∈ lexicon, row.isStem = true →
    row.category = .profanity ∧ row.terms = stemEntries.map Prod.fst := by
  decide

theorem lexicon_vul : (∀ row ∈ lexicon, "vul " ∈ row.terms → row.category = .harassment) ∧
    ∃ row ∈ lexicon, "vul " ∈ row.terms := by
  decide

theorem lexicon_like_vul : ∀ row ∈ lexicon, row.category = .harassment → ∀ term ∈ row.terms,
    maskedPrefix "vul".toList (term.toList.take 3) = true → term = "vul " := by
  decide

theorem lexicon_like_stems : ∀ row ∈ lexicon, row.category = .profanity → ∀ term ∈ row.terms,
    ∀ entry ∈ stemEntries, maskedPrefix entry.1.toList (term.toList.take 3) = true →
      ' ' ∉ term.toList ∧ (term.toList.length = 3 ∨ term.toList.length = 3 + entry.2) := by
  decide

theorem length_of_mem_stemEntries : ∀ entry ∈ stemEntries, entry.1.toList.length = 3 := by
  decide

theorem lexicon_masked : ∀ entry ∈ stemEntries, ∃ row ∈ lexicon, row.category = .profanity ∧
    ∃ term ∈ row.terms, ' ' ∉ term.toList ∧
      fits (maskedStem entry.1 entry.2) term.toList row.isStem = true := by
  decide

theorem mask_not_mem_suffixes (stem : Bool) : ∀ suffix ∈ suffixesFor stem, '*' ∉ suffix := by
  cases stem <;> decide

section Reach

variable {norm : Text}

theorem FiresApart.fires {category : RiskCategory} {word : Text}
    (apart : FiresApart norm category word) : Fires norm category := by
  obtain ⟨row, listed, same, term, member, index, occurs, _⟩ := apart
  exact ⟨row, listed, same, term, member, index, occurs⟩

theorem firesApart_of {category : RiskCategory} {word : Text}
    (never : ∀ row ∈ lexicon, row.category = category → ∀ term ∈ row.terms, ∀ index,
      Occurs norm term.toList row.isStem index → wordAt norm index ≠ word)
    (fires : Fires norm category) : FiresApart norm category word := by
  obtain ⟨row, listed, same, term, member, index, occurs⟩ := fires
  exact ⟨row, listed, same, term, member, index, occurs,
    never row listed same term member index occurs⟩

/-- The blank after `vul` would need one more. -/
theorem not_occurs_vul (normal : IsNormal norm) {row : LexiconRow} (listed : row ∈ lexicon)
    (harasses : row.category = .harassment) {term : String} (member : term ∈ row.terms)
    {index : Nat} (occurs : Occurs norm term.toList row.isStem index) :
    wordAt norm index ≠ "vul".toList := by
  intro here
  have only := lexicon_like_vul row listed harasses term member (occurs.agrees_word here)
  subst only
  have after := isWordChar_after_wordAt norm index
  rw [here] at after
  have blank : norm[index + 3]? = some ' ' := by
    rcases occurs.agrees 3 (by decide) with same | mask
    · exact same
    · change isWordChar norm[index + 3]? = false at after
      rw [mask] at after
      cases after
  have ends := occurs.ends
  rw [EndsAllowed, if_pos (by decide)] at ends
  have next := normal.word_after_blank blank
  change isWordChar norm[index + 3 + 1]? = false at ends
  rw [next] at ends
  cases ends

theorem not_occurs_maskedStem {entry : String × Nat} (known : entry ∈ stemEntries) {count : Nat}
    (positive : 0 < count) (other : count ≠ entry.2) {row : LexiconRow} (listed : row ∈ lexicon)
    (profane : row.category = .profanity) {term : String} (member : term ∈ row.terms)
    {index : Nat} (occurs : Occurs norm term.toList row.isStem index) :
    wordAt norm index ≠ maskedStem entry.1 count := by
  intro here
  have three := length_of_mem_stemEntries entry known
  have agree : maskedPrefix entry.1.toList (term.toList.take 3) = true := by
    have whole := (maskedPrefix_iff _ _).mp (occurs.agrees_word here)
    rw [maskedPrefix_iff]
    intro offset below
    rw [List.length_take, lt_min_iff] at below
    have longer : (maskedStem entry.1 count).length = 3 + count := by
      rw [maskedStem, List.length_append, List.length_replicate, three]
    have front : (maskedStem entry.1 count)[offset]? = entry.1.toList[offset]? :=
      List.getElem?_append_left (three.symm ▸ below.1)
    have found := whole offset (by rw [List.length_take, longer]; omega)
    rw [front, List.getElem?_take_of_lt (by omega)] at found
    rwa [List.getElem?_take_of_lt below.1]
  obtain ⟨single, lengths⟩ := lexicon_like_stems row listed profane term member entry known agree
  have fitting := occurs.length_le (termChars (isTermText_of_lexicon listed member)) single
  have ends := occurs.ends
  rw [EndsAllowed, if_neg single, here] at ends
  rw [here, maskedStem, List.length_append, List.length_replicate, three] at fitting
  have rest : (maskedStem entry.1 count).drop term.toList.length =
      List.replicate (3 + count - term.toList.length) '*' := by
    rw [maskedStem, List.drop_append, List.drop_eq_nil_of_le (by omega), List.nil_append,
      List.drop_replicate, three]
    congr 1
    omega
  have mask := mask_not_mem_suffixes row.isStem _ ends.1
  rw [rest, List.mem_replicate] at mask
  push Not at mask
  exact mask (by omega) rfl

theorem fires_maskedStem (normal : IsNormal norm) {entry : String × Nat}
    (known : entry ∈ stemEntries) (member : maskedStem entry.1 entry.2 ∈ words norm) :
    Fires norm .profanity := by
  obtain ⟨index, starts, here⟩ := normal.exists_wordAt member
  obtain ⟨row, listed, same, term, inTerms, single, fit⟩ := lexicon_masked entry known
  rw [← here] at fit
  exact ⟨row, listed, same, term, inTerms, index, occurs_of_fits starts single fit⟩

end Reach

theorem brandRule_category {matched : RuleCategory} {category : RiskCategory}
    (row : ∃ row ∈ lexicon, row.category = category) :
    (ruleCategoryEffect matched).1 = some category ↔
      category = .profanity ∧ matched = .blockedWords := by
  obtain ⟨row, listed, rfl⟩ := row
  revert row
  cases matched <;> decide

theorem mem_classify_of_lexicon {category : RiskCategory}
    (known : category = .harassment ∨ category = .profanity) :
    category ∈ (classify database input).categories ↔
      Fires (normalize database input.text) category ∨ category = .profanity ∧
        ∃ matched ∈ matchBrandRules database (normalize database input.text) input.rules,
          matched.category = .blockedWords := by
  have accuses : category ≠ .positive ∧ category ≠ .neutral := by
    rcases known with rfl | rfl <;> decide
  have row : ∃ row ∈ lexicon, row.category = category := by
    rcases known with rfl | rfl <;> decide
  have other : category ≠ .scam ∧ category ≠ .complaint := by
    rcases known with rfl | rfl <;> decide
  rw [mem_classify_categories accuses]
  simp only [other.1, other.2, false_and, or_false, false_or, brandRule_category row]
  refine or_congr_right ?_
  constructor
  · rintro ⟨matched, member, same, blocked⟩
    exact ⟨same, matched, member, blocked⟩
  · rintro ⟨same, matched, member, blocked⟩
    exact ⟨matched, member, same, blocked⟩

theorem covered_of_effective (effective : LexiconEffective database input) :
    DeadEntriesCovered database input := by
  have normal : IsNormal (normalize database input.text) := isNormal_normalize input.text
  constructor
  · intro member
    obtain ⟨row, listed, inTerms⟩ := lexicon_vul.2
    have harasses := lexicon_vul.1 row listed inTerms
    have inside : words "vul ".toList <:+: words (normalize database input.text) := by
      obtain ⟨before, after, split⟩ := List.append_of_mem member
      exact ⟨before, after, by rw [split, List.append_assoc]; rfl⟩
    have found := effective.entries row listed "vul " inTerms inside
    rw [harasses, mem_classify_of_lexicon (.inl rfl)] at found
    rcases found with fires | ⟨profane, _⟩
    · refine firesApart_of ?_ fires
      intro row listed harasses term member index occurs
      exact not_occurs_vul normal listed harasses member occurs
    · cases profane
  · intro entry known count positive other member
    obtain ⟨row, listed, stem⟩ : ∃ row ∈ lexicon, row.isStem = true := by decide
    obtain ⟨profane, terms⟩ := lexicon_stems row listed stem
    have inTerms : entry.1 ∈ row.terms := by
      rw [terms]
      exact List.mem_map_of_mem known
    have found := effective.masked row listed stem entry.1 inTerms count positive member
    rw [profane, mem_classify_of_lexicon (.inr rfl)] at found
    rcases found with fires | ⟨_, blocked⟩
    · refine .inl (firesApart_of ?_ fires)
      intro row listed profane term member index occurs
      exact not_occurs_maskedStem known positive other listed profane member occurs
    · exact .inr blocked

theorem effective_of_covered (covered : DeadEntriesCovered database input) :
    LexiconEffective database input := by
  have normal : IsNormal (normalize database input.text) := isNormal_normalize input.text
  constructor
  · intro row listed term inTerms inside
    by_cases dead : term = "vul "
    · subst dead
      have harasses := lexicon_vul.1 row listed inTerms
      have member : "vul".toList ∈ words (normalize database input.text) :=
        inside.subset (by decide)
      rw [harasses, mem_classify_of_lexicon (.inl rfl)]
      exact .inl (covered.vul member).fires
    · have facts :=
        List.all_eq_true.mp (List.all_eq_true.mp lexicon_terms.1 row listed) term inTerms
      simp only [Bool.and_eq_true, Bool.or_eq_true, beq_iff_eq, dead, false_or] at facts
      refine (mem_classify_categories (lexicon_accuses row listed)).mpr (.inl (.inl ?_))
      exact ⟨row, listed, rfl, term, inTerms, standsIn_of_words normal facts.1 facts.2 inside⟩
  · intro row listed stem term inTerms count positive member
    obtain ⟨profane, terms⟩ := lexicon_stems row listed stem
    rw [terms, List.mem_map] at inTerms
    obtain ⟨entry, known, rfl⟩ := inTerms
    rw [profane, mem_classify_of_lexicon (.inr rfl)]
    by_cases full : count = entry.2
    · rw [full] at member
      exact .inl (fires_maskedStem normal known member)
    · rcases covered.masked entry known count positive full member with apart | blocked
      · exact .inl apart.fires
      · exact .inr ⟨rfl, blocked⟩

/-- The lexicon is effective on a text exactly where another term stands in for its dead entries. -/
theorem lexiconEffective_iff (database : CharacterDatabase) (input : ClassificationInput) :
    LexiconEffective database input ↔ DeadEntriesCovered database input :=
  ⟨covered_of_effective, effective_of_covered⟩

/-- The word `vul` is no harassment. -/
theorem not_lexiconEffective : ¬ ∀ database input, LexiconEffective database input := by
  intro all
  have vul := (all .ascii ⟨"vul".toList, .youTube, none, none, []⟩).entries
  have member := vul _ (List.mem_cons_of_mem _ (List.mem_cons_of_mem _ List.mem_cons_self)) "vul "
    (by decide) ⟨[], [], by decide⟩
  revert member
  decide +kernel

end Tamanor.Ai
