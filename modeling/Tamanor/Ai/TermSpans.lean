import Tamanor.Ai.Evidence

/-! What `findTermSpans` finds, said without its loop: a term stands at a position if it starts a
word there, agrees with the text up to mask characters, and ends as its kind has to. -/

set_option autoImplicit false

namespace Tamanor.Ai

open Tamanor.Core Library Library.Text

/-- The characters of a term, which neither starts nor ends with a blank. -/
structure IsTerm (term : Text) : Prop where
  nonempty : term ≠ []
  chars : ∀ char ∈ term, isLowerAlphanumeric char = true ∨ char = ' '
  first : term.head? ≠ some ' '
  last : term.getLast? ≠ some ' '

def wordAt (text : Text) (index : Nat) : Text :=
  (text.drop index).takeWhile fun char => isWordChar (some char)

def suffixesFor (stem : Bool) : List Text := if stem then stemSuffixes else termSuffixes

/-- A phrase ends a word; a single word goes on with an inflection, and is not known as safe. -/
def EndsAllowed (text term : Text) (stem : Bool) (index : Nat) : Prop :=
  if ' ' ∈ term then isWordChar text[index + term.length]? = false
  else (wordAt text index).drop term.length ∈ suffixesFor stem ∧ wordAt text index ∉ safeWords

structure Occurs (text term : Text) (stem : Bool) (index : Nat) : Prop where
  starts : isWordChar (charBefore text index) = false
  agrees : ∀ offset < term.length,
    text[index + offset]? = term[offset]? ∨ text[index + offset]? = some '*'
  ends : EndsAllowed text term stem index

def spanAt (text term : Text) (category : String) (index : Nat) : EvidenceSpan :=
  if ' ' ∈ term then
    { category, term, start := index, stop := index + term.length
      text := slice text index (index + term.length) }
  else
    { category, term, start := index, stop := index + (wordAt text index).length
      text := wordAt text index }

/-- The span begins and ends with a word character, and no word goes on outside of it. -/
structure CoversWords (text : Text) (span : EvidenceSpan) : Prop where
  starts : isWordChar (charBefore text span.start) = false
  first : isWordChar text[span.start]? = true
  last : isWordChar text[span.stop - 1]? = true
  stops : isWordChar text[span.stop]? = false

structure ExactSpans (text term : Text) (category : String) (stem : Bool)
    (spans : List EvidenceSpan) : Prop where
  positions : ∀ index, (∃ span ∈ spans, span.start = index) ↔ Occurs text term stem index
  whole : ∀ span ∈ spans, span = spanAt text term category span.start
  increasing : spans.Pairwise fun first second => first.start < second.start
  valid : ∀ span ∈ spans, validateEvidenceSpan text (some span) = true
  words : ∀ span ∈ spans, CoversWords text span
  apart : ' ' ∉ term → spans.Pairwise fun first second => first.stop ≤ second.start

theorem maskedPrefix_iff (text term : Text) :
    maskedPrefix text term = true ↔
      ∀ offset < term.length, text[offset]? = term[offset]? ∨ text[offset]? = some '*' := by
  induction term generalizing text with
  | nil => simp [maskedPrefix]
  | cons wanted term ih =>
    cases text with
    | nil =>
      simp only [maskedPrefix, Bool.false_eq_true, false_iff, not_forall]
      exact ⟨0, by simp⟩
    | cons char text =>
      rw [maskedPrefix, Bool.and_eq_true, ih]
      constructor
      · rintro ⟨here, there⟩ offset below
        cases offset with
        | zero => simpa using here
        | succ offset => simpa using there offset (by simpa using below)
      · intro all
        refine ⟨by simpa using all 0 (by simp), ?_⟩
        intro offset below
        simpa using all (offset + 1) (by simpa using below)

theorem tokenMatchesAt_iff (text term : Text) (index : Nat) :
    tokenMatchesAt text term index = true ↔ ∀ offset < term.length,
      text[index + offset]? = term[offset]? ∨ text[index + offset]? = some '*' := by
  rw [tokenMatchesAt, maskedPrefix_iff]
  simp only [List.getElem?_drop]

theorem termSpanAt_eq_some_iff {text term : Text} {category : String} {stem : Bool} {index : Nat}
    {span : EvidenceSpan} :
    termSpanAt text term category stem index = some span ↔
      Occurs text term stem index ∧ span = spanAt text term category index := by
  have suffixes : (if stem then stemSuffixes else termSuffixes) = suffixesFor stem := rfl
  have word : (text.drop index).takeWhile (fun char => isWordChar (some char)) =
    wordAt text index := rfl
  constructor
  · intro found
    unfold termSpanAt at found
    rw [suffixes, word] at found
    dsimp only at found
    split_ifs at found with matched boundary blank after suffix safe
    · have inTerm : ' ' ∈ term := List.contains_iff_mem.mp blank
      refine ⟨⟨by simpa using boundary, (tokenMatchesAt_iff ..).mp (by simpa using matched), ?_⟩,
        ?_⟩
      · rw [EndsAllowed, if_pos inTerm]
        simpa using after
      · rw [spanAt, if_pos inTerm]
        exact (Option.some.inj found).symm
    · have inTerm : ' ' ∉ term := fun member => blank (List.contains_iff_mem.mpr member)
      refine ⟨⟨by simpa using boundary, (tokenMatchesAt_iff ..).mp (by simpa using matched), ?_⟩,
        ?_⟩
      · rw [EndsAllowed, if_neg inTerm]
        exact ⟨by simpa using suffix, by simpa using safe⟩
      · rw [spanAt, if_neg inTerm]
        exact (Option.some.inj found).symm
  · rintro ⟨⟨boundary, matched, ends⟩, rfl⟩
    have matched := (tokenMatchesAt_iff text term index).mpr matched
    unfold termSpanAt
    rw [suffixes, word, matched, boundary]
    by_cases blank : ' ' ∈ term
    · rw [EndsAllowed, if_pos blank] at ends
      simp [blank, ends, spanAt]
    · rw [EndsAllowed, if_neg blank] at ends
      simp [blank, ends, spanAt]

theorem isWordChar_wordAt {text : Text} {index offset : Nat}
    (inside : offset < (wordAt text index).length) : isWordChar text[index + offset]? = true := by
  have front : wordAt text index <+: text.drop index := List.takeWhile_prefix _
  have here := front.getElem inside
  rw [← List.getElem?_drop, List.getElem?_eq_getElem (inside.trans_le front.length_le), ← here]
  exact List.mem_takeWhile_imp (p := fun char => isWordChar (some char)) (List.getElem_mem inside)

theorem le_length_wordAt {text : Text} {index count : Nat}
    (all : ∀ offset < count, isWordChar text[index + offset]? = true) :
    count ≤ (wordAt text index).length := by
  simp only [← List.getElem?_drop] at all
  unfold wordAt
  generalize text.drop index = rest at all ⊢
  induction rest generalizing count with
  | nil =>
    cases count with
    | zero => exact Nat.le_refl _
    | succ count =>
      have missing := all 0 (Nat.zero_lt_succ _)
      cases missing
  | cons char rest ih =>
    cases count with
    | zero => exact Nat.zero_le _
    | succ count =>
      have here : isWordChar (some char) = true := all 0 (Nat.zero_lt_succ _)
      rw [List.takeWhile_cons, if_pos here, List.length_cons]
      refine Nat.succ_le_succ (ih ?_)
      intro offset below
      exact all (offset + 1) (Nat.succ_lt_succ below)

theorem isWordChar_after_wordAt (text : Text) (index : Nat) :
    isWordChar text[index + (wordAt text index).length]? = false := by
  by_contra goesOn
  have more : (wordAt text index).length + 1 ≤ (wordAt text index).length := by
    refine le_length_wordAt ?_
    intro offset below
    rcases Nat.lt_succ_iff_lt_or_eq.mp below with inside | rfl
    · exact isWordChar_wordAt inside
    · simpa using goesOn
  omega

theorem slice_wordAt (text : Text) (index : Nat) :
    slice text index (index + (wordAt text index).length) = wordAt text index := by
  have front : wordAt text index <+: text.drop index := List.takeWhile_prefix _
  rw [slice, List.drop_take, Nat.add_sub_cancel_left]
  exact (List.prefix_iff_eq_take.mp front).symm

section Occurrence

variable {text term : Text} {stem : Bool} {index : Nat}

theorem Occurs.exists_char (occurs : Occurs text term stem index) {offset : Nat}
    (below : offset < term.length) :
    ∃ char, text[index + offset]? = some char ∧ (char = term[offset] ∨ char = '*') := by
  rcases occurs.agrees offset below with same | mask
  · rw [List.getElem?_eq_getElem below] at same
    exact ⟨_, same, .inl rfl⟩
  · exact ⟨_, mask, .inr rfl⟩

theorem Occurs.fits (occurs : Occurs text term stem index) (nonempty : term ≠ []) :
    index + term.length ≤ text.length := by
  have positive : 0 < term.length := List.length_pos_iff.mpr nonempty
  obtain ⟨char, found, _⟩ := occurs.exists_char (Nat.sub_lt positive Nat.one_pos)
  have inside := (List.getElem?_eq_some_iff.mp found).1
  omega

theorem Occurs.isWordChar (occurs : Occurs text term stem index)
    (chars : ∀ char ∈ term, isLowerAlphanumeric char = true ∨ char = ' ') {offset : Nat}
    (below : offset < term.length) (solid : term[offset] ≠ ' ') :
    isWordChar text[index + offset]? = true := by
  obtain ⟨char, found, same | mask⟩ := occurs.exists_char below
  · rw [found, Ai.isWordChar, same, Bool.or_eq_true]
    exact .inl ((chars _ (List.getElem_mem below)).resolve_right solid)
  · rw [found, mask]
    rfl

theorem Occurs.length_le (occurs : Occurs text term stem index)
    (chars : ∀ char ∈ term, isLowerAlphanumeric char = true ∨ char = ' ') (single : ' ' ∉ term) :
    term.length ≤ (wordAt text index).length := by
  refine le_length_wordAt ?_
  intro offset below
  refine occurs.isWordChar chars below ?_
  intro blank
  exact single (blank ▸ List.getElem_mem below)

theorem Occurs.inside (occurs : Occurs text term stem index)
    (chars : ∀ char ∈ term, isLowerAlphanumeric char = true ∨ char = ' ') (category : String) :
    index + term.length ≤ (spanAt text term category index).stop := by
  unfold spanAt
  split
  · exact Nat.le_refl _
  next single => exact Nat.add_le_add_left (occurs.length_le chars single) _

theorem IsTerm.first_ne (isTerm : IsTerm term) (positive : 0 < term.length) : term[0] ≠ ' ' := by
  intro blank
  apply isTerm.first
  rw [List.head?_eq_getElem?, List.getElem?_eq_getElem positive, blank]

theorem IsTerm.last_ne (isTerm : IsTerm term) (below : term.length - 1 < term.length) :
    term[term.length - 1] ≠ ' ' := by
  intro blank
  apply isTerm.last
  rw [List.getLast?_eq_getElem?, List.getElem?_eq_getElem below, blank]

theorem Occurs.coversWords (occurs : Occurs text term stem index) (isTerm : IsTerm term)
    (category : String) : CoversWords text (spanAt text term category index) := by
  have positive : 0 < term.length := List.length_pos_iff.mpr isTerm.nonempty
  have first : Ai.isWordChar text[index]? = true :=
    occurs.isWordChar isTerm.chars positive (isTerm.first_ne positive)
  by_cases blank : ' ' ∈ term
  · have ends := occurs.ends
    rw [EndsAllowed, if_pos blank] at ends
    have below : term.length - 1 < term.length := Nat.sub_lt positive Nat.one_pos
    have last := occurs.isWordChar isTerm.chars below (isTerm.last_ne below)
    rw [spanAt, if_pos blank]
    refine ⟨occurs.starts, first, ?_, ends⟩
    rw [← Nat.add_sub_assoc positive] at last
    exact last
  · have longer := occurs.length_le isTerm.chars blank
    rw [spanAt, if_neg blank]
    refine ⟨occurs.starts, first, ?_, isWordChar_after_wordAt text index⟩
    have within : (wordAt text index).length - 1 < (wordAt text index).length := by omega
    have last := isWordChar_wordAt within
    rw [← Nat.add_sub_assoc (by omega)] at last
    exact last

theorem spanAt_start (category : String) : (spanAt text term category index).start = index := by
  unfold spanAt
  split <;> rfl

variable (text term index) in
theorem spanAt_slice (category : String) :
    slice text (spanAt text term category index).start (spanAt text term category index).stop =
      (spanAt text term category index).text := by
  unfold spanAt
  split
  · rfl
  · exact slice_wordAt text index

theorem Occurs.start_lt_stop (occurs : Occurs text term stem index) (isTerm : IsTerm term)
    (category : String) :
    (spanAt text term category index).start < (spanAt text term category index).stop := by
  have positive : 0 < term.length := List.length_pos_iff.mpr isTerm.nonempty
  rw [spanAt_start]
  exact (Nat.lt_add_of_pos_right positive).trans_le (occurs.inside isTerm.chars category)

theorem Occurs.valid (occurs : Occurs text term stem index) (isTerm : IsTerm term)
    {category : String} (named : category ≠ "") :
    validateEvidenceSpan text (some (spanAt text term category index)) = true := by
  have covers := occurs.coversWords isTerm category
  have slices := spanAt_slice text term index category
  have before := occurs.start_lt_stop isTerm category
  have labelled : (spanAt text term category index).category = category := by
    unfold spanAt
    split <;> rfl
  generalize spanAt text term category index = span at covers slices before labelled
  have inside : span.stop ≤ text.length := by
    have last := covers.last
    cases found : text[span.stop - 1]? with
    | none =>
      rw [found] at last
      cases last
    | some char =>
      have below := (List.getElem?_eq_some_iff.mp found).1
      omega
  have letters : span.text ≠ [] := by
    rw [← slices, ← List.length_pos_iff, slice, List.length_drop, List.length_take]
    omega
  simp [validateEvidenceSpan, inside, before, letters, slices, labelled, named]

end Occurrence

section Found

variable {text term : Text} {category : String} {stem : Bool}

theorem mem_findTermSpans (nonempty : term ≠ []) {span : EvidenceSpan} :
    span ∈ findTermSpans text term category stem ↔
      Occurs text term stem span.start ∧ span = spanAt text term category span.start := by
  have loop : span ∈ findTermSpans text term category stem ↔
      ∃ index, Occurs text term stem index ∧ span = spanAt text term category index := by
    unfold findTermSpans
    split
    next missing =>
      simp only [List.not_mem_nil, false_iff, not_exists, not_and]
      intro index occurs
      have fits := occurs.fits nonempty
      have positive : 0 < term.length := List.length_pos_iff.mpr nonempty
      simp only [Bool.or_eq_true, List.isEmpty_iff] at missing
      rcases missing with missing | missing
      · exact absurd missing nonempty
      · rw [missing, List.length_nil] at fits
        omega
    next =>
      simp only [List.mem_filterMap, List.mem_range, termSpanAt_eq_some_iff]
      constructor
      · rintro ⟨index, _, found⟩
        exact ⟨index, found⟩
      · rintro ⟨index, occurs, same⟩
        have fits := occurs.fits nonempty
        exact ⟨index, by omega, occurs, same⟩
  rw [loop]
  constructor
  · rintro ⟨index, occurs, rfl⟩
    rw [spanAt_start]
    exact ⟨occurs, rfl⟩
  · rintro ⟨occurs, same⟩
    exact ⟨span.start, occurs, same⟩

theorem findTermSpans_increasing :
    (findTermSpans text term category stem).Pairwise fun first second =>
      first.start < second.start := by
  unfold findTermSpans
  split
  · exact .nil
  · refine List.Pairwise.filterMap _ ?_ List.pairwise_lt_range
    intro first second less one found two other
    rw [(termSpanAt_eq_some_iff.mp found).2, (termSpanAt_eq_some_iff.mp other).2, spanAt_start,
      spanAt_start]
    exact less

theorem wordAt_apart {first second : Nat} (less : first < second)
    (starts : isWordChar (charBefore text second) = false) :
    first + (wordAt text first).length ≤ second := by
  by_contra inside
  obtain ⟨before, rfl⟩ : ∃ before, second = before + 1 := ⟨second - 1, by omega⟩
  have within : before - first < (wordAt text first).length := by omega
  have goesOn := isWordChar_wordAt within
  rw [Nat.add_sub_cancel' (by omega)] at goesOn
  rw [charBefore, goesOn] at starts
  cases starts

theorem findTermSpans_exact (isTerm : IsTerm term) (named : category ≠ "") :
    ExactSpans text term category stem (findTermSpans text term category stem) where
  positions := by
    intro index
    constructor
    · rintro ⟨span, member, rfl⟩
      exact ((mem_findTermSpans isTerm.nonempty).mp member).1
    · intro occurs
      refine ⟨spanAt text term category index, ?_, spanAt_start category⟩
      rw [mem_findTermSpans isTerm.nonempty, spanAt_start]
      exact ⟨occurs, rfl⟩
  whole := by
    intro span member
    exact ((mem_findTermSpans isTerm.nonempty).mp member).2
  increasing := findTermSpans_increasing
  valid := by
    intro span member
    obtain ⟨occurs, same⟩ := (mem_findTermSpans isTerm.nonempty).mp member
    rw [same]
    exact occurs.valid isTerm named
  words := by
    intro span member
    obtain ⟨occurs, same⟩ := (mem_findTermSpans isTerm.nonempty).mp member
    rw [same]
    exact occurs.coversWords isTerm category
  apart := by
    intro single
    refine findTermSpans_increasing.imp_of_mem ?_
    intro first second firstMember secondMember less
    obtain ⟨_, firstSame⟩ := (mem_findTermSpans isTerm.nonempty).mp firstMember
    obtain ⟨occurs, _⟩ := (mem_findTermSpans isTerm.nonempty).mp secondMember
    have stop : first.stop = first.start + (wordAt text first.start).length := by
      rw [firstSame, spanAt, if_neg single]
    rw [stop]
    exact wordAt_apart less occurs.starts

/-- The masked insult is found as a whole word, and not in the middle of another one. -/
theorem findTermSpans_exact_masked :
    ExactSpans "p*ca epica".toList "pica".toList "profanity" false
      (findTermSpans "p*ca epica".toList "pica".toList "profanity" false) := by
  have chars : ("pica".toList.all fun char => isLowerAlphanumeric char || char == ' ') = true := by
    decide
  refine findTermSpans_exact ⟨by decide, ?_, by decide, by decide⟩ (by decide)
  intro char member
  simpa using List.all_eq_true.mp chars char member

end Found

end Tamanor.Ai
