import Mathlib.Data.List.DropRight
import Mathlib.Data.List.Infix

/-! Texts as lists of Unicode scalar values, with the ECMAScript notion of white
space. A text is compared through its words wherever the amount of white space
between them does not matter. -/

set_option autoImplicit false

namespace Tamanor.Library

abbrev Text := List Char

namespace Text

/-- The code points matched by `\s` and removed by `trim`: the ECMAScript
`WhiteSpace` and `LineTerminator` productions. -/
def isSpace (char : Char) : Bool :=
  char.toNat ∈ [0x09, 0x0A, 0x0B, 0x0C, 0x0D, 0x20, 0xA0, 0x1680, 0x2028, 0x2029,
    0x202F, 0x205F, 0x3000, 0xFEFF] ||
    (0x2000 ≤ char.toNat && char.toNat ≤ 0x200A)

def trimStart (text : Text) : Text := text.dropWhile isSpace

def trimEnd (text : Text) : Text := text.rdropWhile isSpace

/-- `String.prototype.trim`. -/
def trim (text : Text) : Text := trimEnd (trimStart text)

/-- Drop every space that follows another one, printing each kept run as a
single blank. `afterSpace` records whether the previous character was a space. -/
def collapseFrom : Bool → Text → Text
  | _, [] => []
  | afterSpace, char :: rest =>
    if isSpace char then
      if afterSpace then collapseFrom true rest else ' ' :: collapseFrom true rest
    else char :: collapseFrom false rest

/-- `text.replace(/\s+/g, " ")`. -/
def collapseSpaces (text : Text) : Text := collapseFrom false text

/-- `text.slice(start, stop)` for offsets that are not negative. -/
def slice (text : Text) (start stop : Nat) : Text := (text.take stop).drop start

/-- `text.includes(part)`. -/
def includes (text part : Text) : Bool := decide (part <:+: text)

def codeUnits (text : Text) : List Nat :=
  text.flatMap fun char =>
    if char.toNat < 0x10000 then [char.toNat]
    else [0xD800 + (char.toNat - 0x10000) / 0x400, 0xDC00 + (char.toNat - 0x10000) % 0x400]

theorem codeUnits_cons (char : Char) (text : Text) :
    codeUnits (char :: text) =
      (if char.toNat < 0x10000 then [char.toNat]
        else [0xD800 + (char.toNat - 0x10000) / 0x400, 0xDC00 + (char.toNat - 0x10000) % 0x400]) ++
      codeUnits text := rfl

theorem codeUnits_injective : Function.Injective codeUnits := by
  intro first second same
  induction first generalizing second with
  | nil =>
    cases second with
    | nil => rfl
    | cons char rest =>
      rw [codeUnits_cons] at same
      split at same <;> cases same
  | cons char rest ih =>
    cases second with
    | nil =>
      rw [codeUnits_cons] at same
      split at same <;> cases same
    | cons other others =>
      have valid : char.toNat < 0xD800 ∨ 0xDFFF < char.toNat ∧ char.toNat < 0x110000 := char.valid
      have otherValid : other.toNat < 0xD800 ∨ 0xDFFF < other.toNat ∧ other.toNat < 0x110000 :=
        other.valid
      rw [codeUnits_cons, codeUnits_cons] at same
      have sameChar : char.toNat = other.toNat ∧ codeUnits rest = codeUnits others := by
        split at same <;> split at same <;>
          simp only [List.cons_append, List.nil_append, List.cons.injEq] at same
        · exact same
        · omega
        · omega
        · exact ⟨by omega, same.2.2⟩
      rw [Char.toNat_inj.mp sameChar.1, ih sameChar.2]

def words (text : Text) : List Text := (text.splitOnP isSpace).filter (· ≠ [])

@[simp] theorem words_nil : words [] = [] := by
  simp [words]

variable {space : Char} {text word : Text}

theorem words_append_cons (left right : Text) (isSpace : isSpace space = true) :
    words (left ++ space :: right) = words left ++ words right := by
  simp [words, List.splitOnP_append_cons left right isSpace]

theorem words_cons_space (text : Text) (isSpace : isSpace space = true) :
    words (space :: text) = words text := by
  simpa using words_append_cons [] text isSpace

theorem words_append_space (text : Text) (isSpace : isSpace space = true) :
    words (text ++ [space]) = words text := by
  simpa using words_append_cons text [] isSpace

theorem words_of_no_space (clean : ∀ char ∈ text, isSpace char = false) :
    words text = if text = [] then [] else [text] := by
  by_cases empty : text = []
  · simp [empty]
  · simp [words, List.splitOnP_eq_singleton clean, empty]

/-- Every text is one run without white space, or such a run followed by a
space and a remaining text. -/
theorem exists_word_split (text : Text) :
    (∀ char ∈ text, isSpace char = false) ∨
      ∃ word space rest, text = word ++ space :: rest ∧
        (∀ char ∈ word, isSpace char = false) ∧ isSpace space = true := by
  induction text with
  | nil => exact .inl (by simp)
  | cons char text ih =>
    cases space : isSpace char with
    | true => exact .inr ⟨[], char, text, rfl, by simp, space⟩
    | false =>
      rcases ih with clean | ⟨word, first, rest, rfl, clean, isSpace⟩
      · exact .inl (by simpa [space] using clean)
      · exact .inr ⟨char :: word, first, rest, rfl, by simpa [space] using clean, isSpace⟩

/-- Induction that peels one word, with the space after it, at a time. -/
theorem word_induction {motive : Text → Prop}
    (clean : ∀ text : Text, (∀ char ∈ text, isSpace char = false) → motive text)
    (split : ∀ (word : Text) (space : Char) (rest : Text),
      (∀ char ∈ word, isSpace char = false) → isSpace space = true → motive rest →
      motive (word ++ space :: rest))
    (text : Text) : motive text := by
  induction size : text.length using Nat.strongRecOn generalizing text with
  | ind size ih =>
    rcases exists_word_split text with noSpace | ⟨word, space, rest, rfl, noSpace, isSpace⟩
    · exact clean text noSpace
    · refine split word space rest noSpace isSpace (ih rest.length ?_ rest rfl)
      simp only [← size, List.length_append, List.length_cons]
      omega

theorem words_spaces_append {spaces : Text} (text : Text)
    (all : ∀ char ∈ spaces, isSpace char = true) : words (spaces ++ text) = words text := by
  induction spaces with
  | nil => rfl
  | cons space spaces ih =>
    rw [List.cons_append, words_cons_space _ (all space List.mem_cons_self)]
    exact ih fun char member => all char (List.mem_cons_of_mem _ member)

theorem words_append_spaces (text : Text) {spaces : Text}
    (all : ∀ char ∈ spaces, isSpace char = true) : words (text ++ spaces) = words text := by
  induction spaces generalizing text with
  | nil => simp
  | cons space spaces ih =>
    have rest : words (text ++ [space] ++ spaces) = words (text ++ [space]) :=
      ih (text ++ [space]) fun char member => all char (List.mem_cons_of_mem _ member)
    rw [List.append_cons, rest, words_append_space text (all space List.mem_cons_self)]

theorem exists_trim_split (text : Text) :
    ∃ leading trailing, text = leading ++ trim text ++ trailing ∧
      (∀ char ∈ leading, isSpace char = true) ∧ (∀ char ∈ trailing, isSpace char = true) := by
  refine ⟨text.takeWhile isSpace, (trimStart text).rtakeWhile isSpace, ?_, ?_, ?_⟩
  · rw [List.append_assoc, trim, trimEnd, List.rdropWhile_append_rtakeWhile, trimStart,
      List.takeWhile_append_dropWhile]
  · intro char member
    exact List.mem_takeWhile_imp member
  · intro char member
    exact List.mem_rtakeWhile_imp member

/-! Collapsing white space keeps the words and joins them with single blanks. -/

theorem collapseFrom_append_clean (afterSpace : Bool) (rest : Text)
    (clean : ∀ char ∈ word, isSpace char = false) :
    collapseFrom afterSpace (word ++ rest) =
      word ++ collapseFrom (afterSpace && word.isEmpty) rest := by
  induction word generalizing afterSpace with
  | nil => simp
  | cons char word ih =>
    have tail := ih false fun other member => clean other (List.mem_cons_of_mem _ member)
    simp only [List.cons_append, collapseFrom, clean char List.mem_cons_self,
      Bool.false_eq_true, if_false, tail, List.isEmpty_cons, Bool.and_false, Bool.false_and]

theorem collapseFrom_clean (afterSpace : Bool) (clean : ∀ char ∈ word, isSpace char = false) :
    collapseFrom afterSpace word = word := by
  simpa [collapseFrom] using collapseFrom_append_clean afterSpace [] clean

theorem collapseFrom_true_head (text : Text) :
    ∀ char ∈ (collapseFrom true text).head?, isSpace char = false := by
  induction text with
  | nil => simp [collapseFrom]
  | cons first text ih =>
    cases space : isSpace first with
    | true => simpa [collapseFrom, space] using ih
    | false => simp [collapseFrom, space]

theorem words_collapseFrom (afterSpace : Bool) (text : Text) :
    words (collapseFrom afterSpace text) = words text := by
  induction text using word_induction generalizing afterSpace with
  | clean text clean => rw [collapseFrom_clean afterSpace clean]
  | split word space rest clean isSpace ih =>
    rw [collapseFrom_append_clean afterSpace _ clean, words_append_cons word rest isSpace]
    cases blank : afterSpace && word.isEmpty with
    | true =>
      have empty : word = [] := List.isEmpty_iff.mp (Bool.and_eq_true_iff.mp blank).2
      simp [collapseFrom, isSpace, ih, empty]
    | false =>
      have printed : Text.isSpace ' ' = true := by decide
      simp only [collapseFrom, isSpace, if_true, Bool.false_eq_true, if_false]
      rw [words_append_cons word _ printed, ih]

theorem words_collapseSpaces (text : Text) : words (collapseSpaces text) = words text :=
  words_collapseFrom false text

def joinWords (words : List Text) : Text := [' '].intercalate words

@[simp] theorem joinWords_nil : joinWords [] = [] := rfl

theorem joinWords_cons (word : Text) (rest : List Text) :
    joinWords (word :: rest) = if rest = [] then word else word ++ ' ' :: joinWords rest := by
  cases rest with
  | nil => simp [joinWords]
  | cons next rest => simp [joinWords, List.intercalate_cons_cons]

theorem joinWords_eq_nil_iff {words : List Text} (nonempty : ∀ word ∈ words, word ≠ []) :
    joinWords words = [] ↔ words = [] := by
  cases words with
  | nil => simp
  | cons word rest =>
    have first := nonempty word List.mem_cons_self
    rw [joinWords_cons]
    split <;> simp [first]

theorem joinWords_append (left right : List Text) :
    joinWords (left ++ right) =
      joinWords left ++ ((if left = [] ∨ right = [] then [] else [' ']) ++ joinWords right) := by
  induction left with
  | nil => simp
  | cons word left ih =>
    rw [List.cons_append, joinWords_cons, joinWords_cons, ih]
    by_cases last : left = []
    · by_cases none : right = [] <;> simp [last, none]
    · simp [last]

theorem ne_nil_of_mem_words (member : word ∈ words text) : word ≠ [] := by
  simpa using (List.mem_filter.mp member).2

theorem of_mem_words (member : word ∈ words text) :
    ∀ char ∈ word, isSpace char = false ∧ char ∈ text := by
  have single {part : Text} (clean : ∀ char ∈ part, isSpace char = false)
      (found : word ∈ words part) : word = part := by
    rw [words_of_no_space clean] at found
    split at found
    · cases found
    · exact List.mem_singleton.mp found
  induction text using word_induction with
  | clean text clean =>
    rw [single clean member]
    intro char inside
    exact ⟨clean char inside, inside⟩
  | split front space rest clean isSpace ih =>
    rw [words_append_cons _ _ isSpace, List.mem_append] at member
    intro char inside
    rcases member with first | later
    · rw [single clean first] at inside
      exact ⟨clean char inside, List.mem_append_left _ inside⟩
    · obtain ⟨solid, there⟩ := ih later char inside
      exact ⟨solid, List.mem_append_right _ (List.mem_cons_of_mem _ there)⟩

theorem words_joinWords {parts : List Text} (nonempty : ∀ word ∈ parts, word ≠ [])
    (clean : ∀ word ∈ parts, ∀ char ∈ word, isSpace char = false) :
    words (joinWords parts) = parts := by
  induction parts with
  | nil => exact words_nil
  | cons word rest ih =>
    have first := words_of_no_space (clean word List.mem_cons_self)
    rw [if_neg (nonempty word List.mem_cons_self)] at first
    have later := ih (fun other member => nonempty other (List.mem_cons_of_mem _ member))
      (fun other member => clean other (List.mem_cons_of_mem _ member))
    rw [joinWords_cons]
    split
    next last => rw [first, last]
    next => rw [words_append_cons _ _ (by decide), first, later, List.singleton_append]

theorem trimEnd_append (left right : Text) :
    trimEnd (left ++ right) = if trimEnd right = [] then trimEnd left else left ++ trimEnd right := by
  induction right using List.reverseRecOn generalizing left with
  | nil => simp [trimEnd]
  | append_singleton right last ih =>
    have step (text : Text) :
        trimEnd (text ++ [last]) = if isSpace last then trimEnd text else text ++ [last] :=
      List.rdropWhile_concat isSpace text last
    rw [← List.append_assoc, step, step]
    cases space : isSpace last with
    | true => simpa using ih left
    | false => simp

theorem trimEnd_clean (clean : ∀ char ∈ text, isSpace char = false) : trimEnd text = text := by
  rw [trimEnd, List.rdropWhile_eq_self_iff]
  intro nonempty
  simp [clean _ (List.getLast_mem nonempty)]

theorem trimStart_collapseSpaces (text : Text) :
    trimStart (collapseSpaces text) = collapseFrom true text := by
  cases text with
  | nil => rfl
  | cons first text =>
    cases space : isSpace first with
    | true =>
      have head := collapseFrom_true_head text
      have blank : isSpace ' ' = true := by decide
      simp only [collapseSpaces, collapseFrom, space, if_true, Bool.false_eq_true, if_false,
        trimStart, List.dropWhile_cons, blank]
      cases rest : collapseFrom true text with
      | nil => rfl
      | cons char tail =>
        have kept : isSpace char = false := head char (by simp [rest])
        simp [kept]
    | false => simp [collapseSpaces, collapseFrom, space, trimStart]

theorem trimEnd_collapseFrom_true (text : Text) :
    trimEnd (collapseFrom true text) = joinWords (words text) := by
  induction text using word_induction with
  | clean text clean =>
    rw [collapseFrom_clean true clean, trimEnd_clean clean, words_of_no_space clean]
    split <;> simp_all [joinWords]
  | split word space rest clean isSpace ih =>
    rw [collapseFrom_append_clean true _ clean, words_append_cons word rest isSpace,
      words_of_no_space clean]
    by_cases empty : word = []
    · simpa [empty, collapseFrom, isSpace] using ih
    · have notEmpty : word.isEmpty = false := by simpa using empty
      have blank : trimEnd (' ' :: collapseFrom true rest) =
          if joinWords (words rest) = [] then [] else ' ' :: joinWords (words rest) := by
        have split := trimEnd_append [' '] (collapseFrom true rest)
        rw [ih] at split
        simpa [show trimEnd [' '] = [] by decide] using split
      simp only [collapseFrom, isSpace, if_true, notEmpty, Bool.and_false, Bool.false_eq_true,
        if_false, empty, List.singleton_append, joinWords_cons]
      rw [trimEnd_append, blank, trimEnd_clean clean]
      have none : joinWords (words rest) = [] ↔ words rest = [] :=
        joinWords_eq_nil_iff fun _ => ne_nil_of_mem_words
      by_cases last : words rest = []
      · simp [last]
      · simp [none, last]

theorem trim_collapseSpaces (text : Text) :
    trim (collapseSpaces text) = joinWords (words text) := by
  rw [trim, trimStart_collapseSpaces, trimEnd_collapseFrom_true]

/-! Texts that are cut at a separator. -/

section
variable {separator : Char} {left right left' right' : Text}

theorem cut_unique (ends : ∀ more, left' ≠ left ++ separator :: more)
    (ends' : ∀ more, left ≠ left' ++ separator :: more)
    (same : left ++ separator :: right = left' ++ separator :: right') :
    left = left' ∧ right = right' := by
  rcases List.append_eq_append_iff.mp same with ⟨more, isLeft, rest⟩ | ⟨more, isLeft, rest⟩
  · cases more with
    | nil => exact ⟨by simpa using isLeft.symm, by simpa using rest⟩
    | cons char more =>
      obtain ⟨rfl, -⟩ := List.cons.inj rest
      exact absurd isLeft (ends more)
  · cases more with
    | nil => exact ⟨by simpa using isLeft, by simpa using rest.symm⟩
    | cons char more =>
      obtain ⟨rfl, -⟩ := List.cons.inj rest
      exact absurd isLeft (ends' more)

theorem separator_append_inj (clean : separator ∉ left) (clean' : separator ∉ left')
    (same : left ++ separator :: right = left' ++ separator :: right') :
    left = left' ∧ right = right' := by
  refine cut_unique (fun more isLeft => clean' ?_) (fun more isLeft => clean ?_) same
  · simp [isLeft]
  · simp [isLeft]

theorem append_separator_inj (clean : separator ∉ right) (clean' : separator ∉ right')
    (same : left ++ separator :: right = left' ++ separator :: right') :
    left = left' ∧ right = right' := by
  refine cut_unique (fun more isLeft => clean ?_) (fun more isLeft => clean' ?_) same
  · rw [isLeft, List.append_assoc, List.cons_append] at same
    simp [(List.cons.inj (List.append_cancel_left same)).2]
  · rw [isLeft, List.append_assoc, List.cons_append] at same
    simp [← (List.cons.inj (List.append_cancel_left same)).2]

end

end Text

end Tamanor.Library
