import Tamanor.Library.Text

/-! Case conversion and canonical decomposition over an arbitrary character
database. The algorithms are those of the Unicode standard; the tables they
read are the fields of the database, together with the few facts about white
space and ASCII that hold of the published tables. -/

set_option autoImplicit false

namespace Tamanor.Library

open Text

structure CharacterDatabase where
  /-- Full lowercase mapping, without the context rule for the capital sigma. -/
  lowercase : Char → Text
  cased : Char → Bool
  caseIgnorable : Char → Bool
  /-- Full canonical decomposition of one code point. -/
  decomposition : Char → Text
  combiningClass : Char → Nat
  letter : Char → Bool
  space_lowercase : ∀ char, isSpace char = true → lowercase char = [char]
  space_cased : ∀ char, isSpace char = true → cased char = false
  /-- White space decomposes to white space: `U+2000` and `U+2001` are the only
  two code points of it that do not decompose to themselves. -/
  space_decomposition : ∀ char, isSpace char = true →
    ∃ space, decomposition char = [space] ∧ isSpace space = true ∧ combiningClass space = 0
  ascii_lowercase : ∀ char, char.toNat < 0x80 → lowercase char = [char.toLower]
  ascii_decomposition : ∀ char, char.toNat < 0x80 → decomposition char = [char]
  ascii_combiningClass : ∀ char, char.toNat < 0x80 → combiningClass char = 0

namespace CharacterDatabase

/-- The database cut down to ASCII: outside it no character has a case, a
decomposition or a combining class. -/
def ascii : CharacterDatabase where
  lowercase char := [char.toLower]
  cased := Char.isAlpha
  caseIgnorable char := [0x27, 0x2E, 0x3A, 0x5E, 0x60].contains char.toNat
  decomposition char := [char]
  combiningClass _ := 0
  letter := Char.isAlpha
  space_lowercase char space := by
    have notUpper : ¬ (65 ≤ char.toNat ∧ char.toNat ≤ 90) := by
      simp only [isSpace, List.mem_cons, List.not_mem_nil, or_false, Bool.or_eq_true,
        decide_eq_true_eq, Bool.and_eq_true] at space
      omega
    have kept : char.toLower = char := by
      unfold Char.toLower
      split
      next upper => exact absurd ⟨upper.1, upper.2⟩ notUpper
      next => rfl
    rw [kept]
  space_cased char space := by
    simp only [isSpace, List.mem_cons, List.not_mem_nil, or_false, Bool.or_eq_true,
      decide_eq_true_eq, Bool.and_eq_true] at space
    have value : char.val.toNat = char.toNat := rfl
    delta Char.isAlpha Char.isUpper Char.isLower
    simp only [Bool.or_eq_false_iff, Bool.and_eq_false_iff, decide_eq_false_iff_not, ge_iff_le, UInt32.le_iff_toNat_le, value]
    have bounds : 'A'.val.toNat = 65 ∧ 'Z'.val.toNat = 90 ∧ 'a'.val.toNat = 97 ∧
        'z'.val.toNat = 122 := by decide
    omega
  space_decomposition char space := ⟨char, rfl, space, rfl⟩
  ascii_lowercase _ _ := rfl
  ascii_decomposition _ _ := rfl
  ascii_combiningClass _ _ := rfl

variable (database : CharacterDatabase)

def startsCased : Text → Bool
  | [] => false
  | char :: rest =>
    database.cased char || (database.caseIgnorable char && startsCased rest)

/-- The `Final_Sigma` condition. `before` is the preceding text, nearest
character first. -/
def finalSigma (before after : Text) : Bool :=
  database.startsCased before && !database.startsCased after

def toLowerCaseFrom (before : Text) : Text → Text
  | [] => []
  | char :: rest =>
    (if char = 'Σ' then [if database.finalSigma before rest then 'ς' else 'σ']
      else database.lowercase char) ++ toLowerCaseFrom (char :: before) rest

/-- `String.prototype.toLowerCase`. -/
def toLowerCase (text : Text) : Text := database.toLowerCaseFrom [] text

/-- Insert a combining mark into an ordered text, before the marks of the same
or a higher class and never across a starter. -/
def insertMark (mark : Char) : Text → Text
  | [] => [mark]
  | char :: rest =>
    if 0 < database.combiningClass char ∧
        database.combiningClass char < database.combiningClass mark then
      char :: insertMark mark rest
    else mark :: char :: rest

/-- The canonical ordering algorithm: each run of combining marks is sorted
stably by combining class. -/
def canonicalOrder : Text → Text
  | [] => []
  | char :: rest =>
    if database.combiningClass char = 0 then char :: canonicalOrder rest
    else database.insertMark char (canonicalOrder rest)

/-- `text.normalize("NFD")`. -/
def nfd (text : Text) : Text :=
  database.canonicalOrder (text.flatMap database.decomposition)

variable {database}

theorem startsCased_append_spaces (text : Text) {spaces : Text}
    (all : ∀ char ∈ spaces, isSpace char = true) :
    database.startsCased (text ++ spaces) = database.startsCased text := by
  induction text with
  | nil =>
    induction spaces with
    | nil => rfl
    | cons space spaces ih =>
      have rest := ih fun char member => all char (List.mem_cons_of_mem _ member)
      simp only [List.nil_append, startsCased] at rest ⊢
      simp [rest, database.space_cased space (all space List.mem_cons_self)]
  | cons char text ih => simp only [List.cons_append, startsCased, ih]

theorem not_sigma_of_space {char : Char} (space : isSpace char = true) : char ≠ 'Σ' := by
  rintro rfl
  exact absurd space (by decide)

theorem toLowerCaseFrom_spaces_append (before : Text) {spaces : Text} (text : Text)
    (all : ∀ char ∈ spaces, isSpace char = true) :
    database.toLowerCaseFrom before (spaces ++ text) =
      spaces ++ database.toLowerCaseFrom (spaces.reverse ++ before) text := by
  induction spaces generalizing before with
  | nil => simp
  | cons space spaces ih =>
    have first := all space List.mem_cons_self
    have rest := ih (space :: before) fun char member => all char (List.mem_cons_of_mem _ member)
    simp [toLowerCaseFrom, not_sigma_of_space first, database.space_lowercase space first, rest]

theorem toLowerCaseFrom_surrounded (before : Text) {leading trailing : Text} (text : Text)
    (leadingSpaces : ∀ char ∈ leading, isSpace char = true)
    (trailingSpaces : ∀ char ∈ trailing, isSpace char = true) :
    database.toLowerCaseFrom (before ++ leading) (text ++ trailing) =
      database.toLowerCaseFrom before text ++ trailing := by
  induction text generalizing before with
  | nil =>
    have spaces := database.toLowerCaseFrom_spaces_append (before ++ leading) [] trailingSpaces
    simpa [toLowerCaseFrom] using spaces
  | cons char text ih =>
    have sigma : database.finalSigma (before ++ leading) (text ++ trailing) =
        database.finalSigma before text := by
      simp [finalSigma, startsCased_append_spaces before leadingSpaces,
        startsCased_append_spaces text trailingSpaces]
    have rest := ih (char :: before)
    simp only [List.cons_append] at rest
    simp [toLowerCaseFrom, sigma, rest]

theorem toLowerCase_surrounded {leading trailing : Text} (text : Text)
    (leadingSpaces : ∀ char ∈ leading, isSpace char = true)
    (trailingSpaces : ∀ char ∈ trailing, isSpace char = true) :
    database.toLowerCase (leading ++ text ++ trailing) =
      leading ++ database.toLowerCase text ++ trailing := by
  have reversed : ∀ char ∈ leading.reverse, isSpace char = true := by
    simpa using leadingSpaces
  have inner := database.toLowerCaseFrom_surrounded [] text reversed trailingSpaces
  rw [toLowerCase, List.append_assoc, toLowerCaseFrom_spaces_append [] _ leadingSpaces]
  simp only [List.nil_append] at inner
  simp [inner, toLowerCase]

theorem words_toLowerCase_trim (text : Text) :
    words (database.toLowerCase (trim text)) = words (database.toLowerCase text) := by
  obtain ⟨leading, trailing, split, leadingSpaces, trailingSpaces⟩ := exists_trim_split text
  conv_rhs => rw [split]
  rw [toLowerCase_surrounded _ leadingSpaces trailingSpaces, words_append_spaces _ trailingSpaces,
    words_spaces_append _ leadingSpaces]

theorem toLowerCase_of_ascii {text : Text}
    (plain : ∀ char ∈ text, char.toNat < 0x80 ∧ char.toLower = char) :
    database.toLowerCase text = text := by
  have loop (before : Text) : database.toLowerCaseFrom before text = text := by
    induction text generalizing before with
    | nil => rfl
    | cons char text ih =>
      obtain ⟨below, lower⟩ := plain char List.mem_cons_self
      have notSigma : char ≠ 'Σ' := by
        rintro rfl
        exact absurd below (by decide)
      have rest := ih (fun other member => plain other (List.mem_cons_of_mem _ member))
        (char :: before)
      rw [toLowerCaseFrom, if_neg notSigma, database.ascii_lowercase char below, lower, rest]
      rfl
  exact loop []

theorem nfd_of_ascii {text : Text} (plain : ∀ char ∈ text, char.toNat < 0x80) :
    database.nfd text = text := by
  unfold nfd
  induction text with
  | nil => rfl
  | cons char text ih =>
    have below := plain char List.mem_cons_self
    have rest := ih fun other member => plain other (List.mem_cons_of_mem _ member)
    rw [List.flatMap_cons, database.ascii_decomposition char below, List.singleton_append,
      canonicalOrder, if_pos (database.ascii_combiningClass char below), rest]

theorem insertMark_append_starter (mark : Char) (left right : Text) {starter : Char}
    (zero : database.combiningClass starter = 0) :
    database.insertMark mark (left ++ starter :: right) =
      database.insertMark mark left ++ starter :: right := by
  induction left with
  | nil => simp [insertMark, zero]
  | cons char left ih =>
    simp only [List.cons_append, insertMark, ih]
    split <;> simp

theorem canonicalOrder_append_starter (left right : Text) {starter : Char}
    (zero : database.combiningClass starter = 0) :
    database.canonicalOrder (left ++ starter :: right) =
      database.canonicalOrder left ++ starter :: database.canonicalOrder right := by
  induction left with
  | nil => simp [canonicalOrder, zero]
  | cons char left ih =>
    simp only [List.cons_append, canonicalOrder, ih]
    split
    · simp
    · exact insertMark_append_starter char _ _ zero

theorem nfd_append_space (left right : Text) {space : Char} (isSpace : isSpace space = true) :
    ∃ printed, Text.isSpace printed = true ∧
      database.nfd (left ++ space :: right) =
        database.nfd left ++ printed :: database.nfd right := by
  obtain ⟨printed, decomposed, printedSpace, zero⟩ := database.space_decomposition space isSpace
  refine ⟨printed, printedSpace, ?_⟩
  rw [nfd, List.flatMap_append, List.flatMap_cons, decomposed]
  exact canonicalOrder_append_starter _ _ zero

end CharacterDatabase

end Tamanor.Library
