import Mathlib.Data.Int.Log
import Mathlib.Data.Nat.Digits.Lemmas
import Mathlib.Data.Rat.Floor
import Tamanor.Library.Text

/-! `Number(text)` for a text (the `StringNumericLiteral` of ECMAScript), as an exact
rational. A literal that is malformed, infinite or too large for a double is no finite
number. -/

set_option autoImplicit false

namespace Tamanor.Library.NumericLiteral

/-- What stands before the first separator, and what stands after it if there is one. -/
def cut (isSeparator : Char → Bool) : Text → Text × Option Text
  | [] => ([], none)
  | char :: rest =>
    if isSeparator char then ([], some rest)
    else (char :: (cut isSeparator rest).1, (cut isSeparator rest).2)

def decimal? (digits : Text) : Option Nat :=
  if digits ≠ [] ∧ digits.all Char.isDigit then some (Nat.ofDigitChars 10 digits 0) else none

/-- The digits of another base, which Lean writes as `Nat.digitChar` does. -/
def based? (base : Nat) (digits : Text) : Option Nat :=
  if digits = [] then none
  else
    digits.foldl (fun value? char =>
      value?.bind fun value =>
        ((List.range base).find? fun digit => Nat.digitChar digit == char.toLower).map
          (value * base + ·)) (some 0)

def signed? (read : Text → Option ℚ) : Text → Option ℚ
  | '+' :: rest => read rest
  | '-' :: rest => (read rest).map (-·)
  | text => read text

def exponent? : Option Text → Option ℤ
  | none => some 0
  | some text =>
    match text with
    | '+' :: digits => (decimal? digits).map Int.ofNat
    | '-' :: digits => (decimal? digits).map fun value => -Int.ofNat value
    | digits => (decimal? digits).map Int.ofNat

def unsigned? (text : Text) : Option ℚ := do
  let (mantissa, exponent) := cut (fun char => char == 'e' || char == 'E') text
  let (whole, fraction) := cut (· == '.') mantissa
  let digits ← decimal? (whole ++ fraction.getD [])
  let scale ← exponent? exponent
  some (digits * (10 : ℚ) ^ (scale - (fraction.getD []).length))

def isFinite (value : ℚ) : Bool := decide (|value| < 2 ^ 1024 - 2 ^ 970)

def literal? (body : Text) : Option ℚ :=
  match body with
  | [] => some 0
  | '0' :: 'x' :: digits | '0' :: 'X' :: digits => (based? 16 digits).map Nat.cast
  | '0' :: 'o' :: digits | '0' :: 'O' :: digits => (based? 8 digits).map Nat.cast
  | '0' :: 'b' :: digits | '0' :: 'B' :: digits => (based? 2 digits).map Nat.cast
  | body => signed? unsigned? body

/-- `Number(text)`, where it is finite. -/
def number? (text : Text) : Option ℚ := (literal? (Text.trim text)).filter isFinite

variable {isSeparator : Char → Bool} {text before : Text} {char : Char}

theorem cut_of_clean (clean : ∀ char ∈ text, isSeparator char = false) :
    cut isSeparator text = (text, none) := by
  induction text with
  | nil => rfl
  | cons char text ih =>
    simp [cut, clean char List.mem_cons_self,
      ih fun other member => clean other (List.mem_cons_of_mem _ member)]

theorem cut_append {separator : Char} (after : Text)
    (clean : ∀ char ∈ before, isSeparator char = false) (cuts : isSeparator separator = true) :
    cut isSeparator (before ++ separator :: after) = (before, some after) := by
  induction before with
  | nil => simp [cut, cuts]
  | cons char before ih =>
    simp [cut, clean char List.mem_cons_self,
      ih fun other member => clean other (List.mem_cons_of_mem _ member)]

theorem of_cut_eq {after : Text} (parts : cut isSeparator text = (before, some after)) :
    ∃ separator, isSeparator separator = true ∧ text = before ++ separator :: after := by
  induction text generalizing before with
  | nil => cases parts
  | cons char text ih =>
    unfold cut at parts
    split at parts
    · next cuts =>
      cases parts
      exact ⟨char, cuts, rfl⟩
    · obtain ⟨rfl, rest⟩ := Prod.mk.inj parts
      obtain ⟨separator, cuts, same⟩ := ih (Prod.ext rfl rest)
      exact ⟨separator, cuts, congrArg _ same⟩

theorem eq_of_cut_none (parts : cut isSeparator text = (before, none)) : before = text := by
  induction text generalizing before with
  | nil => simpa [cut] using parts.symm
  | cons char text ih =>
    unfold cut at parts
    split at parts
    · cases parts
    · obtain ⟨rfl, rest⟩ := Prod.mk.inj parts
      exact congrArg _ (ih (Prod.ext rfl rest))

theorem clean_cut (isSeparator : Char → Bool) (text : Text) :
    ∀ char ∈ (cut isSeparator text).1, isSeparator char = false := by
  induction text with
  | nil => simp [cut]
  | cons char text ih =>
    unfold cut
    split
    · simp
    · next clean => simpa [clean] using ih

theorem cut_front (isSeparator : Char → Bool) (text : Text) :
    ∃ rest, text = (cut isSeparator text).1 ++ rest ∧
      (rest = [] ∨ ∃ separator tail, rest = separator :: tail ∧ isSeparator separator = true) := by
  cases parts : cut isSeparator text with
  | mk before after =>
    cases after with
    | none =>
      refine ⟨[], ?_, .inl rfl⟩
      rw [List.append_nil]
      exact (eq_of_cut_none parts).symm
    | some after =>
      obtain ⟨separator, cuts, same⟩ := of_cut_eq parts
      exact ⟨separator :: after, same, .inr ⟨separator, after, rfl, cuts⟩⟩

theorem beq_of_isDigit {other : Char} (digit : char.isDigit = true)
    (noDigit : other.isDigit = false) : (char == other) = false := by
  rw [beq_eq_false_iff_ne]
  rintro rfl
  rw [digit] at noDigit
  cases noDigit

theorem unsigned?_toDigits (value : Nat) : unsigned? (Nat.toDigits 10 value) = some (value : ℚ) := by
  have digits : ∀ char ∈ Nat.toDigits 10 value, char.isDigit = true :=
    fun char member => Nat.isDigit_of_mem_toDigits (by decide) (by decide) member
  have noExponent : ∀ char ∈ Nat.toDigits 10 value, (char == 'e' || char == 'E') = false := by
    intro char member
    rw [beq_of_isDigit (digits char member) rfl, beq_of_isDigit (digits char member) rfl]
    rfl
  have noPoint : ∀ char ∈ Nat.toDigits 10 value, (char == '.') = false :=
    fun char member => beq_of_isDigit (digits char member) rfl
  have read : decimal? (Nat.toDigits 10 value) = some value := by
    rw [decimal?, if_pos ⟨Nat.toDigits_ne_nil, List.all_eq_true.mpr digits⟩,
      Nat.ofDigitChars_ten_toDigits]
  simp [unsigned?, cut_of_clean noExponent, cut_of_clean noPoint, read, exponent?]

theorem literal?_eq_signed {body : Text} (nonempty : body ≠ [])
    (clean : ∀ char ∈ body, char.isDigit = true ∨ char = '-') :
    literal? body = signed? unsigned? body := by
  unfold literal?
  split
  · exact absurd rfl nonempty
  all_goals first
    | rfl
    | exact absurd (clean _ (List.mem_cons_of_mem _ List.mem_cons_self)) (by decide)

theorem toList_toString_ofNat (value : Nat) :
    (toString (Int.ofNat value)).toList = Nat.toDigits 10 value := by
  exact Nat.toList_repr

theorem toList_toString_negSucc (value : Nat) :
    (toString (Int.negSucc value)).toList = '-' :: Nat.toDigits 10 (value + 1) := by
  have shown : toString (Int.negSucc value) = "-" ++ toString (value + 1) := rfl
  rw [shown, String.toList_append]
  exact congrArg _ Nat.toList_repr

theorem mem_toString {value : Int} (member : char ∈ (toString value).toList) :
    char.isDigit = true ∨ char = '-' := by
  cases value with
  | ofNat value =>
    rw [toList_toString_ofNat] at member
    exact .inl (Nat.isDigit_of_mem_toDigits (by decide) (by decide) member)
  | negSucc value =>
    rw [toList_toString_negSucc] at member
    rcases List.mem_cons.mp member with sign | digit
    · exact .inr sign
    · exact .inl (Nat.isDigit_of_mem_toDigits (by decide) (by decide) digit)

theorem toString_ne_nil (value : Int) : (toString value).toList ≠ [] := by
  cases value with
  | ofNat value =>
    rw [toList_toString_ofNat]
    exact Nat.toDigits_ne_nil
  | negSucc value =>
    rw [toList_toString_negSucc]
    exact List.cons_ne_nil _ _

theorem signed?_toString (value : Int) :
    signed? unsigned? (toString value).toList = some (value : ℚ) := by
  cases value with
  | ofNat value =>
    have read := unsigned?_toDigits value
    rw [toList_toString_ofNat]
    unfold signed?
    split
    · next same =>
      have sign : '+' ∈ Nat.toDigits 10 value := same ▸ List.mem_cons_self
      exact absurd (Nat.isDigit_of_mem_toDigits (by decide) (by decide) sign) (by decide)
    · next same =>
      have sign : '-' ∈ Nat.toDigits 10 value := same ▸ List.mem_cons_self
      exact absurd (Nat.isDigit_of_mem_toDigits (by decide) (by decide) sign) (by decide)
    · simpa using read
  | negSucc value =>
    rw [toList_toString_negSucc]
    have read := unsigned?_toDigits (value + 1)
    simp only [signed?, read, Option.map_some]
    simp [Int.cast_negSucc]

theorem isSpace_of_printed (printed : char.isDigit = true ∨ char = '-') :
    Text.isSpace char = false := by
  rcases printed with digit | rfl
  · have range : 48 ≤ char.toNat ∧ char.toNat ≤ 57 := by
      simpa [Char.isDigit, UInt32.le_iff_toNat_le] using digit
    simp only [Text.isSpace, List.mem_cons, List.not_mem_nil, or_false, Bool.or_eq_false_iff,
      decide_eq_false_iff_not, Bool.and_eq_false_iff]
    omega
  · decide

theorem trim_of_clean (clean : ∀ char ∈ text, Text.isSpace char = false) :
    Text.trim text = text := by
  have start : Text.trimStart text = text := by
    cases text with
    | nil => rfl
    | cons char text => simp [Text.trimStart, clean char List.mem_cons_self]
  rw [Text.trim, start, Text.trimEnd_clean clean]

theorem number?_toString {value : Int} (finite : isFinite value = true) :
    number? (toString value).toList = some (value : ℚ) := by
  have clean : ∀ char ∈ (toString value).toList, Text.isSpace char = false :=
    fun char member => isSpace_of_printed (mem_toString member)
  have read : literal? (toString value).toList = some (value : ℚ) := by
    rw [literal?_eq_signed (toString_ne_nil value) fun char => mem_toString, signed?_toString]
  rw [number?, trim_of_clean clean, read]
  exact Option.filter_eq_some_iff.mpr ⟨rfl, finite⟩

def roundHalfEven (value : ℚ) : ℤ :=
  if value - ⌊value⌋ < 1 / 2 ∨ value - ⌊value⌋ = 1 / 2 ∧ ⌊value⌋ % 2 = 0 then ⌊value⌋
  else ⌊value⌋ + 1

def spacing (value : ℚ) : ℚ := 2 ^ max (Int.log 2 |value| - 52) (-1074)

def toDouble (value : ℚ) : ℚ := roundHalfEven (value / spacing value) * spacing value

theorem roundHalfEven_intCast (value : ℤ) : roundHalfEven value = value := by
  simp [roundHalfEven]

theorem toDouble_intCast {value : ℤ} (small : |value| < 2 ^ 53) : toDouble value = value := by
  by_cases zero : value = 0
  · subst zero
    simp [toDouble, roundHalfEven]
  have positive : 0 < |(value : ℚ)| := abs_pos.mpr (Int.cast_ne_zero.mpr zero)
  have below : |(value : ℚ)| < ((2 : ℕ) : ℚ) ^ (53 : ℤ) := by exact_mod_cast small
  have exponent : Int.log 2 |(value : ℚ)| < 53 := (Int.lt_zpow_iff_log_lt one_lt_two positive).mp below
  obtain ⟨shift, shifted⟩ : ∃ shift : ℕ,
      max (Int.log 2 |(value : ℚ)| - 52) (-1074) = -(shift : ℤ) :=
    ⟨(-max (Int.log 2 |(value : ℚ)| - 52) (-1074)).toNat, by omega⟩
  have step : spacing value = ((2 ^ shift : ℤ) : ℚ)⁻¹ := by
    rw [spacing, shifted, zpow_neg, zpow_natCast]
    push_cast
    rfl
  have scaled : (value : ℚ) / spacing value = ((value * 2 ^ shift : ℤ) : ℚ) := by
    rw [step, div_inv_eq_mul]
    push_cast
    rfl
  have nonzero : ((2 ^ shift : ℤ) : ℚ) ≠ 0 := by positivity
  rw [toDouble, scaled, roundHalfEven_intCast, step, Int.cast_mul, mul_assoc,
    mul_inv_cancel₀ nonzero, mul_one]

end Tamanor.Library.NumericLiteral

/-! Rounding and printing of decimal numbers, over exact rationals. -/

namespace Tamanor.Library

/-- `Math.round(n * 100) / 100`. -/
def round2 (number : ℚ) : ℚ := (number * 100 + 1 / 2).floor / 100

def printFixed2 (number : ℚ) : String :=
  let hundredths := (number * 100 + 1 / 2).floor.toNat
  toString (hundredths / 100) ++ "." ++ toString (hundredths % 100 / 10) ++
    toString (hundredths % 10)

/-- `n.toFixed(2)`. -/
def toFixed2 (number : ℚ) : String :=
  if number < 0 then "-" ++ printFixed2 (-number) else printFixed2 number

example : toFixed2 0.875 = "0.88" := by decide +kernel

end Tamanor.Library
