import Mathlib.Data.List.Infix
import Mathlib.Data.List.TakeWhile

/-! The patterns of secrets in keys and values (`observability.ts`), over the code units of a
text, and the texts of numbers that they leave alone. -/

set_option autoImplicit false

namespace Tamanor.Core

abbrev Units := List Nat

def unitsOf (text : String) : Units := text.toList.map Char.toNat

/-! Classes of units. Letters are compared without their case. -/

variable (unit : Nat)

def lowered : Nat := if 65 ≤ unit ∧ unit ≤ 90 then unit + 32 else unit

def isDigitUnit : Bool := decide (48 ≤ unit) && decide (unit ≤ 57)

def isLetterUnit : Bool := decide (97 ≤ lowered unit) && decide (lowered unit ≤ 122)

/-- `\s`. -/
def isSpaceUnit : Bool :=
  (decide (9 ≤ unit) && decide (unit ≤ 13)) || (decide (0x2000 ≤ unit) && decide (unit ≤ 0x200A)) ||
    [0x20, 0xA0, 0x1680, 0x2028, 0x2029, 0x202F, 0x205F, 0x3000, 0xFEFF].contains unit

/-- `\w`. -/
def isWordUnit : Bool := isDigitUnit unit || isLetterUnit unit || unit == 95

/-- `[a-z0-9.-]`. -/
def isHostUnit : Bool :=
  isLetterUnit unit || isDigitUnit unit || unit == 46 || unit == 45

/-- `[a-z0-9._-]`. -/
def isTokenUnit : Bool := isHostUnit unit || unit == 95

/-- `[\d\s().-]`. -/
def isPhoneUnit : Bool :=
  isDigitUnit unit || isSpaceUnit unit || [40, 41, 46, 45].contains unit

def occurs (begins : Units → Bool) : Units → Bool
  | [] => begins []
  | unit :: rest => begins (unit :: rest) || occurs begins rest

def afterWord : Units → Units → Option Units
  | [], text => some text
  | _ :: _, [] => none
  | letter :: word, unit :: text => if lowered unit = letter then afterWord word text else none

def beginsWith (word : String) (text : Units) : Bool := (afterWord (unitsOf word) text).isSome

def secretKeyWords : List String :=
  ["token", "secret", "password", "cookie", "authorization", "database_url", "app_database_url",
    "apikey", "api_key", "api-key", "encryptionkey", "encryption_key", "encryption-key", "email",
    "payload"]

/-- `SECRET_KEY`. -/
def isSecretKey : Units → Bool := occurs fun text => secretKeyWords.any (beginsWith · text)

/-- `bearer\s+[a-z0-9._-]+`. -/
def beginsBearer (text : Units) : Bool :=
  match afterWord (unitsOf "bearer") text with
  | some (unit :: rest) => isSpaceUnit unit && (rest.dropWhile isSpaceUnit).head?.any isTokenUnit
  | _ => false

/-- `eyj[a-z0-9._-]+`. -/
def beginsJwt (text : Units) : Bool :=
  match afterWord (unitsOf "eyj") text with
  | some rest => rest.head?.any isTokenUnit
  | none => false

/-- `\.[a-z]{2}`. -/
def beginsDomain : Units → Bool
  | 46 :: first :: second :: _ => isLetterUnit first && isLetterUnit second
  | _ => false

/-- `@[a-z0-9.-]+\.[a-z]{2,}`. -/
def beginsMail : Units → Bool
  | 64 :: rest => occurs beginsDomain ((rest.takeWhile isHostUnit).drop 1)
  | _ => false

def secretPrefixes : List String := ["postgres://", "postgresql://", "plain:v1:", "aesgcm:v1:"]

/-- `SECRET_VALUE`. -/
def isSecretValue : Units → Bool :=
  occurs fun text => beginsBearer text || secretPrefixes.any (beginsWith · text) ||
    beginsJwt text || beginsMail text

/-- `\d[\d\s().-]{9,}\d`. -/
def beginsPhone : Units → Bool
  | unit :: rest => isDigitUnit unit && ((rest.takeWhile isPhoneUnit).drop 9).any isDigitUnit
  | [] => false

def afterGroup (text : Units) : Option Units :=
  let digits := text.takeWhile isDigitUnit
  if 1 ≤ digits.length ∧ digits.length ≤ 3 then some (text.drop digits.length) else none

def afterDottedGroup (text : Units) : Option Units :=
  match afterGroup text with
  | some (46 :: rest) => some rest
  | _ => none

/-- `\d{1,3}(?:\.\d{1,3}){3}\b`. -/
def beginsAddress (text : Units) : Bool :=
  match ((afterDottedGroup text).bind afterDottedGroup).bind afterDottedGroup with
  | some last =>
    match afterGroup last with
    | some rest => !rest.head?.any isWordUnit
    | none => false
  | none => false

def hasAddress (inWord : Bool) : Units → Bool
  | [] => false
  | unit :: rest => (!inWord && beginsAddress (unit :: rest)) || hasAddress (isWordUnit unit) rest

/-- `PII_VALUE`. -/
def isPiiValue (text : Units) : Bool := occurs beginsPhone text || hasAddress false text

def leaks (text : Units) : Bool := isSecretValue text || isPiiValue text

def afterThreeGroups (text : Units) : Option Units :=
  ((afterDottedGroup text).bind afterDottedGroup).bind afterDottedGroup

def isAddress (text : Units) : Bool :=
  match afterThreeGroups text with
  | some last => afterGroup last == some []
  | none => false

def endsInAddress (inWord : Bool) : Units → Bool
  | [] => false
  | unit :: rest => (!inWord && isAddress (unit :: rest)) || endsInAddress (isWordUnit unit) rest

section
variable {begins : Units → Bool} {text before digits after word : Units} {unit : Nat}

theorem occurs_iff :
    occurs begins text = true ↔ ∃ front rest, text = front ++ rest ∧ begins rest = true := by
  induction text with
  | nil =>
    constructor
    · intro here
      exact ⟨[], [], rfl, here⟩
    · intro found
      obtain ⟨front, rest, isText, here⟩ := found
      rw [(List.append_eq_nil_iff.1 isText.symm).2] at here
      exact here
  | cons unit rest ih =>
    rw [occurs, Bool.or_eq_true, ih]
    constructor
    · rintro (here | ⟨front, rest, rfl, here⟩)
      · exact ⟨[], unit :: rest, rfl, here⟩
      · exact ⟨unit :: front, rest, rfl, here⟩
    · intro found
      obtain ⟨front, later, isText, here⟩ := found
      cases front with
      | nil => exact .inl (isText ▸ here)
      | cons first front =>
        obtain ⟨rfl, rfl⟩ := List.cons.inj isText
        exact .inr ⟨front, later, rfl, here⟩

theorem letter_of_afterWord (found : (afterWord word text).isSome = true) :
    ∀ letter ∈ word, ∃ unit ∈ text, lowered unit = letter := by
  induction word generalizing text with
  | nil => nofun
  | cons first word ih =>
    cases text with
    | nil => cases found
    | cons unit rest =>
      unfold afterWord at found
      split at found
      next same =>
        intro letter member
        rcases List.mem_cons.1 member with rfl | later
        · exact ⟨unit, List.mem_cons_self, same⟩
        · obtain ⟨other, isOther, isLetter⟩ := ih found letter later
          exact ⟨other, List.mem_cons_of_mem _ isOther, isLetter⟩
      · cases found

/-- A text has no secret value in it without one of the units of `b:y@`. -/
theorem unit_of_isSecretValue (found : isSecretValue text = true) :
    ∃ unit ∈ text, lowered unit ∈ [98, 58, 121, 64] := by
  obtain ⟨front, rest, rfl, here⟩ := occurs_iff.1 found
  have inRest : ∃ unit ∈ rest, lowered unit ∈ [98, 58, 121, 64] := by
    simp only [Bool.or_eq_true] at here
    rcases here with ((bearer | known) | jwt) | mail
    · have word : (afterWord (unitsOf "bearer") rest).isSome = true := by
        unfold beginsBearer at bearer
        split at bearer
        next found => rw [found]; rfl
        · cases bearer
      obtain ⟨unit, member, isLetter⟩ := letter_of_afterWord word 98 (by decide)
      exact ⟨unit, member, by rw [isLetter]; decide⟩
    · obtain ⟨word, listed, begins⟩ := List.any_eq_true.1 known
      have colon : ∀ word ∈ secretPrefixes, 58 ∈ unitsOf word := by decide
      obtain ⟨unit, member, isLetter⟩ := letter_of_afterWord begins 58 (colon word listed)
      exact ⟨unit, member, by rw [isLetter]; decide⟩
    · have word : (afterWord (unitsOf "eyj") rest).isSome = true := by
        unfold beginsJwt at jwt
        split at jwt
        next found => rw [found]; rfl
        · cases jwt
      obtain ⟨unit, member, isLetter⟩ := letter_of_afterWord word 121 (by decide)
      exact ⟨unit, member, by rw [isLetter]; decide⟩
    · unfold beginsMail at mail
      split at mail
      · exact ⟨64, List.mem_cons_self, by decide⟩
      · cases mail
  obtain ⟨unit, member, isOne⟩ := inRest
  exact ⟨unit, List.mem_append_right _ member, isOne⟩

theorem dot_of_hasAddress {inWord : Bool} (found : hasAddress inWord text = true) : 46 ∈ text := by
  induction text generalizing inWord with
  | nil => cases found
  | cons unit rest ih =>
    rw [hasAddress, Bool.or_eq_true, Bool.and_eq_true] at found
    rcases found with ⟨-, here⟩ | later
    · have dotted : (afterDottedGroup (unit :: rest)).isSome = true := by
        unfold beginsAddress at here
        cases group : afterDottedGroup (unit :: rest) with
        | none => rw [group] at here; cases here
        | some more => rfl
      unfold afterDottedGroup at dotted
      split at dotted
      next more group =>
        unfold afterGroup at group
        dsimp only at group
        split at group
        · have dot : 46 ∈ (unit :: rest).drop ((unit :: rest).takeWhile isDigitUnit).length := by
            rw [Option.some.inj group]
            exact List.mem_cons_self
          exact List.mem_of_mem_drop dot
        · cases group
      · cases dotted
    · exact List.mem_cons_of_mem _ (ih later)

theorem digits_of_phone (found : occurs beginsPhone text = true) :
    ∃ front first middle last rest, text = front ++ first :: (middle ++ last :: rest) ∧
      isDigitUnit first = true ∧ isDigitUnit last = true ∧ 9 ≤ middle.length := by
  obtain ⟨front, here, rfl, begins⟩ := occurs_iff.1 found
  cases here with
  | nil => cases begins
  | cons first rest =>
    obtain ⟨isFirst, later⟩ := Bool.and_eq_true_iff.1 begins
    obtain ⟨last, member, isLast⟩ := List.any_eq_true.1 later
    obtain ⟨left, right, split⟩ := List.append_of_mem member
    have whole : rest = (rest.takeWhile isPhoneUnit).take 9 ++ left ++
        last :: (right ++ rest.dropWhile isPhoneUnit) := by
      conv_lhs => rw [← List.takeWhile_append_dropWhile (p := isPhoneUnit) (l := rest),
        ← List.take_append_drop 9 (rest.takeWhile isPhoneUnit), split]
      simp
    have long : 9 ≤ (rest.takeWhile isPhoneUnit).length := by
      by_contra short
      rw [List.drop_eq_nil_of_le (by omega)] at member
      cases member
    refine ⟨front, first, _, last, _, congrArg (fun rest => front ++ first :: rest) whole, isFirst,
      isLast, ?_⟩
    simp only [List.length_append, List.length_take]
    omega

theorem position_of_digit (quietBefore : ∀ unit ∈ before, isDigitUnit unit = false)
    (quietAfter : ∀ unit ∈ after, isDigitUnit unit = false) {index : Nat}
    (found : (before ++ digits ++ after)[index]? = some unit) (isDigit : isDigitUnit unit = true) :
    before.length ≤ index ∧ index < before.length + digits.length := by
  constructor
  · by_contra early
    rw [List.append_assoc, List.getElem?_append_left (by omega)] at found
    exact Bool.false_ne_true ((quietBefore unit (List.mem_of_getElem? found)).symm.trans isDigit)
  · by_contra late
    rw [List.getElem?_append_right (by simp; omega)] at found
    exact Bool.false_ne_true ((quietAfter unit (List.mem_of_getElem? found)).symm.trans isDigit)

/-- What stands around a number: no digit, and no unit that a secret value or an address has. -/
def isQuiet (unit : Nat) : Bool :=
  !isDigitUnit unit && decide (lowered unit ∉ [46, 58, 64, 98, 121])

theorem lowered_digit (isDigit : isDigitUnit unit = true) : lowered unit = unit := by
  simp only [isDigitUnit, Bool.and_eq_true, decide_eq_true_eq] at isDigit
  exact if_neg (by omega)

theorem leaks_number (isNumber : ∀ unit ∈ digits, isDigitUnit unit = true)
    (quietBefore : ∀ unit ∈ before, isQuiet unit = true)
    (quietAfter : ∀ unit ∈ after, isQuiet unit = true) :
    leaks (before ++ digits ++ after) = true ↔ 10 < digits.length := by
  have noDigit {unit : Nat} (quiet : isQuiet unit = true) : isDigitUnit unit = false := by
    simpa using (Bool.and_eq_true_iff.1 quiet).1
  have noMark {unit : Nat} (member : unit ∈ before ++ digits ++ after) :
      lowered unit ∉ [46, 58, 64, 98, 121] := by
    rw [List.mem_append, List.mem_append] at member
    have quiet {unit : Nat} (quiet : isQuiet unit = true) : lowered unit ∉ [46, 58, 64, 98, 121] :=
      of_decide_eq_true (Bool.and_eq_true_iff.1 quiet).2
    rcases member with (member | member) | member
    · exact quiet (quietBefore unit member)
    · have isDigit := isNumber unit member
      rw [lowered_digit isDigit]
      simp only [isDigitUnit, Bool.and_eq_true, decide_eq_true_eq] at isDigit
      simp only [List.mem_cons, List.not_mem_nil, or_false]
      omega
    · exact quiet (quietAfter unit member)
  have noSecret : isSecretValue (before ++ digits ++ after) = false := by
    refine eq_false_of_ne_true fun found => ?_
    obtain ⟨unit, member, isOne⟩ := unit_of_isSecretValue found
    refine noMark member ?_
    simp only [List.mem_cons, List.not_mem_nil, or_false] at isOne ⊢
    tauto
  have noAddress : hasAddress false (before ++ digits ++ after) = false := by
    refine eq_false_of_ne_true fun found => ?_
    exact noMark (dot_of_hasAddress found) (by decide)
  rw [leaks, noSecret, isPiiValue, noAddress, Bool.false_or, Bool.or_false]
  constructor
  · intro phone
    obtain ⟨front, first, middle, last, rest, isText, isFirst, isLast, apart⟩ :=
      digits_of_phone phone
    have firstAt : (before ++ digits ++ after)[front.length]? = some first := by
      rw [isText]
      simp
    have lastAt : (before ++ digits ++ after)[front.length + 1 + middle.length]? = some last := by
      rw [isText]
      simp [Nat.add_assoc, Nat.add_comm 1]
    have low := position_of_digit (fun unit member => noDigit (quietBefore unit member))
      (fun unit member => noDigit (quietAfter unit member)) firstAt isFirst
    have high := position_of_digit (fun unit member => noDigit (quietBefore unit member))
      (fun unit member => noDigit (quietAfter unit member)) lastAt isLast
    omega
  · intro long
    refine occurs_iff.2 ⟨before, digits ++ after, List.append_assoc _ _ _, ?_⟩
    cases digits with
    | nil => cases long
    | cons first more =>
      have phoneUnits : ∀ unit ∈ more, isPhoneUnit unit = true := fun unit member => by
        rw [isPhoneUnit, isNumber unit (List.mem_cons_of_mem _ member)]
        rfl
      refine Bool.and_eq_true_iff.2 ⟨isNumber first List.mem_cons_self, ?_⟩
      change (((more ++ after).takeWhile isPhoneUnit).drop 9).any isDigitUnit = true
      rw [List.takeWhile_append_of_pos phoneUnits]
      have enough : 9 < more.length := Nat.lt_of_succ_lt_succ long
      refine List.any_eq_true.2 ⟨more[9], ?_, isNumber _ (List.mem_cons_of_mem _ ?_)⟩
      · rw [List.drop_append_of_le_length (by omega)]
        refine List.mem_append_left _ ?_
        rw [List.drop_eq_getElem_cons enough]
        exact List.mem_cons_self
      · exact List.getElem_mem enough

end

/-! Texts that go on with a mark. No class of units has `…` in it, so a pattern that is found
before the mark is found with anything else behind it, but for the end of an address: there the
mark is a boundary. -/

section
variable {begins : Units → Bool} {text longer more after word rest : Units}

theorem occurs_of_prefix (grows : ∀ text after, begins text = true → begins (text ++ after) = true)
    (isPrefix : text <+: longer) (found : occurs begins text = true) :
    occurs begins longer = true := by
  obtain ⟨after, rfl⟩ := isPrefix
  obtain ⟨front, rest, rfl, here⟩ := occurs_iff.1 found
  exact occurs_iff.2 ⟨front, rest ++ after, List.append_assoc _ _ _, grows rest after here⟩

theorem occurs_of_mark (kept : ∀ text, begins (text ++ more) = true → begins (text ++ after) = true)
    (quiet : occurs begins more = false) (found : occurs begins (text ++ more) = true) :
    occurs begins (text ++ after) = true := by
  induction text with
  | nil => exact absurd found (ne_true_of_eq_false quiet)
  | cons unit text ih =>
    rw [List.cons_append, occurs, Bool.or_eq_true] at found ⊢
    exact found.imp (kept (unit :: text)) ih

theorem afterWord_mark (letters : 0x2026 ∉ word)
    (found : afterWord word (text ++ 0x2026 :: more) = some rest) :
    ∃ left, rest = left ++ 0x2026 :: more ∧
      ∀ after, afterWord word (text ++ after) = some (left ++ after) := by
  induction word generalizing text with
  | nil =>
    obtain rfl := Option.some.inj found
    exact ⟨text, rfl, fun _ => rfl⟩
  | cons letter word ih =>
    obtain ⟨notLetter, letters⟩ := not_or.1 (mt List.mem_cons.2 letters)
    cases text with
    | nil =>
      have stops : ¬lowered 0x2026 = letter := notLetter
      rw [List.nil_append, afterWord, if_neg stops] at found
      cases found
    | cons unit text =>
      rw [List.cons_append, afterWord] at found
      split at found
      next same =>
        obtain ⟨left, isRest, further⟩ := ih letters found
        refine ⟨left, isRest, fun after => ?_⟩
        rw [List.cons_append, afterWord, if_pos same, further after]
      · cases found

theorem beginsWith_of_mark {word : String} (letters : 0x2026 ∉ unitsOf word)
    (found : beginsWith word (text ++ 0x2026 :: more) = true) :
    beginsWith word (text ++ after) = true := by
  obtain ⟨rest, isRest⟩ := Option.isSome_iff_exists.1 found
  obtain ⟨left, -, further⟩ := afterWord_mark letters isRest
  rw [beginsWith, further after]
  rfl

theorem head_dropWhile_of_mark {skipped wanted : Nat → Bool} (notSkipped : skipped 0x2026 = false)
    (notWanted : wanted 0x2026 = false)
    (found : ((text ++ 0x2026 :: more).dropWhile skipped).head?.any wanted = true) :
    ((text ++ after).dropWhile skipped).head?.any wanted = true := by
  induction text with
  | nil =>
    rw [List.nil_append, List.dropWhile_cons_of_neg (ne_true_of_eq_false notSkipped)] at found
    exact absurd found (ne_true_of_eq_false notWanted)
  | cons unit text ih =>
    rw [List.cons_append, List.dropWhile_cons] at found ⊢
    split at found
    next skips => rw [if_pos skips]; exact ih found
    next keeps => rw [if_neg keeps]; exact found

theorem beginsBearer_of_mark (found : beginsBearer (text ++ 0x2026 :: more) = true) :
    beginsBearer (text ++ after) = true := by
  unfold beginsBearer at found
  split at found
  next unit rest isRest =>
    obtain ⟨left, isLeft, further⟩ := afterWord_mark (by decide) isRest
    obtain ⟨isSpace, isToken⟩ := Bool.and_eq_true_iff.1 found
    cases left with
    | nil =>
      obtain ⟨rfl, -⟩ := List.cons.inj isLeft
      exact absurd isSpace (by decide)
    | cons first left =>
      obtain ⟨rfl, rfl⟩ := List.cons.inj isLeft
      rw [beginsBearer, further after]
      exact Bool.and_eq_true_iff.2 ⟨isSpace, head_dropWhile_of_mark (by decide) (by decide) isToken⟩
  · cases found

theorem beginsJwt_of_mark (found : beginsJwt (text ++ 0x2026 :: more) = true) :
    beginsJwt (text ++ after) = true := by
  unfold beginsJwt at found
  split at found
  next rest isRest =>
    obtain ⟨left, rfl, further⟩ := afterWord_mark (by decide) isRest
    cases left with
    | nil =>
      have isToken : isTokenUnit 0x2026 = true := found
      exact absurd isToken (by decide)
    | cons first left =>
      rw [beginsJwt, further after]
      exact found
  · cases found

theorem takeWhile_mark {inClass : Nat → Bool} (stops : inClass 0x2026 = false) :
    (text ++ 0x2026 :: more).takeWhile inClass = text.takeWhile inClass := by
  induction text with
  | nil => exact List.takeWhile_cons_of_neg (ne_true_of_eq_false stops)
  | cons unit text ih => rw [List.cons_append, List.takeWhile_cons, List.takeWhile_cons, ih]

theorem takeWhile_isPrefix (inClass : Nat → Bool) :
    text.takeWhile inClass <+: (text ++ after).takeWhile inClass := by
  induction text with
  | nil => exact List.nil_prefix
  | cons unit text ih =>
    rw [List.cons_append, List.takeWhile_cons, List.takeWhile_cons]
    split
    · exact List.cons_prefix_cons.2 ⟨rfl, ih⟩
    · exact List.nil_prefix

theorem beginsMail_of_mark (found : beginsMail (text ++ 0x2026 :: more) = true) :
    beginsMail (text ++ after) = true := by
  cases text with
  | nil => cases found
  | cons unit text =>
    unfold beginsMail at found
    split at found
    next isText =>
      obtain ⟨rfl, rfl⟩ := List.cons.inj isText
      change occurs beginsDomain
        ((List.takeWhile isHostUnit (text ++ 0x2026 :: more)).drop 1) = true at found
      rw [takeWhile_mark (by decide)] at found
      refine occurs_of_prefix ?_ ((takeWhile_isPrefix isHostUnit).drop 1) found
      intro text after here
      unfold beginsDomain at here
      split at here
      · exact here
      · cases here
    · cases found

theorem isSecretValue_of_mark (quiet : isSecretValue (0x2026 :: more) = false)
    (found : isSecretValue (text ++ 0x2026 :: more) = true) :
    isSecretValue (text ++ after) = true := by
  refine occurs_of_mark (fun text here => ?_) quiet found
  simp only [Bool.or_eq_true, List.any_eq_true] at here ⊢
  obtain ((bearer | ⟨word, listed, known⟩) | jwt) | mail := here
  · exact .inl (.inl (.inl (beginsBearer_of_mark bearer)))
  · have letters : ∀ word ∈ secretPrefixes, 0x2026 ∉ unitsOf word := by decide
    exact .inl (.inl (.inr ⟨word, listed, beginsWith_of_mark (letters word listed) known⟩))
  · exact .inl (.inr (beginsJwt_of_mark jwt))
  · exact .inr (beginsMail_of_mark mail)

theorem beginsPhone_of_mark (found : beginsPhone (text ++ 0x2026 :: more) = true) :
    beginsPhone (text ++ after) = true := by
  cases text with
  | nil => cases found
  | cons unit text =>
    obtain ⟨isDigit, later⟩ := Bool.and_eq_true_iff.1 found
    change ((List.takeWhile isPhoneUnit (text ++ 0x2026 :: more)).drop 9).any _ = true at later
    rw [takeWhile_mark (by decide)] at later
    obtain ⟨last, member, isLast⟩ := List.any_eq_true.1 later
    refine Bool.and_eq_true_iff.2 ⟨isDigit, List.any_eq_true.2 ⟨last, ?_, isLast⟩⟩
    exact ((takeWhile_isPrefix isPhoneUnit).drop 9).subset member

theorem afterGroup_mark :
    afterGroup (text ++ 0x2026 :: more) = (afterGroup text).map (· ++ 0x2026 :: more) := by
  unfold afterGroup
  dsimp only
  rw [takeWhile_mark (by decide)]
  split
  · rw [List.drop_append_of_le_length (List.takeWhile_prefix _).length_le, Option.map_some]
  · rfl

theorem afterGroup_append {unit : Nat} (found : afterGroup text = some (unit :: rest)) :
    afterGroup (text ++ after) = some (unit :: rest ++ after) := by
  unfold afterGroup at found ⊢
  dsimp only at found ⊢
  have taken : (text ++ after).takeWhile isDigitUnit = text.takeWhile isDigitUnit := by
    have short : (text.takeWhile isDigitUnit).length ≠ text.length := by
      intro same
      rw [same, List.drop_length] at found
      split at found
      · cases found
      · cases found
    rw [List.takeWhile_append, if_neg short]
  rw [taken]
  split at found
  next short =>
    rw [if_pos short, List.drop_append_of_le_length (List.takeWhile_prefix _).length_le,
      Option.some.inj found]
  · cases found

theorem afterDottedGroup_eq_some_iff :
    afterDottedGroup text = some rest ↔ afterGroup text = some (46 :: rest) := by
  unfold afterDottedGroup
  constructor
  · intro found
    split at found
    next group => rw [group, Option.some.inj found]
    · cases found
  · intro group
    rw [group]
    rfl

theorem afterDottedGroup_of_mark (found : afterDottedGroup (text ++ 0x2026 :: more) = some rest) :
    ∃ left, rest = left ++ 0x2026 :: more ∧ afterDottedGroup text = some left := by
  rw [afterDottedGroup_eq_some_iff, afterGroup_mark] at found
  obtain ⟨group, isGroup, isRest⟩ := Option.map_eq_some_iff.1 found
  cases group with
  | nil => exact absurd (List.cons.inj isRest).1 (by decide)
  | cons unit left =>
    obtain ⟨rfl, rfl⟩ := List.cons.inj isRest
    exact ⟨left, rfl, afterDottedGroup_eq_some_iff.2 isGroup⟩

theorem afterDottedGroup_append (found : afterDottedGroup text = some rest) :
    afterDottedGroup (text ++ after) = some (rest ++ after) :=
  afterDottedGroup_eq_some_iff.2 (afterGroup_append (afterDottedGroup_eq_some_iff.1 found))

theorem afterThreeGroups_of_mark (found : afterThreeGroups (text ++ 0x2026 :: more) = some rest) :
    ∃ left, rest = left ++ 0x2026 :: more ∧ afterThreeGroups text = some left := by
  obtain ⟨second, isSecond, isThird⟩ := Option.bind_eq_some_iff.1 found
  obtain ⟨first, isFirst, isSecond⟩ := Option.bind_eq_some_iff.1 isSecond
  obtain ⟨first, rfl, firstLeft⟩ := afterDottedGroup_of_mark isFirst
  obtain ⟨second, rfl, secondLeft⟩ := afterDottedGroup_of_mark isSecond
  obtain ⟨third, rfl, thirdLeft⟩ := afterDottedGroup_of_mark isThird
  refine ⟨third, rfl, ?_⟩
  rw [afterThreeGroups, firstLeft, Option.bind_some, secondLeft, Option.bind_some, thirdLeft]

theorem afterThreeGroups_append (found : afterThreeGroups text = some rest) :
    afterThreeGroups (text ++ after) = some (rest ++ after) := by
  obtain ⟨second, isSecond, isThird⟩ := Option.bind_eq_some_iff.1 found
  obtain ⟨first, isFirst, isSecond⟩ := Option.bind_eq_some_iff.1 isSecond
  rw [afterThreeGroups, afterDottedGroup_append isFirst, Option.bind_some,
    afterDottedGroup_append isSecond, Option.bind_some, afterDottedGroup_append isThird]

theorem beginsAddress_eq_true_iff :
    beginsAddress text = true ↔ ∃ last rest, afterThreeGroups text = some last ∧
      afterGroup last = some rest ∧ rest.head?.any isWordUnit = false := by
  unfold beginsAddress
  change (match afterThreeGroups text with | some _ => _ | none => _) = true ↔ _
  cases afterThreeGroups text with
  | none => simp
  | some last => cases group : afterGroup last <;> simp [group]

theorem isAddress_eq_true_iff :
    isAddress text = true ↔ ∃ last, afterThreeGroups text = some last ∧
      afterGroup last = some [] := by
  unfold isAddress
  cases afterThreeGroups text <;> simp

theorem beginsAddress_of_mark (found : beginsAddress (text ++ 0x2026 :: more) = true) :
    isAddress text = true ∨ beginsAddress (text ++ after) = true := by
  obtain ⟨last, rest, isLast, isGroup, notWord⟩ := beginsAddress_eq_true_iff.1 found
  obtain ⟨last, rfl, lastLeft⟩ := afterThreeGroups_of_mark isLast
  rw [afterGroup_mark] at isGroup
  obtain ⟨group, groupLeft, rfl⟩ := Option.map_eq_some_iff.1 isGroup
  cases group with
  | nil => exact .inl (isAddress_eq_true_iff.2 ⟨last, lastLeft, groupLeft⟩)
  | cons unit group =>
    exact .inr (beginsAddress_eq_true_iff.2
      ⟨_, _, afterThreeGroups_append lastLeft, afterGroup_append groupLeft, notWord⟩)

theorem beginsAddress_mark (ends : isAddress text = true) :
    beginsAddress (text ++ 0x2026 :: more) = true := by
  obtain ⟨last, isLast, isGroup⟩ := isAddress_eq_true_iff.1 ends
  have group : afterGroup (last ++ 0x2026 :: more) = some (0x2026 :: more) := by
    rw [afterGroup_mark, isGroup]
    rfl
  have boundary : isWordUnit 0x2026 = false := by decide
  exact beginsAddress_eq_true_iff.2 ⟨_, _, afterThreeGroups_append isLast, group, boundary⟩

theorem hasAddress_of_mark {inWord : Bool}
    (quiet : ∀ inWord, hasAddress inWord (0x2026 :: more) = false)
    (found : hasAddress inWord (text ++ 0x2026 :: more) = true) :
    endsInAddress inWord text = true ∨ hasAddress inWord (text ++ after) = true := by
  induction text generalizing inWord with
  | nil => exact absurd found (ne_true_of_eq_false (quiet inWord))
  | cons unit text ih =>
    rw [List.cons_append, hasAddress, Bool.or_eq_true, Bool.and_eq_true] at found ⊢
    rw [endsInAddress, Bool.or_eq_true, Bool.and_eq_true]
    obtain ⟨boundary, here⟩ | later := found
    · have ended : isAddress (unit :: text) = true ∨
          beginsAddress (unit :: (text ++ after)) = true := beginsAddress_of_mark here
      obtain ends | begins := ended
      · exact .inl (.inl ⟨boundary, ends⟩)
      · exact .inr (.inl ⟨boundary, begins⟩)
    · exact (ih later).imp .inr .inr

theorem hasAddress_mark {inWord : Bool} (ends : endsInAddress inWord text = true) :
    hasAddress inWord (text ++ 0x2026 :: more) = true := by
  induction text generalizing inWord with
  | nil => cases ends
  | cons unit text ih =>
    rw [endsInAddress, Bool.or_eq_true, Bool.and_eq_true] at ends
    rw [List.cons_append, hasAddress, Bool.or_eq_true, Bool.and_eq_true]
    exact ends.imp (fun here => ⟨here.1, beginsAddress_mark here.2⟩) ih

theorem leaks_truncated (quiet : leaks (text ++ after) = false) :
    leaks (text ++ unitsOf "…[truncated]") = false ↔ endsInAddress false text = false := by
  have isMark : unitsOf "…[truncated]" = 0x2026 :: unitsOf "[truncated]" := by decide
  obtain ⟨noSecret, noPii⟩ := Bool.or_eq_false_iff.1 quiet
  obtain ⟨noPhone, noAddress⟩ := Bool.or_eq_false_iff.1 noPii
  rw [isMark]
  constructor
  · intro stillQuiet
    refine eq_false_of_ne_true fun ends => ?_
    obtain ⟨-, noPii⟩ := Bool.or_eq_false_iff.1 stillQuiet
    exact absurd (hasAddress_mark ends) (ne_true_of_eq_false (Bool.or_eq_false_iff.1 noPii).2)
  · intro noEnd
    refine eq_false_of_ne_true fun found => ?_
    rw [leaks, Bool.or_eq_true, isPiiValue, Bool.or_eq_true] at found
    obtain secret | phone | address := found
    · exact absurd (isSecretValue_of_mark (by decide) secret) (ne_true_of_eq_false noSecret)
    · exact absurd (occurs_of_mark (fun _ => beginsPhone_of_mark) (by decide) phone)
        (ne_true_of_eq_false noPhone)
    · obtain ends | kept := hasAddress_of_mark (by decide) address
      · exact absurd ends (ne_true_of_eq_false noEnd)
      · exact absurd kept (ne_true_of_eq_false noAddress)

end

end Tamanor.Core
