import Mathlib.Tactic.IntervalCases
import Tamanor.Library.Json

/-! JSON values as JavaScript reads them, and the text that `JSON.stringify` prints of them. The
text tells the values apart whose numbers are finite. -/

set_option autoImplicit false

namespace Tamanor.Library

def isNumberChar (char : Char) : Bool :=
  char.isDigit || char == '+' || char == '-' || char == '.' || char == 'e'

/-- A finite number, by the text that it is printed as. -/
structure JsonNumber where
  text : Text
  nonempty : text ≠ []
  printed : text.all isNumberChar = true

/-- The number of a literal, which may be too large to be a finite one. -/
inductive JsNumber where
  | finite (number : JsonNumber)
  | infinite (negative : Bool)

instance : Coe JsonNumber JsNumber := ⟨.finite⟩

def JsNumber.print : JsNumber → Text
  | .finite number => number.text
  | .infinite _ => "null".toList

abbrev JsonValue := Json JsNumber

namespace Json

def comma (first : Bool) : Text := if first then [] else [',']

mutual

/-- `JSON.stringify`. -/
def print : JsonValue → Text
  | .null => "null".toList
  | .bool value => if value then "true".toList else "false".toList
  | .num number => number.print
  | .str value => quote value
  | .arr items => '[' :: printItems true items
  | .obj fields => '\x7b' :: printFields true fields

def printItems (first : Bool) : List JsonValue → Text
  | [] => [']']
  | item :: rest => comma first ++ (print item ++ printItems false rest)

def printFields (first : Bool) : List (String × JsonValue) → Text
  | [] => ['\x7d']
  | (name, value) :: rest =>
    comma first ++ (quote name ++ ':' :: (print value ++ printFields false rest))

end

mutual

def finite : JsonValue → Bool
  | .num (.infinite _) => false
  | .arr items => finiteItems items
  | .obj fields => finiteFields fields
  | _ => true

def finiteItems : List JsonValue → Bool
  | [] => true
  | item :: rest => finite item && finiteItems rest

def finiteFields : List (String × JsonValue) → Bool
  | [] => true
  | (_, value) :: rest => finite value && finiteFields rest

end

theorem finiteItems_iff {items : List JsonValue} :
    finiteItems items = true ↔ ∀ item ∈ items, item.finite = true := by
  induction items with
  | nil => simp [finiteItems]
  | cons item rest ih => rw [finiteItems, Bool.and_eq_true, ih, List.forall_mem_cons]

theorem finiteFields_iff {fields : List (String × JsonValue)} :
    finiteFields fields = true ↔ ∀ field ∈ fields, field.2.finite = true := by
  induction fields with
  | nil => simp [finiteFields]
  | cons field rest ih => rw [finiteFields, Bool.and_eq_true, ih, List.forall_mem_cons]

/-! A number that is not finite is printed as null. -/

mutual

def erase : JsonValue → JsonValue
  | .num (.infinite _) => .null
  | .arr items => .arr (eraseItems items)
  | .obj fields => .obj (eraseFields fields)
  | value => value

def eraseItems : List JsonValue → List JsonValue
  | [] => []
  | item :: rest => erase item :: eraseItems rest

def eraseFields : List (String × JsonValue) → List (String × JsonValue)
  | [] => []
  | (name, value) :: rest => (name, erase value) :: eraseFields rest

end

theorem eraseItems_eq (items : List JsonValue) : eraseItems items = items.map erase := by
  induction items with
  | nil => rfl
  | cons item rest ih => rw [eraseItems, ih, List.map_cons]

theorem eraseFields_eq (fields : List (String × JsonValue)) :
    eraseFields fields = fields.map fun field => (field.1, field.2.erase) := by
  induction fields with
  | nil => rfl
  | cons field rest ih => rw [eraseFields, ih, List.map_cons]

theorem finite_erase (value : JsonValue) : value.erase.finite = true := by
  induction value using members_induction with
  | num number => cases number <;> rfl
  | arr items ih =>
    rw [erase, eraseItems_eq]
    exact finiteItems_iff.mpr (List.forall_mem_map.mpr ih)
  | obj fields ih =>
    rw [erase, eraseFields_eq]
    exact finiteFields_iff.mpr (List.forall_mem_map.mpr ih)
  | _ => rfl

theorem printItems_eraseItems (first : Bool) {items : List JsonValue}
    (same : ∀ item ∈ items, item.erase.print = item.print) :
    printItems first (eraseItems items) = printItems first items := by
  induction items generalizing first with
  | nil => rfl
  | cons item rest ih =>
    obtain ⟨here, later⟩ := List.forall_mem_cons.mp same
    rw [eraseItems, printItems, printItems, here, ih false later]

theorem printFields_eraseFields (first : Bool) {fields : List (String × JsonValue)}
    (same : ∀ field ∈ fields, field.2.erase.print = field.2.print) :
    printFields first (eraseFields fields) = printFields first fields := by
  induction fields generalizing first with
  | nil => rfl
  | cons field rest ih =>
    obtain ⟨here, later⟩ := List.forall_mem_cons.mp same
    rw [eraseFields, printFields, printFields, here, ih false later]

theorem print_erase (value : JsonValue) : value.erase.print = value.print := by
  induction value using members_induction with
  | num number => cases number <;> rfl
  | arr items ih => exact congrArg ('[' :: ·) (printItems_eraseItems true ih)
  | obj fields ih => exact congrArg ('\x7b' :: ·) (printFields_eraseFields true ih)
  | _ => rfl

theorem erase_of_finite (value : JsonValue) (finite : value.finite = true) :
    value.erase = value := by
  induction value using members_induction with
  | num number =>
    cases number with
    | finite => rfl
    | infinite => cases finite
  | arr items ih =>
    have same (item : JsonValue) (member : item ∈ items) : item.erase = id item :=
      ih item member (finiteItems_iff.mp finite item member)
    rw [erase, eraseItems_eq, List.map_congr_left same, List.map_id]
  | obj fields ih =>
    have same (field : String × JsonValue) (member : field ∈ fields) :
        (field.1, field.2.erase) = id field :=
      Prod.ext rfl (ih field member (finiteFields_iff.mp finite field member))
    rw [erase, eraseFields_eq, List.map_congr_left same, List.map_id]
  | _ => rfl

theorem erase_erase (value : JsonValue) : value.erase.erase = value.erase :=
  erase_of_finite _ value.finite_erase

/-! The text of a string ends where its quote is closed. -/

def hexValue (char : Char) : Nat :=
  if char.isDigit then char.toNat - 48 else char.toNat - 87

def unmark : Char → Char
  | 'b' => '\x08'
  | 'f' => '\x0c'
  | 'n' => '\n'
  | 'r' => '\r'
  | 't' => '\t'
  | char => char

def unescape : Text → Option (Char × Text)
  | '\\' :: 'u' :: _ :: _ :: high :: low :: rest =>
    some (Char.ofNat (16 * hexValue high + hexValue low), rest)
  | '\\' :: mark :: rest => some (unmark mark, rest)
  | char :: rest => some (char, rest)
  | [] => none

def isEscaped (code : Nat) : Bool := decide (code < 0x20) || code == 0x22 || code == 0x5C

theorem escapeChar_plain {char : Char} (plain : isEscaped char.toNat = false) :
    escapeChar char = [char] := by
  simp only [isEscaped, Bool.or_eq_false_iff, decide_eq_false_iff_not, beq_eq_false_iff_ne] at plain
  unfold escapeChar
  split
  all_goals first | omega | (rw [if_neg plain.1.1])

theorem escapeChar_escaped {code : Nat} (escaped : isEscaped code = true) (rest : Text) :
    unescape (escapeChar (Char.ofNat code) ++ rest) = some (Char.ofNat code, rest) ∧
      (escapeChar (Char.ofNat code) ++ rest).head? = some '\\' := by
  have bounded : code < 0x5D := by
    simp only [isEscaped, Bool.or_eq_true, decide_eq_true_iff, beq_iff_eq] at escaped
    omega
  revert escaped
  interval_cases code
  all_goals first | (intro escaped; exact absurd escaped (by decide)) | (intro _; exact ⟨rfl, rfl⟩)

theorem unescape_escapeChar (char : Char) (rest : Text) :
    unescape (escapeChar char ++ rest) = some (char, rest) ∧
      (escapeChar char ++ rest).head? ≠ some '"' := by
  cases escaped : isEscaped char.toNat with
  | true =>
    have := escapeChar_escaped escaped rest
    rw [Char.ofNat_toNat] at this
    exact ⟨this.1, by rw [this.2]; decide⟩
  | false =>
    rw [escapeChar_plain escaped]
    constructor
    · have notBackslash : char ≠ '\\' := by
        rintro rfl
        cases escaped
      rw [List.singleton_append]
      unfold unescape
      split
      · next same => exact absurd (List.cons.inj same).1 notBackslash
      · next same => exact absurd (List.cons.inj same).1 notBackslash
      · next same =>
          obtain ⟨rfl, rfl⟩ := List.cons.inj same
          rfl
      · next same => cases same
    · intro same
      obtain rfl : char = '"' := Option.some.inj same
      cases escaped

theorem escaped_unambiguous {first second left right : Text}
    (same : first.flatMap escapeChar ++ '"' :: left =
      second.flatMap escapeChar ++ '"' :: right) : first = second ∧ left = right := by
  induction first generalizing second with
  | nil =>
    cases second with
    | nil => exact ⟨rfl, (List.cons.inj same).2⟩
    | cons char rest =>
      rw [List.flatMap_cons, List.append_assoc] at same
      exact absurd (congrArg List.head? same).symm (unescape_escapeChar char _).2
  | cons char rest ih =>
    cases second with
    | nil =>
      rw [List.flatMap_cons, List.append_assoc] at same
      exact absurd (congrArg List.head? same) (unescape_escapeChar char _).2
    | cons other others =>
      rw [List.flatMap_cons, List.append_assoc, List.flatMap_cons, List.append_assoc] at same
      have read := congrArg unescape same
      rw [(unescape_escapeChar char _).1, (unescape_escapeChar other _).1] at read
      obtain ⟨rfl, sameRest⟩ := Prod.mk.inj (Option.some.inj read)
      obtain ⟨rfl, sameAfter⟩ := ih sameRest
      exact ⟨rfl, sameAfter⟩

theorem quote_unambiguous {first second : String} {left right : Text}
    (same : quote first ++ left = quote second ++ right) : first = second ∧ left = right := by
  unfold quote at same
  rw [List.cons_append, List.cons_append, List.append_assoc, List.append_assoc] at same
  obtain ⟨sameText, sameAfter⟩ := escaped_unambiguous (List.cons.inj same).2
  exact ⟨String.toList_injective sameText, sameAfter⟩

/-! The text of a number ends where another character follows. -/

def Ends (rest : Text) : Prop := ∀ char ∈ rest.head?, isNumberChar char = false

theorem number_unambiguous {first second left right : Text}
    (firstPrinted : first.all isNumberChar = true) (secondPrinted : second.all isNumberChar = true)
    (leftEnds : Ends left) (rightEnds : Ends right) (same : first ++ left = second ++ right) :
    first = second ∧ left = right := by
  induction first generalizing second with
  | nil =>
    cases second with
    | nil => exact ⟨rfl, same⟩
    | cons char rest =>
      rw [List.nil_append, List.cons_append] at same
      rw [List.all_cons, Bool.and_eq_true] at secondPrinted
      have isHead : char ∈ left.head? := by
        rw [same]
        rfl
      exact absurd ((leftEnds char isHead).symm.trans secondPrinted.1) Bool.false_ne_true
  | cons char rest ih =>
    rw [List.all_cons, Bool.and_eq_true] at firstPrinted
    cases second with
    | nil =>
      rw [List.nil_append, List.cons_append] at same
      have isHead : char ∈ right.head? := by
        rw [← same]
        rfl
      exact absurd ((rightEnds char isHead).symm.trans firstPrinted.1) Bool.false_ne_true
    | cons other others =>
      rw [List.all_cons, Bool.and_eq_true] at secondPrinted
      obtain ⟨rfl, sameRest⟩ := List.cons.inj same
      obtain ⟨rfl, sameAfter⟩ := ih firstPrinted.2 secondPrinted.2 sameRest
      exact ⟨rfl, sameAfter⟩

/-! The first character tells the kind of a value. -/

inductive Kind where
  | null | bool | num | str | arr | obj

def Kind.ofChar : Char → Kind
  | 'n' => .null
  | 't' => .bool
  | 'f' => .bool
  | '"' => .str
  | '[' => .arr
  | '\x7b' => .obj
  | _ => .num

def kind : JsonValue → Kind
  | .null => .null
  | .bool _ => .bool
  | .num _ => .num
  | .str _ => .str
  | .arr _ => .arr
  | .obj _ => .obj

theorem ofChar_number {char : Char} (number : isNumberChar char = true) :
    Kind.ofChar char = .num := by
  unfold Kind.ofChar
  split
  all_goals first | rfl | cases number

variable {value other : JsonValue} {left right : Text}

theorem head_print (finite : value.finite = true) (rest : Text) :
    ∃ char ∈ (value.print ++ rest).head?, Kind.ofChar char = value.kind := by
  cases value with
  | bool value => cases value <;> exact ⟨_, rfl, rfl⟩
  | num number =>
    cases number with
    | infinite => cases finite
    | finite number =>
      obtain ⟨text, nonempty, printed⟩ := number
      cases text with
      | nil => exact absurd rfl nonempty
      | cons char others =>
        rw [List.all_cons, Bool.and_eq_true] at printed
        exact ⟨char, rfl, ofChar_number printed.1⟩
  | _ => exact ⟨_, rfl, rfl⟩

theorem kind_eq (finite : value.finite = true) (otherFinite : other.finite = true)
    (same : value.print ++ left = other.print ++ right) : value.kind = other.kind := by
  obtain ⟨char, isHead, isKind⟩ := head_print finite left
  obtain ⟨otherChar, isOther, isOtherKind⟩ := head_print otherFinite right
  rw [same] at isHead
  obtain rfl : char = otherChar := Option.some.inj (isHead.symm.trans isOther)
  exact isKind.symm.trans isOtherKind

theorem ends_printItems (items : List JsonValue) (rest : Text) :
    Ends (printItems false items ++ rest) := by
  intro char isHead
  cases items <;> · obtain rfl := Option.some.inj isHead; rfl

theorem ends_printFields (fields : List (String × JsonValue)) (rest : Text) :
    Ends (printFields false fields ++ rest) := by
  intro char isHead
  cases fields <;> · obtain rfl := Option.some.inj isHead; rfl

theorem bracket_ne_print (finite : value.finite = true) : ']' :: left ≠ value.print ++ right := by
  intro same
  obtain ⟨char, isHead, isKind⟩ := head_print finite right
  rw [← same] at isHead
  obtain rfl : ']' = char := Option.some.inj isHead
  cases value with
  | num number =>
    cases number with
    | infinite => cases finite
    | finite number =>
      obtain ⟨text, nonempty, printed⟩ := number
      cases text with
      | nil => exact nonempty rfl
      | cons first others =>
        obtain ⟨rfl, -⟩ := List.cons.inj same
        cases printed
  | _ => cases isKind

/-- Where the text of a finite value begins a text, no other finite value does. -/
def Unambiguous (value : JsonValue) : Prop :=
  ∀ other left right, value.finite = true → other.finite = true → Ends left → Ends right →
    value.print ++ left = other.print ++ right → value = other ∧ left = right

theorem printItems_unambiguous {first second : List JsonValue}
    (each : ∀ item ∈ first, item.Unambiguous) (begins : Bool)
    (firstFinite : finiteItems first = true) (secondFinite : finiteItems second = true)
    (same : printItems begins first ++ left = printItems begins second ++ right) :
    first = second ∧ left = right := by
  induction first generalizing second begins with
  | nil =>
    cases second with
    | nil => exact ⟨rfl, (List.cons.inj same).2⟩
    | cons item rest =>
      cases begins with
      | true =>
        rw [printItems, printItems, comma, if_pos rfl, List.nil_append, List.append_assoc]
          at same
        exact absurd same (bracket_ne_print (Bool.and_eq_true_iff.mp secondFinite).1)
      | false => cases (List.cons.inj same).1
  | cons item rest ih =>
    cases second with
    | nil =>
      cases begins with
      | true =>
        rw [printItems, printItems, comma, if_pos rfl, List.nil_append, List.append_assoc]
          at same
        exact absurd same.symm (bracket_ne_print (Bool.and_eq_true_iff.mp firstFinite).1)
      | false => cases (List.cons.inj same).1
    | cons other others =>
      obtain ⟨here, later⟩ := List.forall_mem_cons.mp each
      rw [finiteItems, Bool.and_eq_true] at firstFinite secondFinite
      rw [printItems, printItems, List.append_assoc, List.append_assoc, List.append_assoc,
        List.append_assoc] at same
      obtain ⟨rfl, sameAfter⟩ := here other _ _ firstFinite.1 secondFinite.1
        (ends_printItems rest left) (ends_printItems others right) (List.append_cancel_left same)
      obtain ⟨rfl, sameEnd⟩ := ih later false firstFinite.2 secondFinite.2 sameAfter
      exact ⟨rfl, sameEnd⟩

theorem printFields_unambiguous {first second : List (String × JsonValue)}
    (each : ∀ field ∈ first, field.2.Unambiguous) (begins : Bool)
    (firstFinite : finiteFields first = true) (secondFinite : finiteFields second = true)
    (same : printFields begins first ++ left = printFields begins second ++ right) :
    first = second ∧ left = right := by
  induction first generalizing second begins with
  | nil =>
    cases second with
    | nil => exact ⟨rfl, (List.cons.inj same).2⟩
    | cons => cases begins <;> cases (List.cons.inj same).1
  | cons field rest ih =>
    obtain ⟨name, value⟩ := field
    cases second with
    | nil => cases begins <;> cases (List.cons.inj same).1
    | cons otherField others =>
      obtain ⟨otherName, other⟩ := otherField
      obtain ⟨here, later⟩ := List.forall_mem_cons.mp each
      rw [finiteFields, Bool.and_eq_true] at firstFinite secondFinite
      rw [printFields, printFields, List.append_assoc, List.append_assoc, List.append_assoc,
        List.append_assoc] at same
      obtain ⟨rfl, sameAfter⟩ := quote_unambiguous (List.append_cancel_left same)
      rw [List.cons_append, List.cons_append, List.append_assoc, List.append_assoc] at sameAfter
      obtain ⟨rfl, sameRest⟩ := here other _ _ firstFinite.1 secondFinite.1
        (ends_printFields rest left) (ends_printFields others right) (List.cons.inj sameAfter).2
      obtain ⟨rfl, sameEnd⟩ := ih later false firstFinite.2 secondFinite.2 sameRest
      exact ⟨rfl, sameEnd⟩

theorem print_unambiguous (value : JsonValue) : value.Unambiguous := by
  induction value using members_induction with
  | null =>
    intro other left right finite otherFinite _ _ same
    have sameKind := kind_eq finite otherFinite same
    cases other with
    | null => exact ⟨rfl, List.append_cancel_left same⟩
    | _ => cases sameKind
  | bool value =>
    intro other left right finite otherFinite _ _ same
    have sameKind := kind_eq finite otherFinite same
    cases other with
    | bool other =>
      cases value <;> cases other
      · exact ⟨rfl, List.append_cancel_left same⟩
      · cases (List.cons.inj same).1
      · cases (List.cons.inj same).1
      · exact ⟨rfl, List.append_cancel_left same⟩
    | _ => cases sameKind
  | num number =>
    intro other left right finite otherFinite leftEnds rightEnds same
    have sameKind := kind_eq finite otherFinite same
    cases other with
    | num other =>
      cases number with
      | infinite => cases finite
      | finite number =>
        cases other with
        | infinite => cases otherFinite
        | finite other =>
          obtain ⟨text, _, printed⟩ := number
          obtain ⟨otherText, _, otherPrinted⟩ := other
          obtain ⟨rfl, sameAfter⟩ := number_unambiguous printed otherPrinted leftEnds rightEnds same
          exact ⟨rfl, sameAfter⟩
    | _ => cases sameKind
  | str value =>
    intro other left right finite otherFinite _ _ same
    have sameKind := kind_eq finite otherFinite same
    cases other with
    | str other =>
      obtain ⟨rfl, sameAfter⟩ := quote_unambiguous same
      exact ⟨rfl, sameAfter⟩
    | _ => cases sameKind
  | arr items ih =>
    intro other left right finite otherFinite _ _ same
    have sameKind := kind_eq finite otherFinite same
    cases other with
    | arr others =>
      obtain ⟨rfl, sameAfter⟩ :=
        printItems_unambiguous ih true finite otherFinite (List.cons.inj same).2
      exact ⟨rfl, sameAfter⟩
    | _ => cases sameKind
  | obj fields ih =>
    intro other left right finite otherFinite _ _ same
    have sameKind := kind_eq finite otherFinite same
    cases other with
    | obj others =>
      obtain ⟨rfl, sameAfter⟩ :=
        printFields_unambiguous ih true finite otherFinite (List.cons.inj same).2
      exact ⟨rfl, sameAfter⟩
    | _ => cases sameKind

theorem erase_eq_of_print (same : value.print = other.print) : value.erase = other.erase := by
  have ends : Ends [] := fun _ absent => by cases absent
  exact (print_unambiguous value.erase other.erase [] [] value.finite_erase other.finite_erase
    ends ends (by rw [print_erase, print_erase, same])).1

end Json

end Tamanor.Library
