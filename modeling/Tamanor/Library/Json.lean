import Mathlib.Data.List.Lex
import Mathlib.Data.List.Sort
import Tamanor.Library.Text

/-! JSON values over the numbers that their reader makes of a literal, induction over their
members, and their canonical text, in which the fields of an object are sorted by name. -/

set_option autoImplicit false

namespace Tamanor.Library

inductive Json (ν : Type) where
  | null
  | bool (value : Bool)
  | num (number : ν)
  | str (value : String)
  | arr (items : List (Json ν))
  | obj (fields : List (String × Json ν))

namespace Json

variable {ν : Type}

/-- A list or an object has a property if all of its members do. -/
@[elab_as_elim]
theorem members_induction {motive : Json ν → Prop} (null : motive .null)
    (bool : ∀ value, motive (.bool value)) (num : ∀ number, motive (.num number))
    (str : ∀ value, motive (.str value))
    (arr : ∀ items, (∀ item ∈ items, motive item) → motive (.arr items))
    (obj : ∀ fields, (∀ field ∈ fields, motive field.2) → motive (.obj fields))
    (value : Json ν) : motive value :=
  @Json.rec ν motive (fun items => ∀ item ∈ items, motive item)
    (fun fields => ∀ field ∈ fields, motive field.2) (fun field => motive field.2)
    null bool num str arr obj nofun (fun _ _ head tail => List.forall_mem_cons.mpr ⟨head, tail⟩)
    nofun (fun _ _ head tail => List.forall_mem_cons.mpr ⟨head, tail⟩) (fun _ _ own => own) value

/-- Read a field of an object. A value of any other kind has no fields. -/
def field? : Json ν → String → Option (Json ν)
  | .obj fields, name => fields.lookup name
  | _, _ => none

def asString? : Json ν → Option String
  | .str value => some value
  | _ => none

/-- A field that is left out of the object when it is undefined. -/
def optional (name : String) : Option (Json ν) → List (String × Json ν)
  | none => []
  | some value => [(name, value)]

mutual

/-- No object has a name twice. -/
def distinct : Json ν → Prop
  | .arr items => distinctItems items
  | .obj fields => (fields.map Prod.fst).Nodup ∧ distinctFields fields
  | _ => True

def distinctItems : List (Json ν) → Prop
  | [] => True
  | item :: rest => distinct item ∧ distinctItems rest

def distinctFields : List (String × Json ν) → Prop
  | [] => True
  | (_, value) :: rest => distinct value ∧ distinctFields rest

end

theorem distinctItems_iff {items : List (Json ν)} :
    distinctItems items ↔ ∀ item ∈ items, item.distinct := by
  induction items with
  | nil => simp [distinctItems]
  | cons item rest ih => rw [distinctItems, ih, List.forall_mem_cons]

theorem distinctFields_iff {fields : List (String × Json ν)} :
    distinctFields fields ↔ ∀ field ∈ fields, field.2.distinct := by
  induction fields with
  | nil => simp [distinctFields]
  | cons field rest ih => rw [distinctFields, ih, List.forall_mem_cons]

def escapeChar (char : Char) : Text :=
  match char.toNat with
  | 0x22 => ['\\', '"']
  | 0x5C => ['\\', '\\']
  | 0x08 => ['\\', 'b']
  | 0x0C => ['\\', 'f']
  | 0x0A => ['\\', 'n']
  | 0x0D => ['\\', 'r']
  | 0x09 => ['\\', 't']
  | code =>
    if code < 0x20 then
      ['\\', 'u', '0', '0', Nat.digitChar (code / 16), Nat.digitChar (code % 16)]
    else [char]

/-- `JSON.stringify` of a string without lone surrogates. -/
def quote (text : String) : Text := '"' :: (text.toList.flatMap escapeChar ++ ['"'])

/-- The order of `Array.prototype.sort` on strings. -/
def sortsBefore (first second : String) : Bool :=
  decide (Text.codeUnits first.toList ≤ Text.codeUnits second.toList)

mutual

def canonical (printNumber : ν → String) : Json ν → String
  | .null => "null"
  | .bool value => if value then "true" else "false"
  | .num number => printNumber number
  | .str value => String.ofList (quote value)
  | .arr items => "[" ++ ",".intercalate (canonicalItems printNumber items) ++ "]"
  | .obj fields =>
    let sorted := (canonicalFields printNumber fields).insertionSort fun first second =>
      sortsBefore first.1 second.1 = true
    "\x7b" ++ ",".intercalate (sorted.map fun field =>
      String.ofList (quote field.1) ++ ":" ++ field.2) ++ "\x7d"

def canonicalItems (printNumber : ν → String) : List (Json ν) → List String
  | [] => []
  | item :: rest => canonical printNumber item :: canonicalItems printNumber rest

def canonicalFields (printNumber : ν → String) : List (String × Json ν) → List (String × String)
  | [] => []
  | (name, value) :: rest =>
    (name, canonical printNumber value) :: canonicalFields printNumber rest

end

end Json

end Tamanor.Library
