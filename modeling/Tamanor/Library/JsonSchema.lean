import Tamanor.Library.Json
import Tamanor.Library.Table

/-! Objects with declared members: what a value must be to have them, and which names can occur
in such a value. -/

set_option autoImplicit false

namespace Tamanor.Library.Json

variable {ν : Type}

mutual

def keys : Json ν → List String
  | .arr items => itemKeys items
  | .obj fields => fieldKeys fields
  | _ => []

def itemKeys : List (Json ν) → List String
  | [] => []
  | item :: rest => keys item ++ itemKeys rest

def fieldKeys : List (String × Json ν) → List String
  | [] => []
  | (name, value) :: rest => name :: (keys value ++ fieldKeys rest)

end

variable {items : List (Json ν)} {fields : List (String × Json ν)} {name key : String}
  {value : Json ν}

theorem mem_itemKeys : key ∈ itemKeys items ↔ ∃ item ∈ items, key ∈ item.keys := by
  induction items with
  | nil => simp [itemKeys]
  | cons item rest ih => simp [itemKeys, ih]

theorem mem_fieldKeys :
    key ∈ fieldKeys fields ↔ ∃ field ∈ fields, key = field.1 ∨ key ∈ field.2.keys := by
  induction fields with
  | nil => simp [fieldKeys]
  | cons field rest ih => simp [fieldKeys, ih, or_assoc]

structure Member (ν : Type) where
  name : String
  required : Bool
  Allows : Json ν → Prop

/-- An object with the required members and with no others than those declared, each of a value
that it allows. -/
def Accepts (members : List (Member ν)) : Json ν → Prop
  | .obj fields =>
    (∀ field ∈ fields, ∃ member ∈ members, member.name = field.1 ∧ member.Allows field.2) ∧
      ∀ member ∈ members, member.required = true → member.name ∈ fields.map Prod.fst
  | _ => False

structure Member.Fits (member : Member ν) (object : Json ν) : Prop where
  given : member.required = true → (object.field? member.name).isSome = true
  allowed : ∀ value, object.field? member.name = some value → member.Allows value

variable {members : List (Member ν)}

theorem Member.fits_required {member : Member ν}
    (given : ∃ value, (Json.obj fields).field? member.name = some value ∧ member.Allows value) :
    member.Fits (.obj fields) := by
  obtain ⟨value, found, allows⟩ := given
  refine ⟨fun _ => by rw [found]; rfl, fun other isOther => ?_⟩
  obtain rfl := Option.some.inj (found.symm.trans isOther)
  exact allows

theorem lookup_isSome : (fields.lookup name).isSome = true ↔ name ∈ fields.map Prod.fst := by
  rw [← Option.ne_none_iff_isSome, Ne, List.lookup_eq_none_iff]
  simp only [bne_iff_ne, ne_eq, not_forall, not_not, List.mem_map]
  constructor
  · rintro ⟨field, member, same⟩
    exact ⟨field, member, same.symm⟩
  · rintro ⟨field, member, same⟩
    exact ⟨field, member, same.symm⟩

theorem accepts_iff (distinct : (fields.map Prod.fst).Nodup)
    (names : (members.map Member.name).Nodup) :
    Accepts members (.obj fields) ↔
      (∀ name ∈ fields.map Prod.fst, name ∈ members.map Member.name) ∧
        ∀ member ∈ members, member.Fits (.obj fields) := by
  constructor
  · intro accepts
    obtain ⟨declared, complete⟩ := accepts
    refine ⟨?_, fun member listed => ⟨fun required => ?_, fun value found => ?_⟩⟩
    · intro name occurs
      obtain ⟨field, isField, rfl⟩ := List.mem_map.1 occurs
      obtain ⟨member, listed, same, -⟩ := declared field isField
      exact List.mem_map.2 ⟨member, listed, same⟩
    · exact lookup_isSome.2 (complete member listed required)
    · obtain ⟨other, otherListed, same, allows⟩ :=
        declared _ ((Table.lookup_eq_some_iff distinct).1 found)
      obtain rfl := List.inj_on_of_nodup_map names otherListed listed same
      exact allows
  · intro fits
    obtain ⟨declared, allowed⟩ := fits
    refine ⟨fun field isField => ?_, fun member listed required => ?_⟩
    · obtain ⟨member, listed, same⟩ :=
        List.mem_map.1 (declared field.1 (List.mem_map_of_mem isField))
      refine ⟨member, listed, same, (allowed member listed).allowed field.2 ?_⟩
      rw [same]
      exact (Table.lookup_eq_some_iff distinct).2 isField
    · exact lookup_isSome.1 ((allowed member listed).given required)

theorem Accepts.mem_keys (accepts : Accepts members value) (occurs : key ∈ value.keys) :
    key ∈ members.map Member.name ∨
      ∃ member ∈ members, ∃ inner, member.Allows inner ∧ key ∈ inner.keys := by
  cases value with
  | obj fields =>
    obtain ⟨field, isField, inside⟩ := mem_fieldKeys.1 occurs
    obtain ⟨member, listed, same, allows⟩ := accepts.1 field isField
    rcases inside with rfl | inside
    · exact .inl (List.mem_map.2 ⟨member, listed, same⟩)
    · exact .inr ⟨member, listed, field.2, allows, inside⟩
  | _ => exact accepts.elim

def IsText (holds : String → Prop) (value : Json ν) : Prop := ∃ text, value = .str text ∧ holds text

def IsListOf (allows : Json ν → Prop) (value : Json ν) : Prop :=
  ∃ items, value = .arr items ∧ ∀ item ∈ items, allows item

theorem keys_of_isText {holds : String → Prop} (isText : IsText holds value) : value.keys = [] := by
  obtain ⟨text, rfl, -⟩ := isText
  rfl

theorem keys_of_isListOf {allows : Json ν → Prop} (leaf : ∀ item, allows item → item.keys = [])
    (isList : IsListOf allows value) : value.keys = [] := by
  obtain ⟨items, rfl, allowed⟩ := isList
  refine List.eq_nil_iff_forall_not_mem.2 fun key occurs => ?_
  obtain ⟨item, listed, inside⟩ := mem_itemKeys.1 occurs
  rw [leaf item (allowed item listed)] at inside
  cases inside

end Tamanor.Library.Json
