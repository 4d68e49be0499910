import Tamanor.Core.CyberbullyingRedaction

/-! Changes at the end of a path of a payload (`cyberbullying-redaction.ts`): payloads that differ
there only, and what a change does to them. -/

set_option autoImplicit false

namespace Tamanor.Core

open Library

abbrev Fields := List (String × JsonValue)

def alterField (change : JsonValue → Option JsonValue) (name : String) (fields : Fields) : Fields :=
  fields.filterMap fun entry =>
    if entry.1 = name then (change entry.2).map (Prod.mk entry.1) else some entry

def alterAt (change : JsonValue → Option JsonValue) :
    List (String × Bool) → JsonValue → JsonValue :=
  updateTargets (alterField change)

/-- What a change at the end of a path does to the field that the path begins with. -/
def descend (starred : Bool) (rest : List (String × Bool)) (change : JsonValue → Option JsonValue)
    (value : JsonValue) : Option JsonValue :=
  match starred, rest with
  | true, rest =>
    match value with
    | .arr items => some (.arr (items.map (alterAt change rest)))
    | other => some other
  | false, [] => change value
  | false, next :: rest => some (alterAt change (next :: rest) value)

theorem onField_eq (name : String) (change : JsonValue → JsonValue) (fields : Fields) :
    onField name change fields = alterField (some ∘ change) name fields := by
  induction fields with
  | nil => rfl
  | cons entry fields ih =>
    by_cases same : entry.1 = name <;>
      simpa [onField, alterField, same] using ih

theorem alterAt_cons (change : JsonValue → Option JsonValue) (name : String) (starred : Bool)
    (rest : List (String × Bool)) (fields : Fields) :
    alterAt change ((name, starred) :: rest) (.obj fields) =
      .obj (alterField (descend starred rest change) name fields) := by
  cases starred with
  | true =>
    rw [alterAt, updateTargets, onField_eq]
    congr 2
    funext value
    cases value <;> rfl
  | false =>
    cases rest with
    | nil => rfl
    | cons next rest =>
      rw [alterAt, updateTargets, onField_eq]
      · rfl
      · exact nofun

theorem alterAt_other {change : JsonValue → Option JsonValue} {path : List (String × Bool)}
    {value : JsonValue} (other : ∀ fields, value ≠ .obj fields) :
    alterAt change path value = value := by
  cases path with
  | nil => rfl
  | cons segment rest =>
    obtain ⟨name, starred⟩ := segment
    cases value with
    | obj fields => exact absurd rfl (other fields)
    | _ => cases starred <;> cases rest <;> rfl

/-! Payloads that differ at the end of a path. -/

def FieldsBy (name : String) (related : JsonValue → JsonValue → Prop) : Fields → Fields → Prop :=
  List.Forall₂ fun first second =>
    first.1 = second.1 ∧ if first.1 = name then related first.2 second.2 else first.2 = second.2

/-- The values in which a path ends are related, and everything else is the same. -/
def DifferAt (related : JsonValue → JsonValue → Prop) :
    List (String × Bool) → JsonValue → JsonValue → Prop
  | (name, true) :: rest, .obj first, .obj second =>
    FieldsBy name (fun value other =>
      match value, other with
      | .arr items, .arr others => List.Forall₂ (DifferAt related rest) items others
      | value, other => value = other) first second
  | [(name, false)], .obj first, .obj second => FieldsBy name related first second
  | (name, false) :: rest, .obj first, .obj second =>
    FieldsBy name (DifferAt related rest) first second
  | _, value, other => value = other

/-- The relation of the fields that a path begins with. -/
def Descends (starred : Bool) (rest : List (String × Bool))
    (related : JsonValue → JsonValue → Prop) (value other : JsonValue) : Prop :=
  match starred, rest with
  | true, rest =>
    match value, other with
    | .arr items, .arr others => List.Forall₂ (DifferAt related rest) items others
    | value, other => value = other
  | false, [] => related value other
  | false, next :: rest => DifferAt related (next :: rest) value other

variable {related later : JsonValue → JsonValue → Prop} {change : JsonValue → Option JsonValue}
  {name other : String} {starred : Bool} {rest path : List (String × Bool)}
  {first second : Fields} {value twin : JsonValue}

theorem differAt_obj : DifferAt related ((name, starred) :: rest) (.obj first) (.obj second) ↔
    FieldsBy name (Descends starred rest related) first second := by
  cases starred with
  | true => rw [DifferAt]; rfl
  | false =>
    cases rest with
    | nil => rw [DifferAt]; rfl
    | cons next rest =>
      rw [DifferAt]
      · rfl
      · exact nofun

theorem differAt_other (objects : ∀ first second, value = .obj first → twin ≠ .obj second) :
    DifferAt related path value twin ↔ value = twin := by
  cases path with
  | nil => simp [DifferAt]
  | cons segment rest =>
    obtain ⟨name, starred⟩ := segment
    cases value with
    | obj first =>
      cases twin with
      | obj second => exact absurd rfl (objects first second rfl)
      | _ => cases starred <;> cases rest <;> simp [DifferAt]
    | _ => cases starred <;> cases rest <;> simp [DifferAt]

theorem descends_items (descends : Descends true rest related value twin) :
    (∃ items others, value = .arr items ∧ twin = .arr others ∧
        List.Forall₂ (DifferAt related rest) items others) ∨
      value = twin ∧ ∀ items, value ≠ .arr items := by
  cases value with
  | arr items =>
    cases twin with
    | arr others => exact .inl ⟨items, others, rfl, rfl, descends⟩
    | _ => cases descends
  | _ => exact .inr ⟨descends, nofun⟩

theorem descends_other (other : ∀ items, value ≠ .arr items) :
    Descends true rest related value value := by
  cases value with
  | arr items => exact absurd rfl (other items)
  | _ => rfl

theorem descend_other (other : ∀ items, value ≠ .arr items) :
    descend true rest change value = some value := by
  cases value with
  | arr items => exact absurd rfl (other items)
  | _ => rfl

theorem FieldsBy.alterField {change' : JsonValue → Option JsonValue}
    (agree : ∀ value twin, related value twin → Option.Rel later (change value) (change' twin))
    (differ : FieldsBy name related first second) :
    FieldsBy name later (alterField change name first) (Core.alterField change' name second) := by
  induction differ with
  | nil => exact .nil
  | @cons entry twin first second here _ ih =>
    obtain ⟨names, values⟩ := here
    simp only [Core.alterField, List.filterMap_cons] at ih ⊢
    by_cases same : entry.1 = name
    · have twinSame : twin.1 = name := names.symm.trans same
      simp only [same, if_true] at values
      simp only [same, twinSame, if_true]
      have agreed := agree _ _ values
      revert agreed
      generalize change entry.2 = kept
      generalize change' twin.2 = twinKept
      rintro (kept | _)
      · exact .cons ⟨rfl, by simpa using kept⟩ ih
      · exact ih
    · have twinOther : twin.1 ≠ name := fun is => same (names.trans is)
      simp only [same, twinOther, if_false] at values ⊢
      exact .cons ⟨names, by simp [same, values]⟩ ih

theorem FieldsBy.alterField_other (apart : name ≠ other)
    (differ : FieldsBy name related first second) :
    FieldsBy name related (Core.alterField change other first)
      (Core.alterField change other second) := by
  induction differ with
  | nil => exact .nil
  | @cons entry twin first second here _ ih =>
    obtain ⟨names, values⟩ := here
    simp only [Core.alterField, List.filterMap_cons] at ih ⊢
    by_cases same : entry.1 = other
    · have different : entry.1 ≠ name := fun is => apart (is.symm.trans same)
      have twinSame : twin.1 = other := names.symm.trans same
      simp only [different, if_false] at values
      simp only [same, twinSame, if_true, values]
      cases change twin.2 with
      | none => exact ih
      | some kept =>
        refine .cons ⟨rfl, ?_⟩ ih
        simp [apart.symm]
    · have twinOther : twin.1 ≠ other := fun is => same (names.trans is)
      simp only [same, twinOther, if_false]
      exact .cons ⟨names, values⟩ ih

theorem fieldsBy_eq (same : ∀ value twin, related value twin → value = twin)
    (differ : FieldsBy name related first second) : first = second := by
  induction differ with
  | nil => rfl
  | @cons entry twin first second here _ ih =>
    obtain ⟨names, values⟩ := here
    have equal : entry.2 = twin.2 := by
      split at values
      · exact same _ _ values
      · exact values
    rw [ih, Prod.ext names equal]

theorem objects_or (value twin : JsonValue) :
    (∃ first second, value = .obj first ∧ twin = .obj second) ∨
      ∀ first second, value = .obj first → twin ≠ .obj second := by
  by_cases objects : ∃ first second, value = .obj first ∧ twin = .obj second
  · exact .inl objects
  · exact .inr fun first second is isTwin => objects ⟨first, second, is, isTwin⟩

theorem differAt_alterAt_other {others : List (String × Bool)}
    (objects : ∀ first second, value = .obj first → twin ≠ .obj second)
    (differ : DifferAt related path value twin) :
    DifferAt later path (alterAt change others value) (alterAt change others twin) := by
  obtain rfl := (differAt_other objects).1 differ
  have other : ∀ fields, value ≠ .obj fields := fun fields is => objects fields fields is is
  rw [alterAt_other other]
  exact (differAt_other objects).2 rfl

theorem descends_descend {others : List (String × Bool)}
    (inside : ∀ value twin, DifferAt related rest value twin →
      DifferAt later rest (alterAt change others value) (alterAt change others twin))
    (ends : (rest ≠ [] ∧ others ≠ []) ∨ (rest = [] ∧ others = [] ∧
      ∀ value twin, related value twin → Option.Rel later (change value) (change twin)))
    (descends : Descends starred rest related value twin) :
    Option.Rel (Descends starred rest later) (descend starred others change value)
      (descend starred others change twin) := by
  cases starred with
  | true =>
    obtain ⟨items, twins, rfl, rfl, both⟩ | ⟨rfl, other⟩ := descends_items descends
    · refine .some ?_
      exact List.forall₂_map_left_iff.2 (List.forall₂_map_right_iff.2
        (both.imp fun value twin differ => inside value twin differ))
    · rw [descend_other other]
      exact .some (descends_other other)
  | false =>
    obtain ⟨long, otherLong⟩ | ⟨rfl, rfl, agree⟩ := ends
    · obtain ⟨next, rest, rfl⟩ := List.exists_cons_of_ne_nil long
      obtain ⟨otherNext, others, rfl⟩ := List.exists_cons_of_ne_nil otherLong
      exact .some (inside _ _ descends)
    · exact agree _ _ descends

/-- By induction on the path: what the change makes of related values is related afterwards. -/
theorem DifferAt.alterAt
    (agree : ∀ value twin, related value twin → Option.Rel later (change value) (change twin))
    (differ : DifferAt related path value twin) :
    DifferAt later path (Core.alterAt change path value) (Core.alterAt change path twin) := by
  induction path generalizing value twin with
  | nil => exact differ
  | cons segment rest ih =>
    obtain ⟨name, starred⟩ := segment
    obtain ⟨first, second, rfl, rfl⟩ | objects := objects_or value twin
    · rw [alterAt_cons, alterAt_cons, differAt_obj]
      refine (differAt_obj.1 differ).alterField fun value twin descends => ?_
      refine descends_descend (fun value twin => ih) ?_ descends
      cases rest with
      | nil => exact .inr ⟨rfl, rfl, agree⟩
      | cons next rest => exact .inl ⟨nofun, nofun⟩
    · exact differAt_alterAt_other objects differ

def apart : List (String × Bool) → List (String × Bool) → Bool
  | (name, starred) :: rest, (other, otherStarred) :: others =>
    name != other ||
      starred == otherStarred && !rest.isEmpty && !others.isEmpty && apart rest others
  | _, _ => false

theorem apart_cons_self {others : List (String × Bool)} {otherStarred : Bool}
    (parts : apart ((name, starred) :: rest) ((name, otherStarred) :: others) = true) :
    starred = otherStarred ∧ rest ≠ [] ∧ others ≠ [] ∧ apart rest others = true := by
  simpa [apart, and_assoc] using parts

theorem DifferAt.alterAt_apart {others : List (String × Bool)} (parts : apart path others = true)
    (differ : DifferAt related path value twin) :
    DifferAt related path (Core.alterAt change others value) (Core.alterAt change others twin) := by
  induction path generalizing value twin others with
  | nil => cases parts
  | cons segment rest ih =>
    obtain ⟨name, starred⟩ := segment
    cases others with
    | nil => cases parts
    | cons segment others =>
      obtain ⟨other, otherStarred⟩ := segment
      obtain ⟨first, second, rfl, rfl⟩ | objects := objects_or value twin
      · rw [alterAt_cons, alterAt_cons, differAt_obj]
        have fields := differAt_obj.1 differ
        by_cases same : name = other
        · subst same
          obtain ⟨rfl, long, otherLong, below⟩ := apart_cons_self parts
          exact fields.alterField fun value twin =>
            descends_descend (fun value twin => ih below) (.inl ⟨long, otherLong⟩)
        · exact fields.alterField_other same
      · exact differAt_alterAt_other objects differ

theorem eq_of_differAt (differ : DifferAt Eq path value twin) : value = twin := by
  induction path generalizing value twin with
  | nil => exact differ
  | cons segment rest ih =>
    obtain ⟨name, starred⟩ := segment
    obtain ⟨first, second, rfl, rfl⟩ | objects := objects_or value twin
    · refine congrArg Json.obj (fieldsBy_eq (fun value twin descends => ?_)
        (differAt_obj.1 differ))
      cases starred with
      | true =>
        obtain ⟨items, twins, rfl, rfl, both⟩ | ⟨equal, -⟩ := descends_items descends
        · exact congrArg Json.arr
            (List.forall₂_eq_eq_eq ▸ both.imp fun value twin differ => ih differ)
        · exact equal
      | false =>
        cases rest with
        | nil => exact descends
        | cons next rest => exact ih descends
    · exact (differAt_other objects).1 differ

variable {change' : JsonValue → Option JsonValue} {others : List (String × Bool)} {fields : Fields}

theorem alterField_alterField :
    alterField change' name (alterField change name fields) =
      alterField (fun value => (change value).bind change') name fields := by
  unfold alterField
  rw [List.filterMap_filterMap]
  refine List.filterMap_congr fun entry _ => ?_
  by_cases same : entry.1 = name
  · cases kept : change entry.2 <;> simp [same, kept]
  · simp [same]

theorem alterField_comm (different : name ≠ other) :
    alterField change name (alterField change' other fields) =
      alterField change' other (alterField change name fields) := by
  unfold alterField
  rw [List.filterMap_filterMap, List.filterMap_filterMap]
  refine List.filterMap_congr fun entry _ => ?_
  by_cases same : entry.1 = name
  · have notOther : entry.1 ≠ other := fun is => different (same.symm.trans is)
    cases kept : change entry.2 <;> simp [same, different, kept]
  · by_cases sameOther : entry.1 = other
    · cases kept : change' entry.2 <;> simp [sameOther, different.symm, kept]
    · simp [same, sameOther]

theorem lookup_alterField_other (different : name ≠ other) :
    (alterField change name fields).lookup other = fields.lookup other := by
  induction fields with
  | nil => rfl
  | cons entry fields ih =>
    obtain ⟨key, value⟩ := entry
    simp only [alterField, List.filterMap_cons, List.lookup_cons] at ih ⊢
    by_cases same : key = name
    · have unequal : (other == name) = false := beq_eq_false_iff_ne.2 different.symm
      simp only [same, if_true]
      cases change value with
      | none => simpa only [Option.map_none, unequal] using ih
      | some kept => simpa only [Option.map_some, List.lookup_cons, unequal] using ih
    · simp only [same, if_false, List.lookup_cons, ih]

theorem alterAt_obj_or (value : JsonValue) :
    (∃ fields, value = .obj fields) ∨ ∀ fields, value ≠ .obj fields := by
  cases value with
  | obj fields => exact .inl ⟨fields, rfl⟩
  | _ => exact .inr nofun

theorem alterAt_alterAt :
    alterAt change' path (alterAt change path value) =
      alterAt (fun value => (change value).bind change') path value := by
  induction path generalizing value with
  | nil => rfl
  | cons segment rest ih =>
    obtain ⟨name, starred⟩ := segment
    obtain ⟨fields, rfl⟩ | other := alterAt_obj_or value
    · rw [alterAt_cons, alterAt_cons, alterAt_cons, alterField_alterField]
      congr 2
      funext value
      cases starred with
      | true =>
        cases value with
        | arr items => simp [descend, ih]
        | _ => rfl
      | false =>
        cases rest with
        | nil => rfl
        | cons next rest => exact congrArg some ih
    · rw [alterAt_other other, alterAt_other other, alterAt_other other]

theorem alterAt_comm (parts : apart path others = true) :
    alterAt change path (alterAt change' others value) =
      alterAt change' others (alterAt change path value) := by
  induction path generalizing value others with
  | nil => cases parts
  | cons segment rest ih =>
    obtain ⟨name, starred⟩ := segment
    cases others with
    | nil => cases parts
    | cons segment others =>
      obtain ⟨other, otherStarred⟩ := segment
      obtain ⟨fields, rfl⟩ | other := alterAt_obj_or value
      · rw [alterAt_cons, alterAt_cons, alterAt_cons, alterAt_cons]
        by_cases same : name = other
        · subst same
          obtain ⟨rfl, long, otherLong, below⟩ := apart_cons_self parts
          rw [alterField_alterField, alterField_alterField]
          congr 2
          funext value
          obtain ⟨next, rest, rfl⟩ := List.exists_cons_of_ne_nil long
          obtain ⟨otherNext, others, rfl⟩ := List.exists_cons_of_ne_nil otherLong
          cases starred with
          | true =>
            cases value with
            | arr items => simp [descend, ih below]
            | _ => rfl
          | false => exact congrArg some (ih below)
        · exact congrArg Json.obj (alterField_comm same)
      · rw [alterAt_other other, alterAt_other other, alterAt_other other]

theorem alterField_some : alterField some name fields = fields := by
  unfold alterField
  have kept : (fun entry : String × JsonValue =>
      if entry.1 = name then (some entry.2).map (Prod.mk entry.1) else some entry) = some := by
    funext entry
    split <;> rfl
  rw [kept, List.filterMap_some]

theorem alterAt_some : alterAt some path value = value := by
  induction path generalizing value with
  | nil => rfl
  | cons segment rest ih =>
    obtain ⟨name, starred⟩ := segment
    obtain ⟨fields, rfl⟩ | other := alterAt_obj_or value
    · have kept : descend starred rest some = some := by
        funext value
        cases starred with
        | true =>
          cases value with
          | arr items =>
            have same : alterAt some rest = id := funext fun value => ih
            simp [descend, same]
          | _ => rfl
        | false =>
          cases rest with
          | nil => rfl
          | cons next rest => exact congrArg some ih
      rw [alterAt_cons, kept, alterField_some]
    · exact alterAt_other other

def EveryTarget (property : JsonValue → Prop) (path : List (String × Bool)) (value : JsonValue) :
    Prop :=
  DifferAt (fun found twin => found = twin ∧ property found) path value value

/-- The values in which a path ends, below the field that it begins with. -/
def targetsBelow (starred : Bool) (rest : List (String × Bool)) (value : JsonValue) :
    List JsonValue :=
  match starred, rest with
  | true, rest =>
    match value with
    | .arr items => items.flatMap (targetValues rest)
    | _ => []
  | false, [] => [value]
  | false, next :: rest => targetValues (next :: rest) value

theorem targetsBelow_other (other : ∀ items, value ≠ .arr items) :
    targetsBelow true rest value = [] := by
  cases value with
  | arr items => exact absurd rfl (other items)
  | _ => rfl

theorem targetValues_cons :
    targetValues ((name, starred) :: rest) (.obj fields) =
      (fields.lookup name).elim [] (targetsBelow starred rest) := by
  cases found : fields.lookup name with
  | none =>
    cases starred <;> cases rest <;> simp [targetValues, Json.field?, found]
  | some value =>
    cases starred with
    | true => cases value <;> simp [targetValues, Json.field?, found, targetsBelow]
    | false => cases rest <;> simp [targetValues, Json.field?, found, targetsBelow]

theorem targetValues_other (other : ∀ fields, value ≠ .obj fields) :
    targetValues path value = [] := by
  cases path with
  | nil => rfl
  | cons segment rest =>
    obtain ⟨name, starred⟩ := segment
    cases value with
    | obj fields => exact absurd rfl (other fields)
    | _ => cases starred <;> cases rest <;> simp [targetValues, Json.field?]

theorem FieldsBy.lookup (differ : FieldsBy name related first second) :
    Option.Rel related (first.lookup name) (second.lookup name) := by
  induction differ with
  | nil => exact .none
  | @cons entry twin first second here _ ih =>
    obtain ⟨names, values⟩ := here
    rw [List.lookup_cons, List.lookup_cons, ← names]
    by_cases same : entry.1 = name
    · simp only [same, if_true] at values
      simpa [same] using Option.Rel.some values
    · have unequal : (name == entry.1) = false := beq_eq_false_iff_ne.2 (Ne.symm same)
      simpa only [unequal] using ih

theorem FieldsBy.lookup_other (different : name ≠ other)
    (differ : FieldsBy name related first second) : first.lookup other = second.lookup other := by
  induction differ with
  | nil => rfl
  | @cons entry twin first second here _ ih =>
    obtain ⟨names, values⟩ := here
    rw [List.lookup_cons, List.lookup_cons, ← names, ih]
    by_cases same : entry.1 = other
    · have notName : entry.1 ≠ name := fun is => different (is.symm.trans same)
      simp only [notName, if_false] at values
      rw [values]
    · have unequal : (other == entry.1) = false := beq_eq_false_iff_ne.2 (Ne.symm same)
      rw [unequal]

/-- By induction on the path: the values in which it ends are related one by one. -/
theorem DifferAt.targetValues (differ : DifferAt related path value twin) :
    List.Forall₂ related (targetValues path value) (Core.targetValues path twin) := by
  induction path generalizing value twin with
  | nil => exact .nil
  | cons segment rest ih =>
    obtain ⟨name, starred⟩ := segment
    obtain ⟨first, second, rfl, rfl⟩ | objects := objects_or value twin
    · rw [targetValues_cons, targetValues_cons]
      have found := (differAt_obj.1 differ).lookup
      revert found
      generalize first.lookup name = here
      generalize second.lookup name = there
      rintro (@⟨value, twin, descends⟩ | _)
      · cases starred with
        | true =>
          obtain ⟨items, twins, rfl, rfl, both⟩ | ⟨rfl, other⟩ := descends_items descends
          · exact List.rel_flatMap both fun _ _ => ih
          · rw [Option.elim_some, targetsBelow_other other]
            exact .nil
        | false =>
          cases rest with
          | nil => exact .cons descends .nil
          | cons next rest => exact ih descends
      · exact .nil
    · obtain rfl := (differAt_other objects).1 differ
      rw [targetValues_other fun fields is => objects fields fields is is]
      exact .nil

theorem DifferAt.targetValues_apart (parts : apart path others = true)
    (differ : DifferAt related path value twin) :
    Core.targetValues others value = Core.targetValues others twin := by
  induction path generalizing value twin others with
  | nil => cases parts
  | cons segment rest ih =>
    obtain ⟨name, starred⟩ := segment
    cases others with
    | nil => cases parts
    | cons segment others =>
      obtain ⟨other, otherStarred⟩ := segment
      obtain ⟨first, second, rfl, rfl⟩ | objects := objects_or value twin
      · rw [targetValues_cons, targetValues_cons]
        by_cases same : name = other
        · subst same
          obtain ⟨rfl, long, otherLong, below⟩ := apart_cons_self parts
          obtain ⟨next, rest, rfl⟩ := List.exists_cons_of_ne_nil long
          obtain ⟨otherNext, others, rfl⟩ := List.exists_cons_of_ne_nil otherLong
          have found := (differAt_obj.1 differ).lookup
          revert found
          generalize first.lookup name = here
          generalize second.lookup name = there
          rintro (@⟨value, twin, descends⟩ | _)
          · cases starred with
            | true =>
              obtain ⟨items, twins, rfl, rfl, both⟩ | ⟨rfl, -⟩ := descends_items descends
              · have equal := List.rel_flatMap both fun _ _ differ =>
                  List.forall₂_eq_eq_eq.symm ▸ ih below differ
                exact List.forall₂_eq_eq_eq ▸ equal
              · rfl
            | false => exact ih below descends
          · rfl
        · rw [(differAt_obj.1 differ).lookup_other same]
      · rw [(differAt_other objects).1 differ]

theorem EveryTarget.targetValues {property : JsonValue → Prop}
    (every : EveryTarget property path value) :
    ∀ found ∈ Core.targetValues path value, property found :=
  fun found isTarget => (List.forall₂_same.1 (DifferAt.targetValues every) found isTarget).2

end Tamanor.Core
