import Tamanor.Core.CyberbullyingComplianceProperties
import Tamanor.Core.CyberbullyingRedaction

/-! A redaction, and an assignment to a field of a section, leave a payload that may be stored: its
numbers are finite, and no object has two fields of one name. -/

set_option autoImplicit false

namespace Tamanor.Core

open Library

variable {name : String} {value : JsonValue} {fields : List (String × JsonValue)}

def Clean (value : JsonValue) : Prop := value.finite = true ∧ value.distinct

def CleanFields (fields : List (String × JsonValue)) : Prop :=
  (fields.map Prod.fst).Nodup ∧ ∀ field ∈ fields, Clean field.2

theorem clean_obj : Clean (.obj fields) ↔ CleanFields fields := by
  unfold Clean CleanFields
  rw [Json.finite, Json.finiteFields_iff, Json.distinct, Json.distinctFields_iff, and_left_comm,
    ← forall₂_and]
  exact Iff.rfl

theorem clean_arr {items : List JsonValue} : Clean (.arr items) ↔ ∀ item ∈ items, Clean item := by
  unfold Clean
  rw [Json.finite, Json.finiteItems_iff, Json.distinct, Json.distinctItems_iff, ← forall₂_and]

theorem clean_str (text : String) : Clean (.str text) := ⟨rfl, trivial⟩

theorem clean_textOrNull (text : Option String) : Clean (textOrNull text) := by
  cases text <;> exact ⟨rfl, trivial⟩

theorem names_onField (change : JsonValue → JsonValue) :
    (onField name change fields).map Prod.fst = fields.map Prod.fst := by
  unfold onField
  rw [List.map_map]
  refine List.map_congr_left fun field _ => ?_
  dsimp only [Function.comp_apply]
  split <;> rfl

theorem clean_onField {change : JsonValue → JsonValue} (clean : CleanFields fields)
    (kept : ∀ value, Clean value → Clean (change value)) :
    CleanFields (onField name change fields) := by
  obtain ⟨different, values⟩ := clean
  refine ⟨(names_onField change).symm ▸ different, ?_⟩
  intro field member
  obtain ⟨before, isField, rfl⟩ := List.mem_map.mp member
  split
  · exact kept before.2 (values before isField)
  · exact values before isField

theorem clean_setField (clean : CleanFields fields) (cleanValue : Clean value) :
    CleanFields (setField name value fields) := by
  unfold setField
  split
  · exact clean_onField clean fun _ _ => cleanValue
  next absent =>
    obtain ⟨different, values⟩ := clean
    constructor
    · rw [List.map_append, List.map_singleton]
      refine different.append (List.nodup_singleton _) ?_
      intro other isName isNew
      rw [List.mem_singleton] at isNew
      obtain ⟨field, isField, same⟩ := List.mem_map.mp isName
      exact absent (List.any_eq_true.mpr ⟨field, isField, by simp [same, isNew]⟩)
    · intro field member
      rcases List.mem_append.mp member with isOld | isNew
      · exact values field isOld
      · rw [List.mem_singleton.mp isNew]
        exact cleanValue

/-- By induction on the path. -/
theorem clean_updateTargets
    {update : String → List (String × JsonValue) → List (String × JsonValue)}
    (kept : ∀ name fields, CleanFields fields → CleanFields (update name fields))
    (path : List (String × Bool)) (value : JsonValue) (clean : Clean value) :
    Clean (updateTargets update path value) := by
  induction path generalizing value with
  | nil => exact clean
  | cons segment rest ih =>
    obtain ⟨name, starred⟩ := segment
    cases value with
    | obj fields =>
      have cleanFields := clean_obj.mp clean
      cases starred with
      | true =>
        rw [updateTargets]
        refine clean_obj.mpr (clean_onField cleanFields ?_)
        intro found cleanFound
        cases found with
        | arr items =>
          refine clean_arr.mpr ?_
          intro item member
          obtain ⟨before, isItem, rfl⟩ := List.mem_map.mp member
          exact ih before (clean_arr.mp cleanFound before isItem)
        | _ => exact cleanFound
      | false =>
        cases rest with
        | nil => exact clean_obj.mpr (kept name fields cleanFields)
        | cons next behind => exact clean_obj.mpr (clean_onField cleanFields ih)
    | _ => cases starred <;> cases rest <;> exact clean

theorem clean_redactFields (rule : RedactionRuleSpec) (field : RedactableField) (name : String)
    (fields : List (String × JsonValue)) (clean : CleanFields fields) :
    CleanFields (redactFields rule field name fields) := by
  unfold redactFields
  split
  · split
    · exact clean
    · exact ⟨clean.1.sublist (List.filter_sublist.map _),
        fun entry member => clean.2 entry (List.mem_of_mem_filter member)⟩
  · refine clean_onField clean ?_
    intro value cleanValue
    unfold redactValue
    split
    · exact clean_str _
    split
    · exact clean_str _
    · exact cleanValue

theorem clean_applyRule (payload : JsonValue) (rule : RedactionRuleSpec) (clean : Clean payload) :
    Clean (applyRule payload rule) := by
  unfold applyRule
  split
  · exact clean
  · exact clean_updateTargets (clean_redactFields rule _) _ _ clean

theorem omissionNames : ["path", "reason"].Nodup := by decide

theorem clean_addOmissions (paths : List String) (payload : JsonValue) (clean : Clean payload) :
    Clean (addOmissions paths payload) := by
  cases payload with
  | obj fields =>
    have cleanFields := clean_obj.mp clean
    refine clean_obj.mpr (clean_setField cleanFields (clean_arr.mpr ?_))
    intro item member
    rcases List.mem_append.mp member with isOld | isNew
    · split at isOld
      next items found =>
        exact clean_arr.mp (cleanFields.2 _ (Json.mem_of_lookup found)) item isOld
      · cases isOld
    · obtain ⟨path, _, rfl⟩ := List.mem_map.mp isNew
      exact clean_obj.mpr ⟨omissionNames, by simp [clean_str]⟩
  | _ => exact clean

theorem clean_applyComplianceRedactions {source : JsonValue} (rules : List RedactionRuleSpec)
    (clean : Clean source) : Clean (applyComplianceRedactions source rules) := by
  unfold applyComplianceRedactions
  refine clean_addOmissions _ _ ?_
  induction inOrder rules generalizing source with
  | nil => exact clean
  | cons rule rest ih => exact ih (clean_applyRule source rule clean)

theorem clean_assignIn {sectionName : String} {payload assigned : JsonValue}
    (assigns : assignIn sectionName name value payload = some assigned) (clean : Clean payload)
    (cleanValue : Clean value) : Clean assigned := by
  cases payload with
  | obj fields =>
    have cleanFields := clean_obj.mp clean
    rw [assignIn] at assigns
    split at assigns
    next inner found =>
      obtain rfl := Option.some.inj assigns
      have cleanInner := clean_obj.mp (cleanFields.2 _ (Json.mem_of_lookup found))
      exact clean_obj.mpr (clean_setField cleanFields
        (clean_obj.mpr (clean_setField cleanInner cleanValue)))
    next items found =>
      obtain rfl := Option.some.inj assigns
      exact clean_obj.mpr (clean_setField cleanFields (cleanFields.2 _ (Json.mem_of_lookup found)))
    · cases assigns
  | _ => cases assigns

theorem clean_column (clean : Clean value) : Clean value.column :=
  ⟨value.finite_column, value.distinct_column clean.2⟩

end Tamanor.Core
