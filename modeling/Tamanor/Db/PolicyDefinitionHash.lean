import Tamanor.Core.ChildSafetyPolicyProperties
import Tamanor.Db.ChildSafetyPolicy

/-! The hash of a policy definition (`child-safety-policy.ts` of the db). It is taken of the value
that the caller hands over, and later again of the value that is read back from the column. -/

set_option autoImplicit false

namespace Tamanor.Db

open Library Tamanor.Core

/-- What is read back has the text, and the hash, of what was written. -/
structure SurvivesStorage (definition : JsValue) : Prop where
  text : definition.stableStringify = definition.roundTrip.map Json.stableStringify
  hash : ∀ sha256 : String → String,
    (definition.stableStringify.map fun text => sha256 (String.ofList text)) =
      definition.roundTrip.map (definitionHashOf sha256)

theorem survivesStorage_iff {definition : JsValue}
    (accepted : acceptsDefinition definition = true) :
    SurvivesStorage definition ↔ definition.written = true := by
  have known : definition ≠ .undefined := by
    rintro rfl
    cases accepted
  rw [← JsValue.stableStringify_roundTrip_iff known]
  refine ⟨SurvivesStorage.text, fun text => ⟨text, fun sha256 => ?_⟩⟩
  rw [text, Option.map_map]
  rfl

/-- A definition survives its storage just where no part of it is undefined, and the text of JSON
is equal just for values that are the same but for the order of their keys. -/
theorem definitionHash_iff (definition : JsValue)
    (accepted : acceptsDefinition definition = true) :
    (SurvivesStorage definition ↔ definition.written = true) ∧
      ∀ left right : JsonValue, left.finite = true → right.finite = true → left.distinct →
        right.distinct →
          (left.stableStringify = right.stableStringify ↔ left.sameUpToOrder right) :=
  ⟨survivesStorage_iff accepted, fun _ _ finite finiteOther distinct distinctOther =>
    Json.stableStringify_eq_iff finite finiteOther distinct distinctOther⟩

def existsDefinition (more : List (String × JsValue)) : JsValue :=
  .obj [("schemaVersion", .num schemaVersionNumber), ("purpose", .str "ESCALATION"),
    ("defaultEffect", .str "NO_ACTION"),
    ("rules", .arr [.obj
      [("id", .str "known"), ("priority", .num schemaVersionNumber), ("enabled", .bool true),
        ("explanationCode", .str "fact_known"),
        ("condition", .obj ([("field", .str "severity"), ("operator", .str "EXISTS")] ++ more)),
        ("effects", .arr [.obj [("type", .str "REQUIRE_REVIEW")]])]])]

theorem acceptsDefinition_of_roundTrip {definition : JsValue}
    (read : definition.roundTrip = some (existsPolicy "severity"))
    (payloads : ((itemsOf (memberOf definition "rules")).all fun rule =>
      (itemsOf (memberOf rule "effects")).all payloadWritten) = true) :
    acceptsDefinition definition = true := by
  rw [acceptsDefinition, read, payloads, Option.any_some, existsPolicy_facts.1]
  rfl

theorem definitionHash_existsDefinition : SurvivesStorage (existsDefinition []) :=
  (definitionHash_iff _ (acceptsDefinition_of_roundTrip rfl rfl)).1.2 rfl

/-- The value that is undefined is accepted and changes the hash. -/
theorem not_survivesStorage :
    ¬ ∀ definition, acceptsDefinition definition = true → SurvivesStorage definition := by
  intro all
  have accepted : acceptsDefinition (existsDefinition [("value", .undefined)]) = true :=
    acceptsDefinition_of_roundTrip rfl rfl
  cases (survivesStorage_iff accepted).mp (all _ accepted)

end Tamanor.Db
