import Tamanor.Db.FamilyNotificationOutbox
import Tamanor.Library.Text

/-! The dedupe key of an outbox event (`family-notification-outbox.ts`). The escaping of a part does
not escape its own backslashes; it is the shape of the parts in the middle that keeps the key from
being read in two ways. -/

set_option autoImplicit false

namespace Tamanor.Db

open Library

def EnqueueableOutboxType.value : EnqueueableOutboxType → String
  | .deliveryAvailable => "family_delivery_available"
  | .deliveryAcknowledged => "family_delivery_acknowledged"
  | .deliveryDeclined => "family_delivery_declined"
  | .guardianInvitationAccepted => "family_guardian_invitation_accepted"
  | .authorityChanged => "family_authority_changed"
  | .recipientAuthorizationChanged => "family_recipient_authorization_changed"
  | .signalAvailable => "family_signal_available"
  | .urgentSignal => "family_urgent_signal"
  | .incidentCreated => "family_incident_created"
  | .incidentEscalated => "family_incident_escalated"
  | .protectionPlanUpdated => "family_protection_plan_updated"
  | .guardianInvitationExpiring => "family_guardian_invitation_expiring"
  | .consentExpiring => "family_consent_expiring"

structure OutboxKeyParts where
  tenantId : String
  notificationType : String
  sourceType : String
  sourceId : String
  eventVersion : String

/-- `replace(/\|/g, "\\|")`. -/
def escapeDelimiter (part : Text) : Text :=
  part.flatMap fun char => if char = '|' then ['\\', '|'] else [char]

def OutboxKeyParts.canonical (parts : OutboxKeyParts) : Text :=
  ['|'].intercalate ([parts.tenantId, parts.notificationType, parts.sourceType, parts.sourceId,
    parts.eventVersion].map fun part => escapeDelimiter part.toList)

def OutboxKeyParts.of (tenantId : String) (type : EnqueueableOutboxType)
    (sourceId eventVersion : String) : OutboxKeyParts :=
  ⟨tenantId, type.value, (outboxTypeSource type).1, sourceId, eventVersion⟩

variable {part other : Text}

theorem escapeDelimiter_cons (char : Char) (rest : Text) :
    escapeDelimiter (char :: rest) =
      (if char = '|' then ['\\', '|'] else [char]) ++ escapeDelimiter rest := rfl

theorem escapeDelimiter_of_clean (clean : '|' ∉ part) : escapeDelimiter part = part := by
  induction part with
  | nil => rfl
  | cons char rest ih =>
    obtain ⟨different, cleanRest⟩ := not_or.1 (fun is => clean (List.mem_cons.2 is))
    rw [escapeDelimiter_cons, if_neg (Ne.symm different), ih cleanRest, List.singleton_append]

theorem escapeDelimiter_ne_delimiter (rest : Text) : escapeDelimiter part ≠ '|' :: rest := by
  cases part with
  | nil => exact nofun
  | cons char part =>
    rw [escapeDelimiter_cons]
    split
    · simp
    next different => simp [different]

/-- By induction on both parts; an escaped one begins with no delimiter. -/
theorem escapeDelimiter_injective : Function.Injective escapeDelimiter := by
  intro part
  induction part with
  | nil =>
    intro other same
    cases other with
    | nil => rfl
    | cons char other =>
      rw [escapeDelimiter_cons] at same
      split at same <;> cases same
  | cons char part ih =>
    intro other same
    cases other with
    | nil =>
      rw [escapeDelimiter_cons] at same
      split at same <;> cases same
    | cons otherChar other =>
      rw [escapeDelimiter_cons, escapeDelimiter_cons] at same
      split at same <;> split at same <;>
        simp only [List.cons_append, List.nil_append, List.cons.injEq] at same
      next isDelimiter otherIs => rw [isDelimiter, otherIs, ih same.2.2]
      next => exact absurd same.2.symm (escapeDelimiter_ne_delimiter _)
      next => exact absurd same.2 (escapeDelimiter_ne_delimiter _)
      next => rw [same.1, ih same.2]

theorem escapeDelimiter_quiet {before after : Text}
    (cut : escapeDelimiter part = before ++ '|' :: after) : before.getLast? = some '\\' := by
  induction part generalizing before with
  | nil => simp [escapeDelimiter] at cut
  | cons char part ih =>
    rw [escapeDelimiter_cons] at cut
    split at cut
    · match before, cut with
      | [], cut => simp at cut
      | [only], cut => simp [← (List.cons.inj cut).1]
      | _ :: second :: before, cut =>
        have later := ih (List.cons.inj (List.cons.inj cut).2).2
        cases before with
        | nil => cases later
        | cons third before => simpa using later
    next different =>
      match before, cut with
      | [], cut => exact absurd (List.cons.inj cut).1 different
      | _ :: before, cut =>
        have later := ih (List.cons.inj cut).2
        cases before with
        | nil => cases later
        | cons second before => simpa using later

/-! Fronts that end where they end in any reading. -/

/-- All delimiters stand behind a backslash, and the next one would not. -/
structure Front (text : Text) : Prop where
  quiet : ∀ {before after}, text = before ++ '|' :: after → before.getLast? = some '\\'
  ends : text.getLast? ≠ some '\\'

theorem Front.unique {first second left right : Text} (front : Front first)
    (otherFront : Front second) (same : first ++ '|' :: left = second ++ '|' :: right) :
    first = second ∧ left = right :=
  Text.cut_unique (fun _ is => front.ends (otherFront.quiet is))
    (fun _ is => otherFront.ends (front.quiet is)) same

theorem front_append_type {typeName : Text} (clean : '|' ∉ typeName)
    (ends : typeName.getLast? ≠ some '\\') (nonempty : typeName ≠ [])
    (escapes : (escapeDelimiter part).getLast? = some '\\') :
    Front (escapeDelimiter part ++ '|' :: typeName) where
  quiet := by
    intro before after cut
    obtain ⟨more, isBefore, rest⟩ | ⟨more, isPart, rest⟩ := List.append_eq_append_iff.1 cut
    · cases more with
      | nil => simpa [isBefore] using escapes
      | cons char more =>
        refine absurd ?_ clean
        simp [(List.cons.inj rest).2]
    · cases more with
      | nil => simpa [isPart] using escapes
      | cons char more =>
        obtain ⟨rfl, -⟩ := List.cons.inj rest
        exact escapeDelimiter_quiet isPart
  ends := by
    rwa [List.getLast?_append_of_ne_nil _ (List.cons_ne_nil _ _), List.getLast?_cons,
      List.getLast?_eq_getLast_of_ne_nil nonempty, Option.getD_some,
      ← List.getLast?_eq_getLast_of_ne_nil nonempty]

variable (type otherType : EnqueueableOutboxType)

theorem value_clean : '|' ∉ type.value.toList := by cases type <;> decide

theorem value_ends : type.value.toList.getLast? ≠ some '\\' := by cases type <;> decide

theorem value_nonempty : type.value.toList ≠ [] := by cases type <;> decide

theorem source_clean : '|' ∉ (outboxTypeSource type).1.toList := by cases type <;> decide

theorem value_injective (same : type.value = otherType.value) : type = otherType := by
  revert same
  cases type <;> cases otherType <;> decide

theorem value_ne_source : type.value ≠ (outboxTypeSource otherType).1 := by
  cases type <;> cases otherType <;> decide

variable {type otherType} {tenantId otherTenant sourceId otherSource version otherVersion : String}

section

variable (valid : isEventVersion version = true)
include valid

theorem version_clean : '|' ∉ version.toList := by
  unfold isEventVersion at valid
  rw [Bool.and_eq_true, Bool.and_eq_true, List.all_eq_true] at valid
  exact fun member => absurd (valid.1.1 _ member) (by decide)

theorem canonical_of :
    (OutboxKeyParts.of tenantId type sourceId version).canonical =
      escapeDelimiter tenantId.toList ++ '|' :: (type.value.toList ++ '|' ::
        ((outboxTypeSource type).1.toList ++ '|' ::
          (escapeDelimiter sourceId.toList ++ '|' :: version.toList))) := by
  simp only [OutboxKeyParts.canonical, OutboxKeyParts.of, List.map_cons, List.map_nil,
    escapeDelimiter_of_clean (value_clean type), escapeDelimiter_of_clean (source_clean type),
    escapeDelimiter_of_clean (version_clean valid)]
  simp [List.intercalate]

theorem behind_type (otherValid : isEventVersion otherVersion = true)
    (same : (outboxTypeSource type).1.toList ++ '|' ::
        (escapeDelimiter sourceId.toList ++ '|' :: version.toList) =
      (outboxTypeSource otherType).1.toList ++ '|' ::
        (escapeDelimiter otherSource.toList ++ '|' :: otherVersion.toList)) :
    sourceId = otherSource ∧ version = otherVersion := by
  obtain ⟨-, tails⟩ := Text.separator_append_inj (source_clean type) (source_clean otherType) same
  obtain ⟨sources, versions⟩ :=
    Text.append_separator_inj (version_clean valid) (version_clean otherValid) tails
  exact ⟨String.toList_injective (escapeDelimiter_injective sources),
    String.toList_injective versions⟩

end

/-- The type of one text is not the source type of another, so that a tenant id that ends in a
backslash does not let the readings slip against each other. -/
theorem no_slip (ends : (escapeDelimiter tenantId.toList).getLast? ≠ some '\\')
    (slips : (escapeDelimiter otherTenant.toList).getLast? = some '\\') {left right : Text} :
    escapeDelimiter tenantId.toList ++ '|' :: (type.value.toList ++ '|' :: left) ≠
      escapeDelimiter otherTenant.toList ++ '|' :: (otherType.value.toList ++ '|' ::
        ((outboxTypeSource otherType).1.toList ++ '|' :: right)) := by
  intro same
  have front := front_append_type (value_clean otherType) (value_ends otherType)
    (value_nonempty otherType) slips
  have plain : Front (escapeDelimiter tenantId.toList) := ⟨escapeDelimiter_quiet, ends⟩
  rw [← List.cons_append, ← List.append_assoc] at same
  obtain ⟨-, tails⟩ := plain.unique front (by simpa using same)
  obtain ⟨names, -⟩ := Text.separator_append_inj (value_clean type) (source_clean otherType) tails
  exact value_ne_source type otherType (String.toList_injective names)

theorem canonical_of_injective (valid : isEventVersion version = true)
    (otherValid : isEventVersion otherVersion = true)
    (same : (OutboxKeyParts.of tenantId type sourceId version).canonical =
      (OutboxKeyParts.of otherTenant otherType otherSource otherVersion).canonical) :
    tenantId = otherTenant ∧ type = otherType ∧ sourceId = otherSource ∧
      version = otherVersion := by
  rw [canonical_of valid, canonical_of otherValid] at same
  by_cases slips : (escapeDelimiter tenantId.toList).getLast? = some '\\' <;>
    by_cases otherSlips : (escapeDelimiter otherTenant.toList).getLast? = some '\\'
  · have front := front_append_type (value_clean type) (value_ends type)
      (value_nonempty type) slips
    have otherFront := front_append_type (value_clean otherType) (value_ends otherType)
      (value_nonempty otherType) otherSlips
    obtain ⟨heads, tails⟩ := front.unique otherFront (by simpa using same)
    obtain ⟨tenants, types⟩ :=
      Text.append_separator_inj (value_clean type) (value_clean otherType) heads
    obtain rfl := value_injective type otherType (String.toList_injective types)
    exact ⟨String.toList_injective (escapeDelimiter_injective tenants), rfl,
      behind_type valid otherValid tails⟩
  · exact absurd same.symm (no_slip otherSlips slips)
  · exact absurd same (no_slip slips otherSlips)
  · have front : Front (escapeDelimiter tenantId.toList) := ⟨escapeDelimiter_quiet, slips⟩
    have otherFront : Front (escapeDelimiter otherTenant.toList) :=
      ⟨escapeDelimiter_quiet, otherSlips⟩
    obtain ⟨tenants, tails⟩ := front.unique otherFront same
    obtain ⟨types, tails⟩ :=
      Text.separator_append_inj (value_clean type) (value_clean otherType) tails
    obtain rfl := value_injective type otherType (String.toList_injective types)
    exact ⟨String.toList_injective (escapeDelimiter_injective tenants), rfl,
      behind_type valid otherValid tails⟩

/-- The text that is hashed is the same for the same event only. -/
theorem outboxCanonical_eq_iff (valid : isEventVersion version = true)
    (otherValid : isEventVersion otherVersion = true) :
    (OutboxKeyParts.of tenantId type sourceId version).canonical =
        (OutboxKeyParts.of otherTenant otherType otherSource otherVersion).canonical ↔
      tenantId = otherTenant ∧ type = otherType ∧ sourceId = otherSource ∧
        version = otherVersion := by
  constructor
  · exact canonical_of_injective valid otherValid
  · intro parts
    obtain ⟨rfl, rfl, rfl, rfl⟩ := parts
    rfl

/-- Two ids that only the backslash of one and the delimiter of the other could confuse. -/
theorem outboxCanonical_eq_iff_backslash :
    (OutboxKeyParts.of "a\\" .signalAvailable "b" "v1").canonical =
        (OutboxKeyParts.of "a|safety_signal" .signalAvailable "b" "v1").canonical ↔
      "a\\" = "a|safety_signal" ∧ EnqueueableOutboxType.signalAvailable = .signalAvailable ∧
        "b" = "b" ∧ "v1" = "v1" :=
  outboxCanonical_eq_iff (by decide) (by decide)

end Tamanor.Db
