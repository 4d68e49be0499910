import Mathlib.Data.String.Basic
import Mathlib.Data.List.Sort
import Mathlib.Data.Rat.Floor
import Tamanor.Library.Table

/-! The outbox of family notifications (`family-notification-outbox.ts`,
`family-notification-outbox-processor.ts`): a batch is claimed in one statement, and each event
of it is settled in a statement of its own. -/

set_option autoImplicit false

namespace Tamanor.Db

open Library

def outboxMaxAttempts : Nat := 5
def outboxBaseRetryDelayMs : Int := 60_000
def outboxMaxRetryDelayMs : Int := 3_600_000
def outboxLeaseDurationMs : Int := 300_000
def outboxDefaultBatchSize : Int := 50
def outboxMaxBatchSize : Int := 500
def outboxReadinessMaxAttempts : Nat := 8
def outboxReadinessBaseDelayMs : Int := 60_000
def outboxReadinessMaxDelayMs : Int := 900_000

def outboxRetryDelayMs (attemptCount : Nat) : Int :=
  min outboxMaxRetryDelayMs (outboxBaseRetryDelayMs * 2 ^ (max 1 attemptCount - 1))

def outboxReadinessDelayMs (attemptCount : Nat) : Int :=
  min outboxReadinessMaxDelayMs (outboxReadinessBaseDelayMs * 2 ^ (max 1 attemptCount - 1))

inductive OutboxStatus where
  | pending | processing | completed | deadLetter
deriving DecidableEq

inductive OutboxSafeReason where
  | delivered | alreadyDelivered | noRecipients | sourceGone | notApplicable
deriving DecidableEq

inductive OutboxErrorCode where
  | processingError | malformedEvent | unsupportedType | invalidEventVersion
  | contradictoryLinkage | maxAttemptsExceeded | authorizationPending
deriving DecidableEq

inductive EnqueueableOutboxType where
  | deliveryAvailable | deliveryAcknowledged | deliveryDeclined
  | guardianInvitationAccepted | authorityChanged | recipientAuthorizationChanged
  | signalAvailable | urgentSignal | incidentCreated | incidentEscalated
  | protectionPlanUpdated | guardianInvitationExpiring | consentExpiring
deriving DecidableEq

inductive NotificationType where
  | family (type : EnqueueableOutboxType)
  | other (name : String)
deriving DecidableEq

inductive OutboxIdKey where
  | deliveryId | invitationId | guardianAuthorityRecordId | authorizationDecisionId
  | safetySignalId | incidentId | protectionPlanId | consentRecordId

/-- `OUTBOX_TYPE_SOURCE`: the source type of a notification type, and the field of its id. -/
def outboxTypeSource : EnqueueableOutboxType → String × OutboxIdKey
  | .deliveryAvailable | .deliveryAcknowledged | .deliveryDeclined =>
    ("safety_signal_delivery", .deliveryId)
  | .guardianInvitationAccepted | .guardianInvitationExpiring =>
    ("family_guardian_invitation", .invitationId)
  | .authorityChanged => ("guardian_authority_record", .guardianAuthorityRecordId)
  | .recipientAuthorizationChanged =>
    ("recipient_authorization_decision", .authorizationDecisionId)
  | .signalAvailable | .urgentSignal => ("safety_signal", .safetySignalId)
  | .incidentCreated | .incidentEscalated => ("child_safety_incident", .incidentId)
  | .protectionPlanUpdated => ("child_safety_protection_plan", .protectionPlanId)
  | .consentExpiring => ("consent_record", .consentRecordId)

/-- `CRITICAL_OUTBOX_TYPES`. -/
def NotificationType.isCritical : NotificationType → Bool
  | .family .signalAvailable | .family .urgentSignal | .family .incidentCreated
  | .family .incidentEscalated => true
  | _ => false

structure OutboxEvent where
  tenantId : String
  notificationType : NotificationType
  sourceType : String
  sourceId : String
  eventVersion : String
  occurredAt : Int
  status : OutboxStatus
  attemptCount : Nat
  nextAttemptAt : Int
  lockedAt : Option Int
  lockExpiresAt : Option Int
  completedAt : Option Int
  lastErrorCode : Option OutboxErrorCode
  safeReasonCode : Option OutboxSafeReason
  createdAt : Int
deriving DecidableEq

abbrev OutboxTable := Table String OutboxEvent

structure ClaimedRow where
  id : String
  tenantId : String
  notificationType : NotificationType
  sourceType : String
  sourceId : String
  eventVersion : String
  occurredAt : Int
  /-- After the claim's increment. -/
  attemptCount : Nat
deriving DecidableEq

structure AuthorizationSource where
  type : EnqueueableOutboxType
  idKey : OutboxIdKey
  sourceId : String
  eventVersion : String
  occurredAt : Int

inductive ResolutionFailure where
  | resolverError | unsupportedType | authorizationAmbiguous | sourceNotFound
  | tenantMismatch | workspaceMismatch | profileMismatch | sourceStateInvalid

inductive CreationResult where
  | ok (eligibleRecipientCount createdCount duplicateCount : Nat)
  | failed (reason : ResolutionFailure)

/-- `createAuthorizedFamilyNotification` of a tenant, a source and a time; `none` if it throws. -/
abbrev CreateNotification := String → AuthorizationSource → Int → Option CreationResult

inductive OutboxOutcome where
  | completed (safeReasonCode : OutboxSafeReason) (created duplicates : Nat) (noRecipients : Bool)
  | retry (errorCode : OutboxErrorCode)
  | authorizationPending
  | deadLetter (errorCode : OutboxErrorCode)
deriving DecidableEq

/-- `/^[A-Za-z0-9._:-]{1,64}$/`. -/
def isEventVersion (text : String) : Bool :=
  let isPart (char : Char) : Bool :=
    ('A' ≤ char && char ≤ 'Z') || ('a' ≤ char && char ≤ 'z') || ('0' ≤ char && char ≤ '9') ||
      char == '.' || char == '_' || char == ':' || char == '-'
  text.toList.all isPart && 1 ≤ text.toList.length && text.toList.length ≤ 64

variable (ev : ClaimedRow)

def buildAuthorizationSource : Option AuthorizationSource :=
  match ev.notificationType with
  | .other _ => none
  | .family type =>
    let mapping := outboxTypeSource type
    if ev.sourceType ≠ mapping.1 ∨ ev.sourceId = "" then none
    else some ⟨type, mapping.2, ev.sourceId, ev.eventVersion, ev.occurredAt⟩

def failureOutcome : ResolutionFailure → OutboxOutcome
  | .resolverError => .retry .processingError
  | .unsupportedType => .deadLetter .unsupportedType
  | .authorizationAmbiguous => .deadLetter .contradictoryLinkage
  | .sourceNotFound => .completed .sourceGone 0 0 true
  | _ => .completed .notApplicable 0 0 true

def resultOutcome : Option CreationResult → OutboxOutcome
  | none => .retry .processingError
  | some (.failed reason) => failureOutcome reason
  | some (.ok eligible created duplicates) =>
    if eligible = 0 then
      if ev.notificationType.isCritical ∧ ev.attemptCount < outboxReadinessMaxAttempts then
        .authorizationPending
      else .completed .noRecipients 0 duplicates true
    else .completed (if 0 < created then .delivered else .alreadyDelivered) created duplicates false

def processOne (now : Int) (create : CreateNotification) : OutboxOutcome :=
  match ev.notificationType with
  | .other _ => .deadLetter .unsupportedType
  | .family _ =>
    if !isEventVersion ev.eventVersion then .deadLetter .invalidEventVersion
    else
      match buildAuthorizationSource ev with
      | none => .deadLetter .malformedEvent
      | some source => resultOutcome ev (create ev.tenantId source now)

def boundBatch (size : Option ℚ) : Nat :=
  (max 1 (min outboxMaxBatchSize (match size with
    | some size => ⌊size⌋
    | none => outboxDefaultBatchSize))).toNat

def OutboxEvent.isClaimable (now : Int) (event : OutboxEvent) : Bool :=
  (event.status == .pending && event.nextAttemptAt ≤ now) ||
    (event.status == .processing && event.lockExpiresAt.any (· < now))

/-- The order of the claim: `nextAttemptAt`, then `createdAt`, then `id`. -/
def claimsBefore (first second : String × OutboxEvent) : Bool :=
  if first.2.nextAttemptAt ≠ second.2.nextAttemptAt then
    first.2.nextAttemptAt < second.2.nextAttemptAt
  else if first.2.createdAt ≠ second.2.createdAt then first.2.createdAt < second.2.createdAt
  else first.1 ≤ second.1

def claimed (now : Int) (event : OutboxEvent) : OutboxEvent :=
  { event with
    status := .processing
    lockedAt := some now
    lockExpiresAt := some (now + outboxLeaseDurationMs)
    attemptCount := event.attemptCount + 1 }

def claimedRow (id : String) (event : OutboxEvent) : ClaimedRow where
  id := id
  tenantId := event.tenantId
  notificationType := event.notificationType
  sourceType := event.sourceType
  sourceId := event.sourceId
  eventVersion := event.eventVersion
  occurredAt := event.occurredAt
  attemptCount := event.attemptCount

def dueEvents (now : Int) (size : Option ℚ) (events : OutboxTable) : List (String × OutboxEvent) :=
  ((events.rows.filter fun row => row.2.isClaimable now).insertionSort
    fun first second => claimsBefore first second = true).take (boundBatch size)

def claimBatch (now : Int) (size : Option ℚ) (events : OutboxTable) :
    OutboxTable × List ClaimedRow :=
  let due := dueEvents now size events
  (events.updateWhere (fun id _ => (due.map Prod.fst).contains id) (claimed now),
    due.map fun row => claimedRow row.1 (claimed now row.2))

inductive OutboxSettlement where
  | completed (safeReasonCode : OutboxSafeReason)
  | pending (nextAttemptAt : Int) (errorCode : OutboxErrorCode)
  | deadLetter (errorCode : OutboxErrorCode)

def outboxSettlement (now : Int) : OutboxOutcome → OutboxSettlement
  | .completed safeReasonCode _ _ _ => .completed safeReasonCode
  | .authorizationPending =>
    .pending (now + outboxReadinessDelayMs ev.attemptCount) .authorizationPending
  | .retry errorCode =>
    if ev.attemptCount < outboxMaxAttempts then
      .pending (now + outboxRetryDelayMs ev.attemptCount) errorCode
    else .deadLetter .maxAttemptsExceeded
  | .deadLetter errorCode => .deadLetter errorCode

def OutboxSettlement.write (now : Int) (event : OutboxEvent) : OutboxSettlement → OutboxEvent
  | .completed safeReasonCode =>
    { event with
      status := .completed
      completedAt := some now
      safeReasonCode := some safeReasonCode
      lastErrorCode := none
      lockedAt := none
      lockExpiresAt := none }
  | .pending nextAttemptAt errorCode =>
    { event with
      status := .pending
      nextAttemptAt := nextAttemptAt
      lastErrorCode := some errorCode
      lockedAt := none
      lockExpiresAt := none }
  | .deadLetter errorCode =>
    { event with
      status := .deadLetter
      lastErrorCode := some errorCode
      lockedAt := none
      lockExpiresAt := none }

/-- The statement names the event by its id and its tenant, and nothing else. -/
def settleEvent (now : Int) (outcome : OutboxOutcome) (events : OutboxTable) : OutboxTable :=
  events.updateWhere (fun id event => id == ev.id && event.tenantId == ev.tenantId) fun event =>
    (outboxSettlement ev now outcome).write now event

structure OutboxBatch where
  now : Int
  batchSize : Option ℚ
  create : CreateNotification
  /-- How many events it settles, if it crashes. -/
  crashesAfter : Option Nat

structure ProcessOutboxResult where
  claimed : Nat
  completed : Nat
  retried : Nat
  deadLetter : Nat
  notificationsCreated : Nat
  duplicates : Nat
  noRecipients : Nat
  authorizationPending : Nat

def tally (result : ProcessOutboxResult) (ev : ClaimedRow) : OutboxOutcome → ProcessOutboxResult
  | .completed _ created duplicates noRecipients =>
    { result with
      completed := result.completed + 1
      notificationsCreated := result.notificationsCreated + created
      duplicates := result.duplicates + duplicates
      noRecipients := result.noRecipients + if noRecipients then 1 else 0 }
  | .authorizationPending =>
    { result with authorizationPending := result.authorizationPending + 1 }
  | .retry _ =>
    if ev.attemptCount < outboxMaxAttempts then { result with retried := result.retried + 1 }
    else { result with deadLetter := result.deadLetter + 1 }
  | .deadLetter _ => { result with deadLetter := result.deadLetter + 1 }

def OutboxBatch.outcome (batch : OutboxBatch) (ev : ClaimedRow) : OutboxOutcome :=
  processOne ev batch.now batch.create

def OutboxBatch.settled (batch : OutboxBatch) (rows : List ClaimedRow) : List ClaimedRow :=
  match batch.crashesAfter with
  | none => rows
  | some count => rows.take count

def OutboxBatch.settleAll (batch : OutboxBatch) (rows : List ClaimedRow) (events : OutboxTable) :
    OutboxTable :=
  rows.foldl (fun events ev => settleEvent ev batch.now (batch.outcome ev) events) events

def processFamilyNotificationOutboxBatch (batch : OutboxBatch) (events : OutboxTable) :
    OutboxTable × ProcessOutboxResult :=
  let (events, rows) := claimBatch batch.now batch.batchSize events
  let settled := batch.settled rows
  (batch.settleAll settled events,
    settled.foldl (fun result ev => tally result ev (batch.outcome ev))
      ⟨rows.length, 0, 0, 0, 0, 0, 0, 0⟩)

/-! What a claim and a settlement do to an event. -/

def OutboxStatus.IsTerminal (status : OutboxStatus) : Prop :=
  status = .completed ∨ status = .deadLetter

variable {now : Int} {size : Option ℚ} {events : OutboxTable} {id : String} {event : OutboxEvent}

theorem not_isTerminal_of_isClaimable (claimable : event.isClaimable now = true) :
    ¬event.status.IsTerminal := by
  rintro (completed | deadLetter)
  · simp [OutboxEvent.isClaimable, completed] at claimable
  · simp [OutboxEvent.isClaimable, deadLetter] at claimable

theorem mem_dueEvents {row : String × OutboxEvent} (due : row ∈ dueEvents now size events) :
    events.find? row.1 = some row.2 ∧ row.2.isClaimable now = true := by
  have sorted := List.mem_of_mem_take due
  have filtered := (List.perm_insertionSort _ _).mem_iff.mp sorted
  obtain ⟨stored, claimable⟩ := List.mem_filter.mp filtered
  exact ⟨Table.find?_eq_some_iff.mpr stored, claimable⟩

section

variable (now : Int) (size : Option ℚ) (events : OutboxTable)

theorem nodup_dueEvents : ((dueEvents now size events).map Prod.fst).Nodup := by
  have rows : ((events.rows.filter fun row => row.2.isClaimable now).map Prod.fst).Nodup :=
    events.unique.sublist (List.filter_sublist.map Prod.fst)
  have sorted := ((List.perm_insertionSort (fun first second => claimsBefore first second = true)
    (events.rows.filter fun row => row.2.isClaimable now)).map Prod.fst).nodup_iff.mpr rows
  exact sorted.sublist ((List.take_sublist _ _).map Prod.fst)

theorem claimBatch_ids :
    (claimBatch now size events).2.map ClaimedRow.id = (dueEvents now size events).map Prod.fst := by
  simp [claimBatch, claimedRow, Function.comp_def]

theorem nodup_claimBatch : ((claimBatch now size events).2.map ClaimedRow.id).Nodup := by
  rw [claimBatch_ids]
  exact nodup_dueEvents now size events

end

theorem mem_claimBatch {ev : ClaimedRow} (member : ev ∈ (claimBatch now size events).2) :
    ∃ event, events.find? ev.id = some event ∧ event.isClaimable now = true ∧
      ev = claimedRow ev.id (claimed now event) ∧
      (claimBatch now size events).1.find? ev.id = some (claimed now event) := by
  obtain ⟨row, due, rfl⟩ := List.mem_map.mp member
  obtain ⟨found, claimable⟩ := mem_dueEvents due
  refine ⟨row.2, found, claimable, rfl, ?_⟩
  have contains : ((dueEvents now size events).map Prod.fst).contains row.1 = true := by
    simpa using ⟨row.2, due⟩
  show (Table.updateWhere _ _ _).find? row.1 = _
  rw [Table.find?_updateWhere, found, Option.map_some, if_pos contains]

theorem find?_claimBatch (now : Int) (size : Option ℚ) (found : events.find? id = some event) :
    (∀ ev ∈ (claimBatch now size events).2, ev.id ≠ id) ∧
        (claimBatch now size events).1.find? id = some event ∨
      event.isClaimable now = true ∧ claimedRow id (claimed now event) ∈ (claimBatch now size events).2 ∧
        (claimBatch now size events).1.find? id = some (claimed now event) := by
  by_cases claims : ∃ ev ∈ (claimBatch now size events).2, ev.id = id
  · obtain ⟨ev, member, rfl⟩ := claims
    obtain ⟨stored, foundStored, claimable, same, after⟩ := mem_claimBatch member
    rw [found] at foundStored
    cases foundStored
    exact .inr ⟨claimable, same ▸ member, after⟩
  · refine .inl ⟨fun ev member same => claims ⟨ev, member, same⟩, ?_⟩
    have absent : ((dueEvents now size events).map Prod.fst).contains id = false := by
      rw [← claimBatch_ids]
      simpa using fun ev member same => claims ⟨ev, member, same⟩
    show (Table.updateWhere _ _ _).find? id = _
    rw [Table.find?_updateWhere, found, Option.map_some, absent]
    rfl

theorem find?_settle (outcome : OutboxOutcome) :
    (settleEvent ev now outcome events).find? id = (events.find? id).map fun event =>
      if id = ev.id ∧ event.tenantId = ev.tenantId then (outboxSettlement ev now outcome).write now event
      else event := by
  rw [settleEvent, Table.find?_updateWhere]
  congr 1
  funext event
  simp only [Bool.and_eq_true, beq_iff_eq]

theorem find?_settle_other {ev : ClaimedRow} (outcome : OutboxOutcome) (other : id ≠ ev.id) :
    (settleEvent ev now outcome events).find? id = events.find? id := by
  rw [find?_settle]
  cases events.find? id with
  | none => rfl
  | some event => rw [Option.map_some, if_neg fun same => other same.1]

@[simp] theorem attemptCount_write (now : Int) (event : OutboxEvent) (settlement : OutboxSettlement) :
    (settlement.write now event).attemptCount = event.attemptCount := by
  cases settlement <;> rfl

@[simp] theorem tenantId_write (now : Int) (event : OutboxEvent) (settlement : OutboxSettlement) :
    (settlement.write now event).tenantId = event.tenantId := by
  cases settlement <;> rfl

@[simp] theorem notificationType_write (now : Int) (event : OutboxEvent) (settlement : OutboxSettlement) :
    (settlement.write now event).notificationType = event.notificationType := by
  cases settlement <;> rfl

def queuedEvent : OutboxEvent where
  tenantId := "tenant"
  notificationType := .family .urgentSignal
  sourceType := "safety_signal"
  sourceId := "signal"
  eventVersion := "1"
  occurredAt := 0
  status := .pending
  attemptCount := 0
  nextAttemptAt := 0
  lockedAt := none
  lockExpiresAt := none
  completedAt := none
  lastErrorCode := none
  safeReasonCode := none
  createdAt := 0

def queuedEvents : OutboxTable := Table.empty.insert "event" queuedEvent

end Tamanor.Db
