import Tamanor.Db.RecipientAuthorizationProperties
import Tamanor.Db.RecipientHistory
import Tamanor.Db.SafetyDeliveryProperties

/-! When a revocation takes effect. A creation supersedes nothing, so an earlier decision or
delivery of the pair that is still effective stays in the history beside the new decision. -/

set_option autoImplicit false

namespace Tamanor.Db

open Tamanor.Core Library

structure RecordsInput (input : RecipientAuthorizationInput)
    (result : RecipientAuthorizationEvaluation) : Prop where
  signal : result.recordIds.safetySignalId = input.safetySignalId
  recipient : result.recordIds.recipientMembershipId = input.recipientMembershipId
  status : result.decisionStatus = .authorized → result.authorized = true

variable {input : RecipientAuthorizationInput} {now : Int} {id : String}
  {row : SafetyRecipientAuthorizationDecision} {record : DeliveryRecord}
  {changed after : RecipientHistory} {action : HistoryAction}

theorem recordsInput_deny {ids : AuthorizationRecordIds}
    (signal : ids.safetySignalId = input.safetySignalId)
    (recipient : ids.recipientMembershipId = input.recipientMembershipId)
    (reasonCode : RecipientAuthorizationReasonCode) (now : Int) :
    RecordsInput input (deny reasonCode ids now) where
  signal := signal
  recipient := recipient
  status := by
    intro impossible
    cases impossible

theorem recordsInput_conclude {actor : FamilyActorContext} {ids : AuthorizationRecordIds}
    {signal : SafetySignal} {relationship : GuardianRelationship}
    {authority : Option GuardianAuthorityRecord} {consent : Option ConsentRecord}
    {assessment : Option SafeRecipientAssessment}
    (sameSignal : ids.safetySignalId = input.safetySignalId)
    (sameRecipient : ids.recipientMembershipId = input.recipientMembershipId) :
    RecordsInput input (concludeAuthorization actor input now ids signal relationship authority
      consent assessment) := by
  unfold concludeAuthorization
  dsimp only
  split
  · exact recordsInput_deny (by exact sameSignal) (by exact sameRecipient) _ _
  · split
    · exact recordsInput_deny (by exact sameSignal) (by exact sameRecipient) _ _
    · exact ⟨sameSignal, sameRecipient, fun _ => rfl⟩

theorem recordsInput_of_evaluate {db : FamilyDatabase} {actor : FamilyActorContext}
    {result : RecipientAuthorizationEvaluation}
    (evaluated : evaluateRecipientAuthorization db actor input now = .ok result) :
    RecordsInput input result := by
  unfold evaluateRecipientAuthorization at evaluated
  obtain ⟨⟨⟩, -, is⟩ := bind_eq_ok.mp evaluated
  split at is
  · cases is
  · dsimp only at is
    split at is
    · cases is
      exact recordsInput_deny rfl rfl _ _
    · split at is
      · cases is
        exact recordsInput_deny rfl rfl _ _
      · split at is
        · cases is
          exact recordsInput_deny rfl rfl _ _
        · split at is
          · cases is
            exact recordsInput_deny rfl rfl _ _
          · split at is
            · cases is
              exact recordsInput_deny rfl rfl _ _
            · split at is
              · cases is
                exact recordsInput_deny rfl rfl _ _
              · split at is
                · cases is
                  exact recordsInput_deny rfl rfl _ _
                · obtain ⟨authority, -, is⟩ := bind_eq_ok.mp is
                  obtain ⟨consent, -, is⟩ := bind_eq_ok.mp is
                  obtain ⟨assessment, -, is⟩ := bind_eq_ok.mp is
                  cases is
                  exact recordsInput_conclude rfl rfl

variable {history : RecipientHistory} {pair : RecipientPair} {actor : FamilyActorContext}

structure DecisionLive (history : RecipientHistory) (pair : RecipientPair) (id : String)
    (row : SafetyRecipientAuthorizationDecision) : Prop where
  found : history.decisions.find? id = some row
  ofPair : row.pair = pair
  effective : isRecipientAuthorizationDecisionRowEffective row.rowState history.now = true

structure DeliveryLive (history : RecipientHistory) (pair : RecipientPair) (id : String)
    (record : DeliveryRecord) : Prop where
  found : history.deliveries.find? id = some record
  ofPair : record.pair = pair
  effective : isSafetyDeliveryRowEffective record.row.rowState history.now = true

theorem newestDecision_live (newest : history.newestDecision pair = some (id, row)) :
    DecisionLive history pair id row := by
  have member := List.mem_of_find?_eq_some newest
  rw [newestRows, List.mem_insertionSort] at member
  obtain ⟨member, selected⟩ := List.mem_filter.mp member
  simp only [Bool.and_eq_true, beq_iff_eq] at selected
  have effective := List.find?_some newest
  exact ⟨Table.find?_eq_some_iff.mpr member, selected.1.1.1.1, effective⟩

theorem newestDelivery_live (newest : history.newestDelivery pair = some (id, record)) :
    DeliveryLive history pair id record := by
  have member := List.mem_of_find?_eq_some newest
  rw [newestRows, List.mem_insertionSort] at member
  obtain ⟨member, selected⟩ := List.mem_filter.mp member
  simp only [Bool.and_eq_true, beq_iff_eq] at selected
  have effective := List.find?_some newest
  exact ⟨Table.find?_eq_some_iff.mpr member, selected.1.1.1.1.1, effective⟩

theorem effectiveAuthorization_live {signal recipient : String}
    (reported : history.getEffectiveRecipientAuthorization actor signal recipient =
      .ok (some (id, row))) :
    DecisionLive history ⟨actor.tenantId, signal, recipient⟩ id row := by
  obtain ⟨⟨⟩, -, is⟩ := bind_eq_ok.mp reported
  split at is
  · cases is
  next entry newest =>
    split at is
    · cases is
    · obtain ⟨live, -, is⟩ := bind_eq_ok.mp is
      split at is
      · cases is
        exact newestDecision_live newest
      · cases is

theorem effectiveDelivery_live {signal recipient : String}
    (reported : history.getEffectiveSafetySignalDelivery actor signal recipient =
      .ok (some (id, record))) :
    DeliveryLive history ⟨actor.tenantId, signal, recipient⟩ id record ∧
      ∃ current row, history.getEffectiveRecipientAuthorization actor signal recipient =
        .ok (some (current, row)) := by
  obtain ⟨⟨⟩, -, is⟩ := bind_eq_ok.mp reported
  split at is
  · cases is
  next entry newest =>
    obtain ⟨authorization, authorized, is⟩ := bind_eq_ok.mp is
    split at is
    next some =>
      cases is
      obtain ⟨⟨current, row⟩, rfl⟩ := Option.isSome_iff_exists.mp some
      exact ⟨newestDelivery_live newest, current, row, authorized⟩
    · cases is

/-! What one step does to the decisions and to the deliveries. -/

theorem createDecision_adds
    (created : history.createRecipientAuthorizationDecision actor id input = .ok changed) :
    ∃ row : SafetyRecipientAuthorizationDecision,
      changed = { history with decisions := history.decisions.insert id row } ∧
        row.pair = ⟨actor.tenantId, input.safetySignalId, input.recipientMembershipId⟩ ∧
        (row.decisionStatus = .authorized → ∃ signal relationship,
          CompleteChain history.records actor input history.now signal relationship) := by
  obtain ⟨⟨⟩, -, is⟩ := bind_eq_ok.mp created
  obtain ⟨⟨⟩, -, is⟩ := bind_eq_ok.mp is
  obtain ⟨result, evaluated, is⟩ := bind_eq_ok.mp is
  have records := recordsInput_of_evaluate evaluated
  split at is
  · cases is
  · cases is
    refine ⟨_, rfl, ?_, ?_⟩
    · simp only [SafetyRecipientAuthorizationDecision.pair, records.signal, records.recipient]
    · intro status
      exact authorized_iff.mp ⟨result, evaluated, records.status status⟩

structure EndsDecision (change : SafetyRecipientAuthorizationDecision →
    SafetyRecipientAuthorizationDecision) : Prop where
  samePair : ∀ row, (change row).pair = row.pair
  sameScope : ∀ row, (change row).disclosureScope = row.disclosureScope
  ended : ∀ row now,
    isRecipientAuthorizationDecisionRowEffective (change row).rowState now = false

theorem revokeDecision_ends
    (revoked : history.revokeRecipientAuthorizationDecision actor id = .ok changed) :
    changed = history ∨ ∃ change, EndsDecision change ∧
      changed = { history with decisions := history.decisions.modify id change } := by
  obtain ⟨⟨⟩, -, is⟩ := bind_eq_ok.mp revoked
  split at is
  · cases is
  · split at is
    · cases is
      exact .inl rfl
    · cases is
      refine .inr ⟨_, ?_, rfl⟩
      exact ⟨fun _ => rfl, fun _ => rfl, fun _ _ => rfl⟩

theorem supersedeDecision_ends
    (superseded : history.supersedeRecipientAuthorizationDecision actor id = .ok changed) :
    changed = history ∨ ∃ change, EndsDecision change ∧
      changed = { history with decisions := history.decisions.modify id change } := by
  obtain ⟨⟨⟩, -, is⟩ := bind_eq_ok.mp superseded
  split at is
  · cases is
  · split at is
    · cases is
      exact .inl rfl
    · cases is
      refine .inr ⟨_, ?_, rfl⟩
      exact ⟨fun _ => rfl, fun _ => rfl, fun _ _ => rfl⟩

theorem eligibility_effective {decisionId : String} {requested : List SafetyDisclosureScope}
    {eligibility : DeliveryEligibility}
    (evaluated : history.evaluateSafetySignalDeliveryEligibility actor decisionId requested =
      .ok eligibility)
    (eligible : eligibility.reasonCode = .validEffectiveAuthorization) :
    ∃ decision, history.findDecision actor decisionId = some decision ∧
      DecisionLive history ⟨actor.tenantId, decision.recordIds.safetySignalId,
        decision.recordIds.recipientMembershipId⟩ decisionId decision ∧
      eligibility.allowedDisclosureScopes ⊆ decision.disclosureScope := by
  obtain ⟨⟨⟩, -, is⟩ := bind_eq_ok.mp evaluated
  split at is
  · cases is
    cases eligible
  next decision found =>
    dsimp only at is
    split at is
    · cases is
      cases eligible
    · split at is
      · cases is
        cases eligible
      · split at is
        · cases is
          cases eligible
        · split at is
          · cases is
            cases eligible
          · obtain ⟨reported, authorization, is⟩ := bind_eq_ok.mp is
            split at is
            · cases is
              cases eligible
            next effective =>
              split at is
              · cases is
                cases eligible
              next same =>
                have same : effective.1 = decisionId := not_not.mp same
                have live := effectiveAuthorization_live authorization
                rw [same] at live
                have stored : effective.2 = decision := by
                  have found := (Option.filter_eq_some_iff.mp found).1
                  exact Option.some.inj (live.found.symm.trans found)
                rw [stored] at live is
                refine ⟨decision, found, live, ?_⟩
                split at is
                · cases is
                  cases eligible
                next within =>
                  cases is
                  dsimp only
                  split
                  next some =>
                    have inside : scopesWithin requested
                        (serializeDisclosureScopes decision.disclosureScope) = true := by
                      by_contra outside
                      exact within ⟨some, outside⟩
                    intro scope member
                    exact mem_serializeDisclosureScopes.mp (scopesWithin_iff.mp inside member)
                  · intro scope member
                    exact mem_serializeDisclosureScopes.mp member

theorem createDelivery_adds {input : DeliveryInput}
    (created : history.createSafetySignalDelivery actor id input = .ok changed) :
    changed = history ∨ ∃ record decision,
      changed = { history with deliveries := history.deliveries.insert id record } ∧
        DecisionLive history record.pair record.row.recipientAuthorizationDecisionId decision ∧
        record.row.disclosureScope ⊆ decision.disclosureScope := by
  obtain ⟨⟨⟩, -, is⟩ := bind_eq_ok.mp created
  split at is
  · cases is
  next decision found =>
    obtain ⟨⟨⟩, -, is⟩ := bind_eq_ok.mp is
    obtain ⟨eligibility, evaluated, is⟩ := bind_eq_ok.mp is
    split at is
    · cases is
    next eligible =>
      obtain ⟨other, foundOther, live, within⟩ :=
        eligibility_effective evaluated (not_not.mp eligible)
      rw [found] at foundOther
      cases foundOther
      split at is
      · cases is
      · split at is
        · cases is
          exact .inl rfl
        · split at is
          · cases is
          · cases is
            refine .inr ⟨_, decision, rfl, live, ?_⟩
            intro scope member
            exact within (mem_serializeDisclosureScopes.mp member)

theorem effective_before_transition {update : DeliveryUpdate}
    (edge : isValidSafetyDeliveryTransition record.row.deliveryStatus update.target = true)
    (effective : isSafetyDeliveryRowEffective (update.apply record).row.rowState now = true) :
    isSafetyDeliveryRowEffective record.row.rowState now = true := by
  obtain ⟨id, operation, time, actor, read⟩ := update
  unfold isSafetyDeliveryRowEffective at effective ⊢
  simp only [Bool.and_eq_true] at effective ⊢
  obtain ⟨⟨⟨⟨⟨⟨status, revoked⟩, superseded⟩, archived⟩, declined⟩, failed⟩, expired⟩ := effective
  have source : [SafetyDeliveryStatus.prepared, .available, .acknowledged].contains
      record.row.deliveryStatus = true := by
    cases operation with
    | makeAvailable =>
      cases is : record.row.deliveryStatus <;> rw [is] at edge <;> first | rfl | cases edge
    | acknowledge =>
      cases is : record.row.deliveryStatus <;> rw [is] at edge <;> first | rfl | cases edge
    | decline => cases status
    | revoke => cases status
    | supersede => cases status
    | archive => cases status
  cases operation with
  | makeAvailable => exact ⟨⟨⟨⟨⟨⟨source, revoked⟩, superseded⟩, archived⟩, declined⟩, failed⟩, expired⟩
  | acknowledge => exact ⟨⟨⟨⟨⟨⟨source, revoked⟩, superseded⟩, archived⟩, declined⟩, failed⟩, expired⟩
  | decline => cases status
  | revoke => cases status
  | supersede => cases status
  | archive => cases status

theorem apply_keeps (update : DeliveryUpdate) (record : DeliveryRecord) :
    (update.apply record).pair = record.pair ∧
      (update.apply record).row.recipientAuthorizationDecisionId =
        record.row.recipientAuthorizationDecisionId ∧
      (update.apply record).row.disclosureScope = record.row.disclosureScope := by
  obtain ⟨id, operation, time, actor, read⟩ := update
  cases operation <;> exact ⟨rfl, rfl, rfl⟩

theorem transitionDelivery_changes (tenantId : String) (actorMembershipId : Option String)
    (id : String) (operation : DeliveryOperation) :
    history.transitionDelivery tenantId actorMembershipId id operation = history ∨
      ∃ (update : DeliveryUpdate) (record : DeliveryRecord),
        history.deliveries.find? id = some record ∧
        isValidSafetyDeliveryTransition record.row.deliveryStatus update.target = true ∧
        history.transitionDelivery tenantId actorMembershipId id operation =
          { history with deliveries := history.deliveries.modify id update.apply } := by
  unfold RecipientHistory.transitionDelivery
  split
  · exact .inl rfl
  next update checked =>
    refine .inr ?_
    unfold checkDelivery at checked
    split at checked
    next actor record own found =>
      dsimp only at checked
      split at checked
      · cases checked
      · split at checked
        · cases checked
        · split at checked
          next edge =>
            cases checked
            exact ⟨⟨id, operation, history.now, actor, record.row.deliveryStatus⟩, record, found,
              edge, rfl⟩
          · cases checked
    · cases checked

def RecipientAuthorizationInput.pairFor (input : RecipientAuthorizationInput) (tenantId : String) :
    RecipientPair :=
  ⟨tenantId, input.safetySignalId, input.recipientMembershipId⟩

inductive HistoryEffect (history : RecipientHistory) :
    HistoryAction → RecipientHistory → Prop where
  | moves {action : HistoryAction} (time : Nat) (records : FamilyDatabase) :
      HistoryEffect history action { history with now := history.now + time, records := records }
  | decides {actor : FamilyActorContext} {id : String} {input : RecipientAuthorizationInput}
      {row : SafetyRecipientAuthorizationDecision} :
      row.pair = input.pairFor actor.tenantId →
      (row.decisionStatus = .authorized → ∃ signal relationship,
        CompleteChain history.records actor input history.now signal relationship) →
      HistoryEffect history (.createDecision actor id input)
        { history with decisions := history.decisions.insert id row }
  | ends {action : HistoryAction} (id : String) {change : SafetyRecipientAuthorizationDecision →
      SafetyRecipientAuthorizationDecision} :
      EndsDecision change →
      HistoryEffect history action { history with decisions := history.decisions.modify id change }
  | delivers {action : HistoryAction} (id : String) {record : DeliveryRecord}
      {decision : SafetyRecipientAuthorizationDecision} :
      DecisionLive history record.pair record.row.recipientAuthorizationDecisionId decision →
      record.row.disclosureScope ⊆ decision.disclosureScope →
      HistoryEffect history action { history with deliveries := history.deliveries.insert id record }
  | transitions {action : HistoryAction} {id : String} (update : DeliveryUpdate)
      {record : DeliveryRecord} :
      history.deliveries.find? id = some record →
      isValidSafetyDeliveryTransition record.row.deliveryStatus update.target = true →
      HistoryEffect history action
        { history with deliveries := history.deliveries.modify id update.apply }

theorem HistoryEffect.nothing (action : HistoryAction) : HistoryEffect history action history := by
  have moved : HistoryEffect history action _ := .moves 0 history.records
  rwa [Nat.cast_zero, add_zero] at moved

theorem historyEffect_after {action : HistoryAction} {result : Except FamilyError RecipientHistory}
    (effect : ∀ changed, result = .ok changed → HistoryEffect history action changed) :
    HistoryEffect history action (history.after result) := by
  cases result with
  | ok changed => exact effect changed rfl
  | error failure => exact .nothing _

theorem historyEffect_step (history : RecipientHistory) (action : HistoryAction) :
    HistoryEffect history action (history.step action) := by
  cases action with
  | elapse time => exact .moves time history.records
  | changeRecords records =>
    have moved : HistoryEffect history (.changeRecords records) _ := .moves 0 records
    rwa [Nat.cast_zero, add_zero] at moved
  | createDecision actor id input =>
    refine historyEffect_after fun changed created => ?_
    obtain ⟨row, rfl, samePair, complete⟩ := createDecision_adds created
    exact .decides samePair complete
  | revokeDecision actor id =>
    refine historyEffect_after fun changed revoked => ?_
    rcases revokeDecision_ends revoked with rfl | ⟨change, ends, rfl⟩
    · exact .nothing _
    · exact .ends id ends
  | supersedeDecision actor id =>
    refine historyEffect_after fun changed superseded => ?_
    rcases supersedeDecision_ends superseded with rfl | ⟨change, ends, rfl⟩
    · exact .nothing _
    · exact .ends id ends
  | createDelivery actor id input =>
    refine historyEffect_after fun changed created => ?_
    rcases createDelivery_adds created with rfl | ⟨record, decision, rfl, live, within⟩
    · exact .nothing _
    · exact .delivers id live within
  | transitionDelivery tenantId actorMembershipId id operation =>
    rcases transitionDelivery_changes tenantId actorMembershipId id operation with same | ⟨update, record, found, edge, changed⟩
    · rw [RecipientHistory.step, same]
      exact .nothing _
    · rw [RecipientHistory.step, changed]
      exact .transitions update found edge

theorem decisionEffective_earlier {state : RecipientAuthorizationDecisionState} {time : Nat}
    (effective : isRecipientAuthorizationDecisionRowEffective state (now + time) = true) :
    isRecipientAuthorizationDecisionRowEffective state now = true := by
  unfold isRecipientAuthorizationDecisionRowEffective at effective ⊢
  simp only [Bool.and_eq_true] at effective ⊢
  refine ⟨effective.1, ?_⟩
  cases until_ : state.validUntil with
  | none => rfl
  | some instant =>
    have later := effective.2
    rw [until_] at later
    simp only [Option.all_some, decide_eq_true_eq] at later ⊢
    omega

theorem deliveryEffective_earlier {state : SafetyDeliveryRowState} {time : Nat}
    (effective : isSafetyDeliveryRowEffective state (now + time) = true) :
    isSafetyDeliveryRowEffective state now = true := by
  unfold isSafetyDeliveryRowEffective at effective ⊢
  simp only [Bool.and_eq_true] at effective ⊢
  refine ⟨effective.1, ?_⟩
  cases expiry : state.expiredAt with
  | none => rfl
  | some instant =>
    have later := effective.2
    rw [expiry] at later
    simp only [Option.all_some, decide_eq_true_eq] at later ⊢
    omega

theorem HistoryEffect.decisionLive (effect : HistoryEffect history action after)
    (live : DecisionLive after pair id row) :
    DecisionLive history pair id row ∨
      after.deliveries = history.deliveries ∧ after.now = history.now ∧
      ∃ actor input, action = .createDecision actor id input ∧
        pair = input.pairFor actor.tenantId ∧ ∃ signal relationship,
          CompleteChain history.records actor input history.now signal relationship := by
  obtain ⟨found, ofPair, effective⟩ := live
  cases effect with
  | moves time records => exact .inl ⟨found, ofPair, decisionEffective_earlier effective⟩
  | @decides actor added input created samePair complete =>
    cases stored : history.decisions.find? added with
    | some taken =>
      rw [Table.insert_taken stored] at found
      exact .inl ⟨found, ofPair, effective⟩
    | none =>
      rw [Table.find?_insert added stored] at found
      split at found
      next same =>
        cases found
        rw [same]
        refine .inr ⟨rfl, rfl, actor, input, rfl, ofPair.symm.trans samePair, complete ?_⟩
        simp only [isRecipientAuthorizationDecisionRowEffective, Bool.and_eq_true] at effective
        exact beq_iff_eq.mp effective.1.1.1.1
      · exact .inl ⟨found, ofPair, effective⟩
  | @ends _ ended change ends =>
    rw [Table.find?_modify] at found
    split at found
    · obtain ⟨old, -, rfl⟩ := Option.map_eq_some_iff.mp found
      rw [ends.ended] at effective
      cases effective
    · exact .inl ⟨found, ofPair, effective⟩
  | delivers => exact .inl ⟨found, ofPair, effective⟩
  | transitions => exact .inl ⟨found, ofPair, effective⟩

theorem HistoryEffect.deliveryLive (effect : HistoryEffect history action after)
    (live : DeliveryLive after pair id record) :
    (∃ old, DeliveryLive history pair id old ∧
      record.row.recipientAuthorizationDecisionId = old.row.recipientAuthorizationDecisionId) ∨
      after.decisions = history.decisions ∧ after.now = history.now ∧ ∃ decision,
        DecisionLive history pair record.row.recipientAuthorizationDecisionId decision := by
  obtain ⟨found, ofPair, effective⟩ := live
  cases effect with
  | moves time records =>
    exact .inl ⟨record, ⟨found, ofPair, deliveryEffective_earlier effective⟩, rfl⟩
  | decides => exact .inl ⟨record, ⟨found, ofPair, effective⟩, rfl⟩
  | ends => exact .inl ⟨record, ⟨found, ofPair, effective⟩, rfl⟩
  | @delivers _ added created decision decisionLive within =>
    cases stored : history.deliveries.find? added with
    | some taken =>
      rw [Table.insert_taken stored] at found
      exact .inl ⟨record, ⟨found, ofPair, effective⟩, rfl⟩
    | none =>
      rw [Table.find?_insert added stored] at found
      split at found
      · cases found
        rw [ofPair] at decisionLive
        exact .inr ⟨rfl, rfl, decision, decisionLive⟩
      · exact .inl ⟨record, ⟨found, ofPair, effective⟩, rfl⟩
  | @transitions _ changed update old foundOld edge =>
    rw [Table.find?_modify] at found
    split at found
    next same =>
      rw [same, foundOld] at found
      cases found
      obtain ⟨samePair, sameDecision, -⟩ := apply_keeps update old
      rw [samePair] at ofPair
      rw [same]
      exact .inl ⟨old, ⟨foundOld, ofPair, effective_before_transition edge effective⟩, sameDecision⟩
    · exact .inl ⟨record, ⟨found, ofPair, effective⟩, rfl⟩

def DeliveriesWithinScope (history : RecipientHistory) : Prop :=
  ∀ id record, history.deliveries.find? id = some record → ∃ decision,
    history.decisions.find? record.row.recipientAuthorizationDecisionId = some decision ∧
      record.row.disclosureScope ⊆ decision.disclosureScope

theorem HistoryEffect.withinScope (effect : HistoryEffect history action after)
    (within : DeliveriesWithinScope history) :
    DeliveriesWithinScope after := by
  intro id record found
  cases effect with
  | moves time records => exact within id record found
  | @decides actor added input row samePair complete =>
    obtain ⟨decision, stored, inside⟩ := within id record found
    cases absent : history.decisions.find? added with
    | some taken => exact ⟨decision, by rwa [Table.insert_taken absent], inside⟩
    | none =>
      exact ⟨decision, Table.find?_insert_of_found absent stored, inside⟩
  | @ends _ ended change ends =>
    obtain ⟨decision, stored, inside⟩ := within id record found
    rw [Table.find?_modify]
    split
    · exact ⟨change decision, by rw [stored]; rfl, by rwa [ends.sameScope]⟩
    · exact ⟨decision, stored, inside⟩
  | @delivers _ added created decision decisionLive inside =>
    cases stored : history.deliveries.find? added with
    | some taken =>
      rw [Table.insert_taken stored] at found
      exact within id record found
    | none =>
      rw [Table.find?_insert added stored] at found
      split at found
      · cases found
        exact ⟨decision, decisionLive.found, inside⟩
      · exact within id record found
  | @transitions _ changed update old foundOld edge =>
    rw [Table.find?_modify] at found
    split at found
    next same =>
      obtain ⟨before, stored, rfl⟩ := Option.map_eq_some_iff.mp found
      obtain ⟨-, sameDecision, sameScope⟩ := apply_keeps update before
      rw [sameDecision, sameScope]
      exact within id before stored
    · exact within id record found

structure SingleAuthorization (history : RecipientHistory) : Prop where
  single : ∀ pair id row other otherRow, DecisionLive history pair id row →
    DecisionLive history pair other otherRow → id = other
  aligned : ∀ pair id record decision row, DeliveryLive history pair id record →
    DecisionLive history pair decision row → record.row.recipientAuthorizationDecisionId = decision
  within : DeliveriesWithinScope history

/-- A decision whose chain is complete is created only for a pair with no effective decision
and no effective delivery. -/
def CreatesAlone (history : RecipientHistory) : HistoryAction → Prop
  | .createDecision actor _ input =>
    (∃ signal relationship,
      CompleteChain history.records actor input history.now signal relationship) →
    (∀ id row, ¬DecisionLive history (input.pairFor actor.tenantId) id row) ∧
      ∀ id record, ¬DeliveryLive history (input.pairFor actor.tenantId) id record
  | _ => True

theorem SingleAuthorization.step (inv : SingleAuthorization history)
    (alone : CreatesAlone history action) : SingleAuthorization (history.step action) := by
  have effect := historyEffect_step history action
  refine ⟨?_, ?_, effect.withinScope inv.within⟩
  · intro pair id row other otherRow live otherLive
    rcases effect.decisionLive live with before | ⟨-, -, actor, input, is, ofInput, complete⟩
    · rcases effect.decisionLive otherLive with otherBefore | ⟨-, -, actor, input, is, ofInput, complete⟩
      · exact inv.single pair id row other otherRow before otherBefore
      · rw [is] at alone
        rw [ofInput] at before
        exact absurd before ((alone complete).1 id row)
    · rcases effect.decisionLive otherLive with otherBefore | ⟨-, -, other', input', is', -⟩
      · rw [is] at alone
        rw [ofInput] at otherBefore
        exact absurd otherBefore ((alone complete).1 other otherRow)
      · rw [is] at is'
        exact (HistoryAction.createDecision.inj is').2.1
  · intro pair id record decision row delivery live
    rcases effect.decisionLive live with before | ⟨same, sameTime, actor, input, is, ofInput, complete⟩
    · rcases effect.deliveryLive delivery with ⟨old, oldLive, sameDecision⟩ | ⟨-, -, created, ofDelivery⟩
      · rw [sameDecision]
        exact inv.aligned pair id old decision row oldLive before
      · exact inv.single pair _ created _ row ofDelivery before
    · rw [is] at alone
      rw [ofInput] at delivery
      refine absurd ⟨?_, delivery.ofPair, ?_⟩ ((alone complete).2 id record)
      · rw [← same]
        exact delivery.found
      · rw [← sameTime]
        exact delivery.effective

theorem singleAuthorization_opened (now : Int) (records : FamilyDatabase) :
    SingleAuthorization (RecipientHistory.opened now records) where
  single := by
    intro pair id row other otherRow live
    have found := live.found
    cases found
  aligned := by
    intro pair id record decision row live
    have found := live.found
    cases found
  within := by
    intro id record found
    cases found

theorem SingleAuthorization.run {actions : List HistoryAction} (inv : SingleAuthorization history)
    (alone : Runs.Meets RecipientHistory.step CreatesAlone history actions) :
    ∀ reached ∈ Runs.states RecipientHistory.step history actions, SingleAuthorization reached :=
  Runs.invariant_states (fun inv alone => inv.step alone) inv alone

theorem noneLive_run {actions : List HistoryAction}
    (none : ∀ id row, ¬DecisionLive history pair id row)
    (uncreated : ∀ action ∈ actions, ∀ actor id input,
      action = .createDecision actor id input → input.pairFor actor.tenantId ≠ pair) :
    ∀ id row, ¬DecisionLive (Runs.run RecipientHistory.step history actions) pair id row := by
  induction actions generalizing history with
  | nil => exact none
  | cons action rest ih =>
    apply ih
    · intro id row live
      rcases (historyEffect_step history action).decisionLive live with
        before | ⟨-, -, actor, input, is, ofInput, -⟩
      · exact none id row before
      · exact uncreated action List.mem_cons_self actor id input is ofInput.symm
    · intro later member
      exact uncreated later (List.mem_cons_of_mem _ member)

/-! Revocations and deliveries in whole histories. -/

def runHistory (now : Int) (records : FamilyDatabase) (actions : List HistoryAction) :
    RecipientHistory :=
  Runs.run RecipientHistory.step (RecipientHistory.opened now records) actions

/-- After the effective decision of a pair has been revoked, none is reported before another has
been created; and an effective delivery is of a decision that is not revoked, within the scopes
of the effective decision. -/
structure RevocationsTakeEffect (now : Int) (records : FamilyDatabase)
    (actions : List HistoryAction) : Prop where
  revoked : ∀ first revoker id between last viewer signal recipient row revokedRow,
    actions = first ++ .revokeDecision revoker id :: (between ++ last) →
    (runHistory now records first).getEffectiveRecipientAuthorization viewer signal recipient =
      .ok (some (id, row)) →
    (runHistory now records (first ++ [.revokeDecision revoker id])).decisions.find? id =
      some revokedRow → revokedRow.revokedAt.isSome = true →
    (∀ action ∈ between, ∀ actor added input, action = .createDecision actor added input →
      input.pairFor actor.tenantId ≠ ⟨viewer.tenantId, signal, recipient⟩) →
    ∀ reader, reader.tenantId = viewer.tenantId → ∀ reported,
      (runHistory now records
        (first ++ .revokeDecision revoker id :: between)).getEffectiveRecipientAuthorization
          reader signal recipient ≠ .ok (some reported)
  delivered : ∀ reached ∈ Runs.states RecipientHistory.step (RecipientHistory.opened now records)
      actions, ∀ reader signal recipient id record,
    reached.getEffectiveSafetySignalDelivery reader signal recipient = .ok (some (id, record)) →
    ∃ decision, reached.decisions.find? record.row.recipientAuthorizationDecisionId =
        some decision ∧ decision.revokedAt = none ∧
      ∀ current currentRow, reached.getEffectiveRecipientAuthorization reader signal recipient =
        .ok (some (current, currentRow)) → record.row.disclosureScope ⊆ currentRow.disclosureScope

theorem DecisionLive.unrevoked (live : DecisionLive history pair id row) :
    row.revokedAt = none := by
  have effective := live.effective
  simp only [isRecipientAuthorizationDecisionRowEffective, Bool.and_eq_true] at effective
  exact Option.isNone_iff_eq_none.mp effective.1.1.1.2

theorem SingleAuthorization.noneLive_of_revoked {revoker : FamilyActorContext}
    {revokedRow : SafetyRecipientAuthorizationDecision} (inv : SingleAuthorization history)
    (live : DecisionLive history pair id row)
    (found : (history.step (.revokeDecision revoker id)).decisions.find? id = some revokedRow)
    (revoked : revokedRow.revokedAt.isSome = true) :
    ∀ other otherRow,
      ¬DecisionLive (history.step (.revokeDecision revoker id)) pair other otherRow := by
  intro other otherRow liveAfter
  rcases (historyEffect_step history _).decisionLive liveAfter with
    before | ⟨-, -, actor, input, is, -⟩
  · obtain rfl := inv.single pair id row other otherRow live before
    have same : otherRow = revokedRow := Option.some.inj (liveAfter.found.symm.trans found)
    rw [← same, liveAfter.unrevoked] at revoked
    cases revoked
  · cases is

/-- If decisions are created only for pairs without an effective decision or delivery, every
revocation takes effect. -/
theorem revocationsTakeEffect_of_createsAlone (now : Int) (records : FamilyDatabase)
    (actions : List HistoryAction)
    (alone : Runs.Meets RecipientHistory.step CreatesAlone (RecipientHistory.opened now records)
      actions) :
    RevocationsTakeEffect now records actions where
  revoked := by
    intro first revoker id between last viewer signal recipient row revokedRow split reported found
      revoked uncreated reader sameTenant other again
    rw [split] at alone
    have before : Runs.Meets RecipientHistory.step CreatesAlone _ first :=
      ((Runs.meets_append first _).mp alone).1
    have inv : SingleAuthorization (runHistory now records first) :=
      (singleAuthorization_opened now records).run before _ (Runs.run_mem_states first)
    have live := effectiveAuthorization_live reported
    have step : runHistory now records (first ++ [.revokeDecision revoker id]) =
        (runHistory now records first).step (.revokeDecision revoker id) := by
      unfold runHistory
      rw [Runs.run_append]
      rfl
    rw [step] at found
    have none := inv.noneLive_of_revoked live found revoked
    have later : runHistory now records (first ++ .revokeDecision revoker id :: between) =
        Runs.run RecipientHistory.step
          ((runHistory now records first).step (.revokeDecision revoker id)) between := by
      unfold runHistory
      rw [Runs.run_append]
      rfl
    rw [later] at again
    obtain ⟨otherId, otherRow⟩ := other
    have liveAgain := effectiveAuthorization_live again
    rw [sameTenant] at liveAgain
    exact noneLive_run none uncreated otherId otherRow liveAgain
  delivered := by
    intro reached member reader signal recipient id record reported
    have inv := (singleAuthorization_opened now records).run alone reached member
    obtain ⟨delivery, current, row, authorized⟩ := effectiveDelivery_live reported
    have live := effectiveAuthorization_live authorized
    have same := inv.aligned _ _ _ _ _ delivery live
    obtain ⟨decision, stored, inside⟩ := inv.within id record delivery.found
    have isRow : decision = row := by
      rw [same, live.found] at stored
      exact (Option.some.inj stored).symm
    refine ⟨decision, stored, ?_, ?_⟩
    · rw [isRow]
      exact live.unrevoked
    · intro other otherRow again
      rw [authorized] at again
      cases again
      rwa [isRow] at inside

/-! A mother with every record in place. -/

def motherIsRecipient : FamilyDatabase where
  relationships := [⟨"mother", "family", "child", "m1", "parent", .verified, none, none⟩]
  profiles := [⟨"child", "family", none⟩]
  memberships := [⟨"m1", "family", "u1", .owner⟩]
  signals := [⟨"signal", "family", "child", .critical, .other "bullying", none⟩]
  authorities := [⟨"authority", "family", "mother", .full, .verified, 0, none, 0, none, none⟩]
  consents := [mothersConsent]
  assessments := [⟨"assessment", "family", "mother", .safetySignal, .eligible, .approved,
    some "m1", some 0, none, 0, none, none⟩]

def decideFor (id : String) (scopes : List SafetyDisclosureScope) : HistoryAction :=
  .createDecision familyOwner id ⟨"signal", "m1", "mother", scopes, none⟩

def deliverFor (id decisionId : String) : HistoryAction :=
  .createDelivery familyOwner id ⟨decisionId, [], "key", none⟩

theorem revocationsTakeEffect_of_oneDecision :
    RevocationsTakeEffect 1 motherIsRecipient
      [decideFor "d1" [], deliverFor "v1" "d1", .elapse 1, .revokeDecision familyOwner "d1"] := by
  apply revocationsTakeEffect_of_createsAlone
  refine ⟨?_, trivial, trivial, trivial, trivial⟩
  intro _
  constructor
  · intro id row live
    have found := live.found
    cases found
  · intro id record live
    have found := live.found
    cases found

theorem reported_of_map {α β : Type} {result : Except FamilyError (Option α)} {view : α → β}
    {value : β} (mapped : result.map (Option.map view) = .ok (some value)) :
    ∃ entry, result = .ok (some entry) ∧ view entry = value := by
  cases result with
  | error failure => cases mapped
  | ok found =>
    obtain ⟨entry, rfl, same⟩ := Option.map_eq_some_iff.mp (Except.ok.inj mapped)
    exact ⟨entry, rfl, same⟩

def narrowedThenRevoked : List HistoryAction :=
  [decideFor "d1" [], .elapse 1, decideFor "d2" [.signalExistence],
    .revokeDecision familyOwner "d2"]

/-- A delivery of a decision that is revoked, and then replaced by a narrower one. -/
def deliveredThenNarrowed : List HistoryAction :=
  [decideFor "d1" [], deliverFor "v1" "d1", .revokeDecision familyOwner "d1", .elapse 1,
    decideFor "d2" [.signalExistence]]

theorem not_revocationsTakeEffect :
    ¬RevocationsTakeEffect 1 motherIsRecipient narrowedThenRevoked ∧
      ¬RevocationsTakeEffect 1 motherIsRecipient deliveredThenNarrowed := by
  constructor
  · intro effective
    obtain ⟨⟨id, row⟩, reported, rfl⟩ := reported_of_map
      (show ((runHistory 1 motherIsRecipient
        (narrowedThenRevoked.take 3)).getEffectiveRecipientAuthorization familyOwner "signal"
          "m1").map (Option.map Prod.fst) = .ok (some "d2") by decide +kernel)
    obtain ⟨again, reportedAgain, -⟩ := reported_of_map
      (show ((runHistory 1 motherIsRecipient narrowedThenRevoked).getEffectiveRecipientAuthorization
        familyOwner "signal" "m1").map (Option.map Prod.fst) = .ok (some "d1") by decide +kernel)
    have revoked : ((runHistory 1 motherIsRecipient narrowedThenRevoked).decisions.find? "d2").map
        (·.revokedAt.isSome) = some true := by decide +kernel
    obtain ⟨revokedRow, found, isRevoked⟩ := Option.map_eq_some_iff.mp revoked
    exact effective.revoked (narrowedThenRevoked.take 3) familyOwner "d2" [] [] familyOwner "signal"
      "m1" row revokedRow rfl reported found isRevoked (by simp) familyOwner rfl again
      reportedAgain
  · intro effective
    obtain ⟨⟨id, record⟩, reported, ofFirst⟩ := reported_of_map
      (show ((runHistory 1 motherIsRecipient
        deliveredThenNarrowed).getEffectiveSafetySignalDelivery familyOwner "signal" "m1").map
          (Option.map fun entry => entry.2.row.recipientAuthorizationDecisionId) =
            .ok (some "d1") by decide +kernel)
    have revoked : ((runHistory 1 motherIsRecipient deliveredThenNarrowed).decisions.find? "d1").map
        (·.revokedAt.isSome) = some true := by decide +kernel
    obtain ⟨decision, found, unrevoked, -⟩ := effective.delivered _
      (Runs.run_mem_states deliveredThenNarrowed) familyOwner "signal" "m1" id record reported
    rw [show record.row.recipientAuthorizationDecisionId = "d1" from ofFirst] at found
    obtain ⟨row, foundRow, isRevoked⟩ := Option.map_eq_some_iff.mp revoked
    have same : decision = row := Option.some.inj (found.symm.trans foundRow)
    rw [← same, unrevoked] at isRevoked
    cases isRevoked

end Tamanor.Db
