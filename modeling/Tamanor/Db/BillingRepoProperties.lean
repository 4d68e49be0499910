import Tamanor.Core.BillingProperties
import Tamanor.Db.BillingRepo

/-! What the billing calls do to the rows of one tenant, and how the access that the
webhook grants, the access that the gate enforces and the state that is displayed relate. -/

set_option autoImplicit false

namespace Tamanor.Db

open Tamanor.Core Library

structure TenantView where
  tenant : Option TenantRow
  subscription : Option SubscriptionRow

def BillingStore.view (store : BillingStore) (tenantId : String) : TenantView :=
  ⟨store.tenants.find? tenantId, store.subscriptions.find? tenantId⟩

variable {familyFlag : Option String} {store : BillingStore} {tenantId other : String}
  {event : StripeEvent} {input : StripeSubStateInput} {now : Int} {tenant : TenantRow}
  {row : SubscriptionRow}

@[simp] theorem view_recordEvent (result : WebhookOutcome) :
    (recordEvent store event result now).view tenantId = store.view tenantId := rfl

theorem view_applyEvent (persisted : PersistedState) :
    (applyEvent store other event input persisted).view tenantId =
      if tenantId = other then
        ⟨(store.tenants.find? tenantId).map fun tenant => tenant.billed input.status persisted,
          (store.subscriptions.find? tenantId).map fun row =>
            row.applied input event.eventCreatedAt (event.terminal input)⟩
      else store.view tenantId := by
  unfold BillingStore.view applyEvent
  dsimp only
  rw [Table.find?_modify, Table.find?_modify]
  split <;> rfl

theorem view_restrictTenant :
    (restrictTenant store other).view tenantId = store.view tenantId ∨
      ∃ tenant, store.tenants.find? tenantId = some tenant ∧ tenant.sweepable = true ∧
        (restrictTenant store other).view tenantId =
          { store.view tenantId with tenant := some { tenant with accessState := "restricted" } } := by
  unfold BillingStore.view restrictTenant
  dsimp only
  rw [Table.find?_modify]
  cases found : store.tenants.find? tenantId with
  | none =>
    refine .inl ?_
    split <;> rfl
  | some tenant =>
    by_cases hit : tenantId = other ∧ tenant.sweepable = true
    · exact .inr ⟨tenant, rfl, hit.2, by simp [hit.1, hit.2]⟩
    · refine .inl ?_
      by_cases same : tenantId = other
      · simp [same, show ¬ tenant.sweepable = true from fun sweepable => hit ⟨same, sweepable⟩]
      · simp [same]

def linkedSubscription (subscription : Option SubscriptionRow) (stripeCustomerId : String) :
    SubscriptionRow :=
  match subscription with
  | some row => { row with stripeCustomerId }
  | none => .created stripeCustomerId

theorem view_ensureStripeCustomer (stripeCustomerId : String) :
    (ensureStripeCustomer store other stripeCustomerId).view tenantId = store.view tenantId ∨
      (ensureStripeCustomer store other stripeCustomerId).view tenantId =
        { store.view tenantId with
          subscription := some (linkedSubscription (store.subscriptions.find? tenantId)
            stripeCustomerId) } := by
  unfold ensureStripeCustomer
  split
  next => exact .inl rfl
  next =>
    by_cases same : tenantId = other
    · subst same
      refine .inr ?_
      cases found : store.subscriptions.find? tenantId with
      | none => simp [BillingStore.view, linkedSubscription, Table.find?_insert tenantId found]
      | some row => simp [BillingStore.view, linkedSubscription, Table.find?_modify, found]
    · refine .inl ?_
      cases found : store.subscriptions.find? other with
      | none => simp [BillingStore.view, Table.find?_insert other found, same]
      | some row => simp [BillingStore.view, Table.find?_modify, same]

/-- The step is the transaction of a delivery that applies its event to the tenant. -/
def Commits (system : BillingSystem) (step : BillingStep) (tenantId : String) (event : StripeEvent)
    (input : StripeSubStateInput) (now : Int) : Prop :=
  ∃ client, step = .advance client ∧
    system.clients client = some (.resolved event now input tenantId) ∧
    eventAdmitted system.store tenantId event input = true ∧
    writeRefused system.store tenantId input = false

variable {system : BillingSystem} {client : Nat} {stage : BillingStage} {persisted : PersistedState}

theorem Commits.unique {step : BillingStep} {event' : StripeEvent} {input' : StripeSubStateInput}
    {now' : Int} (commits : Commits system step tenantId event input now)
    (commits' : Commits system step tenantId event' input' now') :
    event' = event ∧ input' = input ∧ now' = now := by
  obtain ⟨client, advanced, resolved, -⟩ := commits
  obtain ⟨client', advanced', resolved', -⟩ := commits'
  rw [advanced] at advanced'
  cases advanced'
  rw [resolved] at resolved'
  cases resolved'
  exact ⟨rfl, rfl, rfl⟩

inductive ViewStep (system : BillingSystem) (step : BillingStep) (tenantId : String)
    (before : TenantView) : TenantView → Prop where
  | same : (∀ event input now, ¬ Commits system step tenantId event input now) →
      ViewStep system step tenantId before before
  | linked (stripeCustomerId : String) :
      (∀ event input now, ¬ Commits system step tenantId event input now) →
      ViewStep system step tenantId before
        { before with subscription := some (linkedSubscription before.subscription stripeCustomerId) }
  | swept {tenant : TenantRow} :
      (∀ event input now, ¬ Commits system step tenantId event input now) →
      before.tenant = some tenant → tenant.sweepable = true →
      ViewStep system step tenantId before
        { before with tenant := some { tenant with accessState := "restricted" } }
  | billed {event : StripeEvent} {input : StripeSubStateInput} {now : Int} {tenant : TenantRow}
      {row : SubscriptionRow} :
      Commits system step tenantId event input now → before = ⟨some tenant, some row⟩ →
      row.admits event.eventCreatedAt (event.terminal input) = true →
      ViewStep system step tenantId before
        ⟨some (tenant.billed input.status (input.persistedState now)),
          some (row.applied input event.eventCreatedAt (event.terminal input))⟩

theorem eventAdmitted_iff :
    eventAdmitted store tenantId event input = true ↔
      ∃ row, store.subscriptions.find? tenantId = some row ∧
        row.admits event.eventCreatedAt (event.terminal input) = true := by
  unfold eventAdmitted
  cases store.subscriptions.find? tenantId with
  | none => simp
  | some row => simp

theorem exists_tenant_of_writeRefused (accepted : writeRefused store tenantId input = false) :
    ∃ tenant, store.tenants.find? tenantId = some tenant := by
  simp only [writeRefused, Bool.or_eq_false_iff, Option.isNone_eq_false_iff] at accepted
  exact Option.isSome_iff_exists.mp accepted.2

theorem view_commitEvent (persisted : PersistedState) :
    (commitEvent store other event input persisted now).1.view tenantId =
      if tenantId = other ∧ eventAdmitted store other event input = true ∧
          writeRefused store other input = false then
        (applyEvent store other event input persisted).view tenantId
      else store.view tenantId := by
  unfold commitEvent
  cases eventAdmitted store other event input with
  | false => simp
  | true =>
    cases writeRefused store other input with
    | true => simp
    | false =>
      by_cases same : tenantId = other
      · simp [same]
      · simp [same, view_applyEvent]

theorem applyEvent_view_self (foundTenant : store.tenants.find? tenantId = some tenant)
    (foundRow : store.subscriptions.find? tenantId = some row) (persisted : PersistedState) :
    (applyEvent store tenantId event input persisted).view tenantId =
      ⟨some (tenant.billed input.status persisted),
        some (row.applied input event.eventCreatedAt (event.terminal input))⟩ := by
  rw [view_applyEvent, if_pos rfl, foundTenant, foundRow]
  rfl

def BillingOutcome.stage? : BillingOutcome → Option BillingStage
  | .proceed stage => some stage
  | _ => none

def BillingOutcome.answer? : BillingOutcome → Option (StripeEvent × WebhookResult)
  | .answer event result => some (event, result)
  | _ => none

theorem step_advance (found : system.clients client = some stage) :
    system.step familyFlag (.advance client) =
      { store := (stage.next familyFlag system.store).1
        clients := Function.update system.clients client
          (stage.next familyFlag system.store).2.stage?
        answers := system.answers ++ (stage.next familyFlag system.store).2.answer?.toList } := by
  simp only [BillingSystem.step, found]
  generalize stage.next familyFlag system.store = reply
  obtain ⟨after, outcome⟩ := reply
  cases outcome <;> simp [BillingSystem.setClient, BillingOutcome.stage?, BillingOutcome.answer?]

theorem step_advance_idle (idle : system.clients client = none) :
    system.step familyFlag (.advance client) = system := by
  simp only [BillingSystem.step, idle]

theorem not_commits_of_not_resolved (tenantId : String) (found : system.clients client = some stage)
    (other : ∀ event now input, stage ≠ .resolved event now input tenantId) :
    ∀ event input now, ¬ Commits system (.advance client) tenantId event input now := by
  rintro event input now ⟨_, same, resolved, -, -⟩
  cases same
  rw [found] at resolved
  cases resolved
  exact other event now input rfl

theorem viewStep_of_unchanged {step : BillingStep}
    (quiet : ∀ event input now, ¬ Commits system step tenantId event input now)
    (same : (system.step familyFlag step).store.view tenantId = system.store.view tenantId) :
    ViewStep system step tenantId (system.store.view tenantId)
      ((system.step familyFlag step).store.view tenantId) := by
  rw [same]
  exact .same quiet

theorem viewStep_called {call : BillingCall} (found : system.clients client = some (.called call)) :
    ViewStep system (.advance client) tenantId (system.store.view tenantId)
      ((system.step familyFlag (.advance client)).store.view tenantId) := by
  have quiet := not_commits_of_not_resolved tenantId found
    (by intro event now input same; cases same)
  cases call with
  | recordAndApplyStripeEvent event now =>
    apply viewStep_of_unchanged quiet
    rw [step_advance found]
    simp only [BillingStage.next]
    split <;> rfl
  | sweepTrialExpirations now batchSize scan =>
    apply viewStep_of_unchanged quiet
    rw [step_advance found]
    rfl
  | ensureStripeCustomer target stripeCustomerId =>
    have after := @view_ensureStripeCustomer system.store tenantId target stripeCustomerId
    rw [step_advance found]
    simp only [BillingStage.next]
    rcases after with same | linked
    · rw [same]
      exact .same quiet
    · rw [linked]
      exact .linked stripeCustomerId quiet

theorem viewStep_resolved {target : String}
    (found : system.clients client = some (.resolved event now input target)) :
    ViewStep system (.advance client) tenantId (system.store.view tenantId)
      ((system.step familyFlag (.advance client)).store.view tenantId) := by
  have after : (system.step familyFlag (.advance client)).store.view tenantId =
      (commitEvent system.store target event input (input.persistedState now) now).1.view
        tenantId := by
    rw [step_advance found]
    rfl
  rw [after, view_commitEvent]
  split
  next applies =>
    obtain ⟨rfl, admitted, written⟩ := applies
    obtain ⟨row, foundRow, admits⟩ := eventAdmitted_iff.mp admitted
    obtain ⟨tenant, foundTenant⟩ := exists_tenant_of_writeRefused written
    rw [applyEvent_view_self foundTenant foundRow]
    refine .billed ⟨client, rfl, found, admitted, written⟩ ?_ admits
    rw [BillingStore.view, foundTenant, foundRow]
  next idle =>
    refine .same ?_
    rintro event input now ⟨_, same, resolved, admitted, written⟩
    cases same
    rw [found] at resolved
    cases resolved
    exact idle ⟨rfl, admitted, written⟩

theorem viewStep_restricting {candidates : List String}
    (found : system.clients client = some (.restricting candidates)) :
    ViewStep system (.advance client) tenantId (system.store.view tenantId)
      ((system.step familyFlag (.advance client)).store.view tenantId) := by
  have quiet := not_commits_of_not_resolved tenantId found
    (by intro event now input same; cases same)
  rw [step_advance found]
  cases candidates with
  | nil => exact .same quiet
  | cons candidate rest =>
    have after := @view_restrictTenant system.store tenantId candidate
    simp only [BillingStage.next]
    rcases after with same | ⟨tenant, foundTenant, sweepable, restricted⟩
    · rw [same]
      exact .same quiet
    · rw [restricted]
      exact .swept quiet foundTenant sweepable

theorem step_view (familyFlag : Option String) (system : BillingSystem) (step : BillingStep)
    (tenantId : String) :
    ViewStep system step tenantId (system.store.view tenantId)
      ((system.step familyFlag step).store.view tenantId) := by
  cases step with
  | start client call =>
    apply viewStep_of_unchanged
    · rintro event input now ⟨_, same, -⟩
      cases same
    · simp only [BillingSystem.step]
      split <;> rfl
  | crash client =>
    apply viewStep_of_unchanged
    · rintro event input now ⟨_, same, -⟩
      cases same
    · rfl
  | advance client =>
    cases found : system.clients client with
    | none =>
      apply viewStep_of_unchanged
      · rintro event input now ⟨_, same, resolved, -⟩
        cases same
        rw [found] at resolved
        cases resolved
      · rw [step_advance_idle found]
    | some stage =>
      cases stage with
      | called call => exact viewStep_called found
      | looked event now =>
        apply viewStep_of_unchanged (not_commits_of_not_resolved tenantId found
          (by intro event now input same; cases same))
        rw [step_advance found]
        simp only [BillingStage.next]
        cases event.input with
        | none => rfl
        | some input =>
          dsimp only
          split <;> rfl
      | routed event now input target =>
        apply viewStep_of_unchanged (not_commits_of_not_resolved tenantId found
          (by intro event now input same; cases same))
        rw [step_advance found]
        simp only [BillingStage.next]
        split <;> rfl
      | resolved event now input target => exact viewStep_resolved found
      | restricting candidates => exact viewStep_restricting found

/-! The access that an event grants and the access that is read back. -/

theorem recordAndApplyStripeEvent_processed
    (processed : (recordAndApplyStripeEvent familyFlag store event now).2.outcome = .processed) :
    ∃ input tenantId tenant row, event.input = some input ∧
      findTenantIdByStripeCustomer store input.stripeCustomerId = some tenantId ∧
      workspaceAccepts familyFlag (workspaceKindOf store tenantId) input = true ∧
      store.tenants.find? tenantId = some tenant ∧
      store.subscriptions.find? tenantId = some row ∧
      (recordAndApplyStripeEvent familyFlag store event now).2 =
        ⟨.processed, some tenantId, some (input.persistedState now).accessState⟩ ∧
      (recordAndApplyStripeEvent familyFlag store event now).1.view tenantId =
        ⟨some (tenant.billed input.status (input.persistedState now)),
          some (row.applied input event.eventCreatedAt (event.terminal input))⟩ := by
  unfold recordAndApplyStripeEvent at processed ⊢
  split at processed
  next => cases processed
  next fresh =>
    rw [if_neg fresh]
    cases given : event.input with
    | none =>
      rw [given] at processed
      cases processed
    | some input =>
      rw [given] at processed
      dsimp only at processed ⊢
      cases routed : findTenantIdByStripeCustomer store input.stripeCustomerId with
      | none =>
        rw [routed] at processed
        cases processed
      | some tenantId =>
        rw [routed] at processed
        dsimp only at processed ⊢
        split at processed
        next accepted =>
          rw [if_pos accepted]
          unfold commitEvent at processed ⊢
          cases admitted : eventAdmitted store tenantId event input with
          | false => simp [admitted] at processed
          | true =>
            cases refused : writeRefused store tenantId input with
            | true => simp [admitted, refused] at processed
            | false =>
              obtain ⟨row, foundRow, -⟩ := eventAdmitted_iff.mp admitted
              obtain ⟨tenant, foundTenant⟩ := exists_tenant_of_writeRefused refused
              refine ⟨input, tenantId, tenant, row, rfl, routed, accepted, foundTenant,
                foundRow, rfl, ?_⟩
              exact applyEvent_view_self foundTenant foundRow _
        next => cases processed

def OperationsMatch (store : BillingStore) (tenantId : String) (now : Int)
    (granted : Option AccessState) : Prop :=
  ((getTenantOperationGate store tenantId now).allowed = true ↔
      granted = some .fullAccess ∨ granted = some .gracePeriod) ∧
    ((getTenantEntitlements store tenantId now).allowsOperations = true ↔
      granted = some .fullAccess ∨ granted = some .gracePeriod)

instance (store : BillingStore) (tenantId : String) (now : Int) (granted : Option AccessState) :
    Decidable (OperationsMatch store tenantId now granted) :=
  inferInstanceAs (Decidable (_ ∧ _))

/-- The dates that decide the access of the event are those that the rows will have: the
trial of the tenant, and the paid-through date where the event leaves out its own. -/
def DatesReadBack (tenant : TenantRow) (row : SubscriptionRow) (input : StripeSubStateInput)
    (now : Int) : Prop :=
  match readStatus (some input.status) with
  | some .trialing | some .noSubscription =>
    isAhead input.trialEndsAt now = isAhead tenant.trialEndsAt now
  | some .pastDue =>
    input.currentPeriodEnd ≠ none ∨
      withinGrace row.currentPeriodEnd (defaultGraceDays * dayMs) now = false
  | some .canceled => input.currentPeriodEnd ≠ none ∨ isAhead row.currentPeriodEnd now = false
  | _ => True

theorem gateOfAccess_allowed (access : AccessState) :
    (gateOfAccess access).allowed = accessAllowsOperations access.value := by
  cases access <;> rfl

theorem accessAllowsOperations_value_iff (access : AccessState) :
    accessAllowsOperations access.value = true ↔ access = .fullAccess ∨ access = .gracePeriod := by
  cases access <;> decide

theorem resolveAccessState_ne_suspended (input : AccessInput) :
    resolveAccessState input ≠ .suspended := by
  unfold resolveAccessState
  generalize readStatus input.status = status
  rcases status with _ | status
  · simp
  · cases status <;> dsimp only
    all_goals first | decide | (split <;> decide)

theorem resolveEffectiveAccessState_eq_suspended_iff (input : EffectiveAccessInput) :
    resolveEffectiveAccessState input = .suspended ↔
      input.internalAccess = false ∧ (input.persistedAccessState = some "suspended" ∨
        input.status = some "unpaid" ∨ input.status = some "paused") := by
  unfold resolveEffectiveAccessState
  cases input.internalAccess with
  | true => simp
  | false =>
    by_cases override : input.persistedAccessState = some "suspended"
    · simp [override]
    · by_cases stopped : input.status = some "unpaid" ∨ input.status = some "paused"
      · simp [override, stopped]
      · simp [override, stopped, resolveAccessState_ne_suspended]

theorem value_eq_suspended_iff (access : AccessState) :
    access.value = "suspended" ↔ access = .suspended := by
  cases access <;> decide

theorem accessInput_effective :
    resolveEffectiveAccessState (input.accessInput now) =
      if readStatus (some input.status) = some .unpaid ∨
          readStatus (some input.status) = some .paused then .suspended
      else resolveAccessState (input.accessInput now).toAccessInput :=
  resolveEffectiveAccessState_of_plain rfl (by simp [StripeSubStateInput.accessInput])

theorem billed_effective (external : tenant.internalAccess = false)
    (granted : persisted.accessState = resolveEffectiveAccessState (input.accessInput now))
    (createdAt : Int) (terminal : Bool) (later : Int) :
    (tenant.billed input.status persisted).effectiveAccessState
        (some (row.applied input createdAt terminal)) later =
      if readStatus (some input.status) = some .unpaid ∨
          readStatus (some input.status) = some .paused then .suspended
      else resolveAccessState
        { status := some input.status
          trialEndsAt := tenant.trialEndsAt
          currentPeriodEnd := input.currentPeriodEnd <|> row.currentPeriodEnd
          cancelAtPeriodEnd := some (input.cancelAtPeriodEnd.getD row.cancelAtPeriodEnd)
          graceDays := none
          now := later } := by
  by_cases stopped : readStatus (some input.status) = some .unpaid ∨
      readStatus (some input.status) = some .paused
  · rw [if_pos stopped]
    refine (resolveEffectiveAccessState_eq_suspended_iff _).mpr ⟨external, .inr ?_⟩
    simp only [readStatus_eq_some_iff] at stopped
    exact stopped
  · have unsuspended : persisted.accessState ≠ .suspended := by
      rw [granted, accessInput_effective, if_neg stopped]
      exact resolveAccessState_ne_suspended _
    rw [if_neg stopped, TenantRow.effectiveAccessState, resolveEffectiveAccessState_of_plain external]
    · exact if_neg stopped
    · intro override
      exact unsuspended ((value_eq_suspended_iff _).mp (Option.some.inj override))

theorem allows_billed_iff_dates (external : tenant.internalAccess = false)
    (granted : persisted.accessState = resolveEffectiveAccessState (input.accessInput now))
    (createdAt : Int) (terminal : Bool) :
    (accessAllowsOperations ((tenant.billed input.status persisted).effectiveAccessState
        (some (row.applied input createdAt terminal)) now).value = true ↔
      accessAllowsOperations persisted.accessState.value = true) ↔
      DatesReadBack tenant row input now := by
  rw [billed_effective external granted, granted, accessInput_effective]
  unfold DatesReadBack resolveAccessState StripeSubStateInput.accessInput
  dsimp only
  generalize readStatus (some input.status) = status
  rcases status with _ | status
  · simp
  · cases status with
    | trialing | noSubscription =>
      cases isAhead input.trialEndsAt now <;> cases isAhead tenant.trialEndsAt now <;>
        simp [accessAllowsOperations, AccessState.value]
    | pastDue =>
      cases input.currentPeriodEnd with
      | some time => simp
      | none =>
        cases inGrace : withinGrace row.currentPeriodEnd (defaultGraceDays * dayMs) now <;>
          simp [inGrace, accessAllowsOperations, AccessState.value]
    | canceled =>
      cases input.currentPeriodEnd with
      | some time => simp
      | none =>
        cases paidThrough : isAhead row.currentPeriodEnd now <;>
          simp [paidThrough, accessAllowsOperations, AccessState.value]
    | active | unpaid | incomplete | incompleteExpired | paused => simp

theorem operationsMatch_iff {access : AccessState} (foundTenant : store.tenants.find? tenantId = some tenant)
    (business : tenant.workspaceKind ≠ "family") (active : tenant.deletionState = "active")
    (external : tenant.internalAccess = false) :
    OperationsMatch store tenantId now (some access) ↔
      (accessAllowsOperations (enforcedAccessState store tenantId tenant now).value = true ↔
        accessAllowsOperations access.value = true) := by
  have gate : (getTenantOperationGate store tenantId now).allowed =
      accessAllowsOperations (enforcedAccessState store tenantId tenant now).value := by
    unfold getTenantOperationGate
    rw [foundTenant]
    simp only [active, ne_eq, not_true_eq_false, if_false, gateOfAccess_allowed]
  have entitlements : (getTenantEntitlements store tenantId now).allowsOperations =
      accessAllowsOperations (enforcedAccessState store tenantId tenant now).value := by
    unfold getTenantEntitlements
    rw [foundTenant]
    simp only [active, business, external, if_false, bne_self_eq_false]
    exact resolveEntitlements_allowsOperations _ _
  simp only [OperationsMatch, gate, entitlements, Option.some.injEq,
    ← accessAllowsOperations_value_iff, and_self]

/-- After a processed event, the gate and the entitlements agree with the access that the
webhook returned exactly if the dates of the event are read back. -/
theorem operationsMatch_after_webhook_iff
    (processed : (recordAndApplyStripeEvent familyFlag store event now).2.outcome = .processed)
    (returned : (recordAndApplyStripeEvent familyFlag store event now).2.tenantId = some tenantId)
    (foundTenant : store.tenants.find? tenantId = some tenant)
    (foundRow : store.subscriptions.find? tenantId = some row)
    (given : event.input = some input)
    (business : tenant.workspaceKind ≠ "family") (active : tenant.deletionState = "active")
    (external : tenant.internalAccess = false) :
    OperationsMatch (recordAndApplyStripeEvent familyFlag store event now).1 tenantId now
        (recordAndApplyStripeEvent familyFlag store event now).2.accessState ↔
      DatesReadBack tenant row input now := by
  obtain ⟨input', tenantId', tenant', row', given', -, accepted, foundTenant', foundRow', result,
    after⟩ := recordAndApplyStripeEvent_processed processed
  rw [given] at given'
  cases given'
  rw [result] at returned
  cases returned
  rw [foundTenant] at foundTenant'
  cases foundTenant'
  rw [foundRow] at foundRow'
  cases foundRow'
  have businessPlan : isFamilyPlanId input.plan = false := by
    cases family : isFamilyPlanId input.plan with
    | false => rfl
    | true => simp [workspaceAccepts, workspaceKindOf, foundTenant, family, business] at accepted
  have granted : (input.persistedState now).accessState =
      resolveEffectiveAccessState (input.accessInput now) := by
    simp [StripeSubStateInput.persistedState, businessPlan]
  simp only [BillingStore.view, TenantView.mk.injEq] at after
  rw [result, operationsMatch_iff after.1 business active external, enforcedAccessState, after.2]
  exact allows_billed_iff_dates external granted _ _

def registeredTenant (trialEndsAt : Int) : TenantRow where
  workspaceKind := "business"
  plan := "free_trial"
  billingStatus := "no_subscription"
  accessState := "full_access"
  trialStartsAt := some 0
  trialEndsAt := some trialEndsAt
  internalAccess := false
  deletionState := "active"

def customerStore (tenant : TenantRow) : BillingStore where
  tenants := Table.empty.insert "tenant" tenant
  subscriptions := Table.empty.insert "tenant" (.created "cus")
  stripeWebhookEvents := .empty

def starterInput (status : String) : StripeSubStateInput where
  stripeCustomerId := "cus"
  stripeSubscriptionId := some "sub"
  stripePriceId := some "price"
  plan := "starter"
  billingInterval := some "monthly"
  status := status
  currentPeriodStart := none
  currentPeriodEnd := none
  cancelAtPeriodEnd := some false
  canceledAt := none
  trialEndsAt := none
  latestInvoiceStatus := none

def updatedEvent (id : String) (input : StripeSubStateInput) (eventCreated : Int) : StripeEvent :=
  ⟨id, "customer.subscription.updated", some input, eventCreated⟩

def stripeTrialEvent : StripeEvent :=
  updatedEvent "evt" { starterInput "trialing" with trialEndsAt := some 5000 } 1

theorem operationsMatch_after_active :
    OperationsMatch
      (recordAndApplyStripeEvent none (customerStore (registeredTenant 1000))
        (updatedEvent "evt" (starterInput "active") 1) 2000).1 "tenant" 2000 (some .fullAccess) ∧
      DatesReadBack (registeredTenant 1000) (.created "cus") (starterInput "active") 2000 := by
  have dates : DatesReadBack (registeredTenant 1000) (.created "cus") (starterInput "active")
    2000 := trivial
  refine ⟨?_, dates⟩
  have store : (customerStore (registeredTenant 1000)).tenants.find? "tenant" =
    some (registeredTenant 1000) := by decide +kernel
  have customer : (customerStore (registeredTenant 1000)).subscriptions.find? "tenant" =
    some (.created "cus") := by decide +kernel
  exact (operationsMatch_after_webhook_iff (by decide +kernel) (by decide +kernel) store customer
    rfl (by decide) rfl rfl).mpr dates

theorem not_operationsMatch_after_webhook :
    ¬ ∀ (familyFlag : Option String) (store : BillingStore) (event : StripeEvent) (now : Int)
      (tenantId : String) (tenant : TenantRow),
      (recordAndApplyStripeEvent familyFlag store event now).2.outcome = .processed →
      (recordAndApplyStripeEvent familyFlag store event now).2.tenantId = some tenantId →
      store.tenants.find? tenantId = some tenant →
      tenant.workspaceKind = "business" → tenant.deletionState = "active" →
      tenant.internalAccess = false →
      OperationsMatch (recordAndApplyStripeEvent familyFlag store event now).1 tenantId now
        (recordAndApplyStripeEvent familyFlag store event now).2.accessState := by
  intro claim
  have mismatch := claim none (customerStore (registeredTenant 1000)) stripeTrialEvent 2000 "tenant"
    (registeredTenant 1000) (by decide +kernel) (by decide +kernel) (by decide +kernel) rfl rfl rfl
  exact absurd mismatch (by decide +kernel)

/-- The effective access is `suspended` at every time. -/
def Suspended (tenantId : String) (system : BillingSystem) : Prop :=
  ∃ tenant, system.store.tenants.find? tenantId = some tenant ∧
    ∀ now, tenant.effectiveAccessState (system.store.subscriptions.find? tenantId) now = .suspended

def StopsCollection (tenantId : String) (system : BillingSystem) (step : BillingStep) : Prop :=
  ∀ event input now, Commits system step tenantId event input now →
    input.status = "unpaid" ∨ input.status = "paused"

/-- A business tenant, and deliveries in flight that were routed to the kind of workspace
that their tenant is. -/
structure BusinessRouted (familyFlag : Option String) (tenantId : String) (system : BillingSystem) :
    Prop where
  business : workspaceKindOf system.store tenantId ≠ "family"
  routed : ∀ {client event now input}, system.clients client = some (.resolved event now input tenantId) →
    workspaceAccepts familyFlag (workspaceKindOf system.store tenantId) input = true

theorem workspaceKindOf_view :
    workspaceKindOf store tenantId =
      ((store.view tenantId).tenant.map TenantRow.workspaceKind).getD "business" := rfl

theorem workspaceKindOf_step (system : BillingSystem) (step : BillingStep) :
    workspaceKindOf (system.step familyFlag step).store tenantId =
      workspaceKindOf system.store tenantId := by
  rw [workspaceKindOf_view, workspaceKindOf_view]
  have change := step_view familyFlag system step tenantId
  generalize (system.step familyFlag step).store.view tenantId = after at change
  cases change with
  | same => rfl
  | linked => rfl
  | swept quiet found sweepable => simp [found]
  | billed commits found admits => simp [found, TenantRow.billed]

theorem clients_of_step {step : BillingStep}
    (found : (system.step familyFlag step).clients client = some stage) :
    system.clients client = some stage ∨ (∃ call, stage = .called call) ∨
      ∃ before, step = .advance client ∧ system.clients client = some before ∧
        (before.next familyFlag system.store).2.stage? = some stage := by
  cases step with
  | start starter call =>
    simp only [BillingSystem.step] at found
    split at found
    next =>
      by_cases same : client = starter
      · subst same
        simp only [BillingSystem.setClient, Function.update_self, Option.some.injEq] at found
        exact .inr (.inl ⟨call, found.symm⟩)
      · simp only [BillingSystem.setClient, Function.update_of_ne same] at found
        exact .inl found
    next => exact .inl found
  | crash crashed =>
    by_cases same : client = crashed
    · subst same
      simp [BillingSystem.step, BillingSystem.setClient] at found
    · simp only [BillingSystem.step, BillingSystem.setClient, Function.update_of_ne same] at found
      exact .inl found
  | advance moved =>
    cases stood : system.clients moved with
    | none =>
      rw [step_advance_idle stood] at found
      exact .inl found
    | some before =>
      rw [step_advance stood] at found
      dsimp only at found
      by_cases same : client = moved
      · subst same
        rw [Function.update_self] at found
        exact .inr (.inr ⟨before, rfl, stood, found⟩)
      · rw [Function.update_of_ne same] at found
        exact .inl found

theorem next_resolved {before : BillingStage} {target : String}
    (next : (before.next familyFlag store).2.stage? = some (.resolved event now input target)) :
    before = .routed event now input target ∧
      workspaceAccepts familyFlag (workspaceKindOf store target) input = true := by
  cases before with
  | called call =>
    cases call with
    | recordAndApplyStripeEvent event now =>
      simp only [BillingStage.next] at next
      split at next <;> cases next
    | sweepTrialExpirations now batchSize scan => cases next
    | ensureStripeCustomer target stripeCustomerId => cases next
  | looked event now =>
    simp only [BillingStage.next] at next
    cases given : event.input with
    | none =>
      rw [given] at next
      cases next
    | some input =>
      rw [given] at next
      dsimp only at next
      split at next <;> cases next
  | routed event now input target =>
    simp only [BillingStage.next] at next
    split at next
    next accepted =>
      cases next
      exact ⟨rfl, accepted⟩
    next => cases next
  | resolved event now input target => cases next
  | restricting candidates => cases candidates <;> cases next

theorem BusinessRouted.step {step : BillingStep}
    (frame : BusinessRouted familyFlag tenantId system) :
    BusinessRouted familyFlag tenantId (system.step familyFlag step) where
  business := by
    rw [workspaceKindOf_step]
    exact frame.business
  routed := by
    intro client event now input found
    rw [workspaceKindOf_step]
    rcases clients_of_step found with kept | ⟨call, started⟩ | ⟨before, -, -, next⟩
    · exact frame.routed kept
    · cases started
    · exact (next_resolved next).2

theorem billed_suspended_iff (external : tenant.internalAccess = false)
    (granted : persisted.accessState = resolveEffectiveAccessState (input.accessInput now))
    (createdAt : Int) (terminal : Bool) :
    (∀ later, (tenant.billed input.status persisted).effectiveAccessState
        (some (row.applied input createdAt terminal)) later = .suspended) ↔
      input.status = "unpaid" ∨ input.status = "paused" := by
  simp only [billed_effective external granted, readStatus_eq_some_iff]
  constructor
  · intro suspended
    by_contra running
    have read := suspended 0
    rw [if_neg] at read
    · exact resolveAccessState_ne_suspended _ read
    · rintro (unpaid | paused)
      · exact running (.inl (Option.some.inj unpaid))
      · exact running (.inr (Option.some.inj paused))
  · rintro stopped later
    rw [if_pos]
    rcases stopped with unpaid | paused
    · exact .inl (congrArg some unpaid)
    · exact .inr (congrArg some paused)

theorem persistedState_business (now : Int) (business : workspaceKindOf store tenantId ≠ "family")
    (accepted : workspaceAccepts familyFlag (workspaceKindOf store tenantId) input = true) :
    (input.persistedState now).accessState = resolveEffectiveAccessState (input.accessInput now) := by
  cases family : isFamilyPlanId input.plan with
  | false => simp [StripeSubStateInput.persistedState, family]
  | true => simp [workspaceAccepts, family, business] at accepted

theorem effective_eq_suspended_iff {subscription : Option SubscriptionRow} :
    tenant.effectiveAccessState subscription now = .suspended ↔
      tenant.internalAccess = false ∧ (tenant.accessState = "suspended" ∨
        tenant.billingStatus = "unpaid" ∨ tenant.billingStatus = "paused") := by
  unfold TenantRow.effectiveAccessState
  rw [resolveEffectiveAccessState_eq_suspended_iff]
  simp [TenantRow.accessInput]

theorem suspended_step_iff {step : BillingStep} (frame : BusinessRouted familyFlag tenantId system)
    (suspended : Suspended tenantId system) :
    Suspended tenantId (system.step familyFlag step) ↔ StopsCollection tenantId system step := by
  obtain ⟨tenant, foundTenant, effective⟩ := suspended
  have external := (effective_eq_suspended_iff.mp (effective 0)).1
  have change := step_view familyFlag system step tenantId
  unfold Suspended
  simp only [BillingStore.view] at change
  generalize (system.step familyFlag step).store.tenants.find? tenantId = tenantAfter at change ⊢
  generalize (system.step familyFlag step).store.subscriptions.find? tenantId = rowAfter at change ⊢
  generalize stood : TenantView.mk tenantAfter rowAfter = after at change
  cases change with
  | same quiet =>
    cases stood
    exact iff_of_true ⟨tenant, foundTenant, effective⟩
      fun event input now commits => absurd commits (quiet event input now)
  | linked stripeCustomerId quiet =>
    cases stood
    refine iff_of_true ⟨tenant, foundTenant, fun now => ?_⟩
      fun event input now commits => absurd commits (quiet event input now)
    exact effective_eq_suspended_iff.mpr (effective_eq_suspended_iff.mp (effective now))
  | swept quiet found sweepable =>
    rw [foundTenant] at found
    cases found
    have held := (effective_eq_suspended_iff.mp (effective 0)).2
    simp only [TenantRow.sweepable, Bool.and_eq_true, beq_iff_eq] at sweepable
    simp [sweepable.1.2, sweepable.2] at held
  | @billed event input now held row commits found admits =>
    cases stood
    rw [foundTenant] at found
    cases (TenantView.mk.inj found).1
    obtain ⟨client, advanced, resolved, -, -⟩ := id commits
    have granted := persistedState_business now frame.business (frame.routed resolved)
    have stops := @billed_suspended_iff input now tenant row _ external granted
      event.eventCreatedAt (event.terminal input)
    constructor
    · rintro ⟨_, same, after⟩ event' input' now' commits'
      cases same
      rw [(commits.unique commits').2.1]
      exact stops.mp after
    · intro stopped
      exact ⟨_, rfl, stops.mpr (stopped event input now commits)⟩

theorem suspended_states_iff {steps : List BillingStep}
    (frame : BusinessRouted familyFlag tenantId system) (suspended : Suspended tenantId system) :
    (∀ reached ∈ Runs.states (BillingSystem.step familyFlag) system steps,
        Suspended tenantId reached) ↔
      Runs.Meets (BillingSystem.step familyFlag) (StopsCollection tenantId) system steps :=
  @Runs.forall_states_iff_meets _ _ (BillingSystem.step familyFlag) _ _ _
    (BusinessRouted familyFlag tenantId) (fun frame => frame.step)
    (fun frame suspended => suspended_step_iff frame suspended) steps frame suspended

theorem suspended_of_override (foundTenant : system.store.tenants.find? tenantId = some tenant)
    (override : tenant.accessState = "suspended") (external : tenant.internalAccess = false) :
    Suspended tenantId system :=
  ⟨tenant, foundTenant, fun _ => effective_eq_suspended_iff.mpr ⟨external, .inl override⟩⟩

/-- A business tenant with a persisted suspension stays suspended in every state of a run
exactly if every event that the run applies to it stops the collection. -/
theorem override_outranks_billing_iff {system : BillingSystem} {steps : List BillingStep}
    (frame : BusinessRouted familyFlag tenantId system)
    (foundTenant : system.store.tenants.find? tenantId = some tenant)
    (override : tenant.accessState = "suspended") (external : tenant.internalAccess = false) :
    (∀ reached ∈ Runs.states (BillingSystem.step familyFlag) system steps,
        Suspended tenantId reached) ↔
      Runs.Meets (BillingSystem.step familyFlag) (StopsCollection tenantId) system steps :=
  suspended_states_iff frame (suspended_of_override foundTenant override external)

def suspendedTenant : TenantRow :=
  { registeredTenant 1000 with billingStatus := "active", accessState := "suspended" }

def suspendedSystem : BillingSystem := .opened (customerStore suspendedTenant)

theorem businessRouted_opened (business : workspaceKindOf store tenantId ≠ "family") :
    BusinessRouted familyFlag tenantId (.opened store) where
  business := business
  routed := by
    intro client event now input found
    cases found

theorem override_outranks_sweep :
    suspendedSystem.store.tenants.find? "tenant" = some suspendedTenant ∧
      ∀ reached ∈ Runs.states (BillingSystem.step none) suspendedSystem
        [.start 0 (.sweepTrialExpirations 2000 500 ["tenant"]), .advance 0],
        Suspended "tenant" reached := by
  have frame : BusinessRouted none "tenant" suspendedSystem :=
    businessRouted_opened (by decide +kernel)
  have found : suspendedSystem.store.tenants.find? "tenant" = some suspendedTenant := by
    decide +kernel
  refine ⟨found, (override_outranks_billing_iff frame found rfl rfl).mpr ⟨?_, ?_, trivial⟩⟩
  · rintro event input now ⟨client, started, -⟩
    cases started
  · rintro event input now ⟨client, advanced, resolved, -⟩
    cases advanced
    cases resolved

def delivery (client : Nat) (event : StripeEvent) (now : Int) : List BillingStep :=
  [.start client (.recordAndApplyStripeEvent event now), .advance client, .advance client,
    .advance client, .advance client]

theorem not_override_outranks_billing :
    ¬ ∀ (familyFlag : Option String) (store : BillingStore) (tenantId : String)
      (tenant : TenantRow) (steps : List BillingStep),
      store.tenants.find? tenantId = some tenant → tenant.workspaceKind = "business" →
      tenant.accessState = "suspended" → tenant.internalAccess = false →
      tenant.billingStatus ≠ "unpaid" → tenant.billingStatus ≠ "paused" →
      ∀ reached ∈ Runs.states (BillingSystem.step familyFlag) (.opened store) steps,
        Suspended tenantId reached := by
  intro claim
  have kept := claim none (customerStore suspendedTenant) "tenant" suspendedTenant
    (delivery 0 (updatedEvent "evt" (starterInput "active") 1) 2000) (by decide +kernel) rfl rfl rfl
    (by decide) (by decide) _ (Runs.run_mem_states _)
  obtain ⟨tenant, found, suspended⟩ := kept
  have lifted : ((Runs.run (BillingSystem.step none) suspendedSystem
      (delivery 0 (updatedEvent "evt" (starterInput "active") 1) 2000)).store.tenants.find?
        "tenant").map TenantRow.accessState = some "full_access" := by
    decide +kernel
  have status : ((Runs.run (BillingSystem.step none) suspendedSystem
      (delivery 0 (updatedEvent "evt" (starterInput "active") 1) 2000)).store.tenants.find?
        "tenant").map TenantRow.billingStatus = some "active" := by
    decide +kernel
  rw [suspendedSystem, found] at lifted status
  simp only [Option.map_some, Option.some.injEq] at lifted status
  have held := (effective_eq_suspended_iff.mp (suspended 0)).2
  simp [lifted, status] at held

def IsTrialStatus (status : String) : Prop := status = "no_subscription" ∨ status = "trialing"

def TenantView.Registered (view : TenantView) : Prop :=
  view.subscription = none ∧ ∃ tenant, view.tenant = some tenant ∧ IsTrialStatus tenant.billingStatus

/-- The status is stored twice; the copies may only differ in how a trial is called. -/
def TenantView.StatusesAgree (view : TenantView) : Prop :=
  ∃ tenant, view.tenant = some tenant ∧
    match view.subscription with
    | none => IsTrialStatus tenant.billingStatus
    | some row => row.status = tenant.billingStatus ∨
        IsTrialStatus row.status ∧ IsTrialStatus tenant.billingStatus

theorem TenantView.Registered.statusesAgree {view : TenantView} (registered : view.Registered) :
    view.StatusesAgree := by
  obtain ⟨absent, tenant, found, trial⟩ := registered
  refine ⟨tenant, found, ?_⟩
  rw [absent]
  exact trial

theorem statusesAgree_step {step : BillingStep}
    (agree : (system.store.view tenantId).StatusesAgree) :
    ((system.step familyFlag step).store.view tenantId).StatusesAgree := by
  have change := step_view familyFlag system step tenantId
  obtain ⟨tenant, found, statuses⟩ := agree
  generalize (system.step familyFlag step).store.view tenantId = after at change
  cases change with
  | same => exact ⟨tenant, found, statuses⟩
  | linked stripeCustomerId =>
    refine ⟨tenant, found, ?_⟩
    cases stored : (system.store.view tenantId).subscription with
    | none =>
      rw [stored] at statuses
      exact .inr ⟨.inl rfl, statuses⟩
    | some row =>
      rw [stored] at statuses
      exact statuses
  | swept quiet foundTenant sweepable =>
    rw [found] at foundTenant
    cases foundTenant
    exact ⟨_, rfl, statuses⟩
  | billed => exact ⟨_, rfl, .inl rfl⟩

theorem presentation_effectiveAccessState (input : BusinessBillingInput) :
    (resolveBusinessBillingPresentation input).effectiveAccessState =
      resolveEffectiveAccessState input.lifecycleInput := by
  unfold resolveBusinessBillingPresentation
  dsimp only
  repeat' split
  all_goals rfl

theorem resolveEffectiveAccessState_trial {status status' : String} (trial : IsTrialStatus status)
    (trial' : IsTrialStatus status') (input : EffectiveAccessInput) :
    resolveEffectiveAccessState { input with status := some status } =
      resolveEffectiveAccessState { input with status := some status' } := by
  rcases trial with rfl | rfl <;> rcases trial' with rfl | rfl <;> rfl

theorem lifecycleInput_eq (subscription : Option SubscriptionRow) :
    (tenant.presentationInput subscription now).lifecycleInput =
      { tenant.accessInput subscription now with
        status := some ((subscription.map SubscriptionRow.status).getD tenant.billingStatus) } := by
  cases subscription <;> rfl

theorem presentation_eq_enforced {billing : TenantBilling}
    (agree : (store.view tenantId).StatusesAgree)
    (read : getTenantBilling store tenantId now = some billing) :
    ∃ tenant, store.tenants.find? tenantId = some tenant ∧
      billing.presentation.effectiveAccessState = enforcedAccessState store tenantId tenant now := by
  obtain ⟨tenant, found, statuses⟩ := agree
  refine ⟨tenant, found, ?_⟩
  have presented : billing.presentation = resolveBusinessBillingPresentation
      (tenant.presentationInput (store.subscriptions.find? tenantId) now) := by
    rw [getTenantBilling, show store.tenants.find? tenantId = some tenant from found] at read
    cases read
    rfl
  rw [presented, presentation_effectiveAccessState, lifecycleInput_eq, enforcedAccessState,
    TenantRow.effectiveAccessState]
  change match store.subscriptions.find? tenantId with
    | none => _
    | some row => _ at statuses
  cases stored : store.subscriptions.find? tenantId with
  | none => rfl
  | some row =>
    rw [stored] at statuses
    rcases statuses with same | ⟨trial, trial'⟩
    · rw [Option.map_some, Option.getD_some, same]
      rfl
    · exact resolveEffectiveAccessState_trial trial trial' (tenant.accessInput (some row) now)

/-- In every state that a registered tenant reaches, the access on the billing page is the
one that the gate enforces. -/
def DisplayMatchesEnforcement : Prop :=
  ∀ (familyFlag : Option String) (system : BillingSystem) (tenantId : String)
    (steps : List BillingStep) (now : Int) (billing : TenantBilling),
    (system.store.view tenantId).Registered →
    getTenantBilling (system.run familyFlag steps).store tenantId now = some billing →
    ∃ tenant, (system.run familyFlag steps).store.tenants.find? tenantId = some tenant ∧
      billing.presentation.effectiveAccessState =
        enforcedAccessState (system.run familyFlag steps).store tenantId tenant now

theorem displayMatchesEnforcement : DisplayMatchesEnforcement := by
  intro familyFlag system tenantId steps now billing registered read
  refine presentation_eq_enforced ?_ read
  exact @Runs.invariant_run _ _ (BillingSystem.step familyFlag)
    (fun system => (system.store.view tenantId).StatusesAgree) system
    (fun agree => statusesAgree_step agree) steps registered.statusesAgree

/-- The page always shows the enforced access; the label is active exactly with full access,
but for a trial that outlives its status. -/
theorem display_matches_enforcement_and_label_iff (input : EffectiveAccessInput) :
    DisplayMatchesEnforcement ∧
      (((resolveTenantLifecycle input).IsActive ↔
        resolveEffectiveAccessState input = .fullAccess) ↔ ¬ TrialOutlivesStatus input) :=
  ⟨displayMatchesEnforcement, lifecycle_isActive_iff_fullAccess_iff input⟩

def unsettledTrial : EffectiveAccessInput where
  status := some "incomplete_expired"
  trialEndsAt := some 5000
  currentPeriodEnd := none
  cancelAtPeriodEnd := none
  graceDays := none
  now := 2000
  persistedAccessState := none
  internalAccess := false

theorem not_display_matches_enforcement_and_label :
    ¬ (DisplayMatchesEnforcement ∧ ∀ input : EffectiveAccessInput,
      ((resolveTenantLifecycle input).IsActive ↔
        resolveEffectiveAccessState input = .fullAccess)) := by
  rintro ⟨-, label⟩
  exact absurd (label unsettledTrial) (by decide +kernel)

end Tamanor.Db
