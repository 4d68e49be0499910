import Tamanor.Core.Entitlements
import Tamanor.Library.Runs
import Tamanor.Library.Table

/-! Billing persistence (`billing-repo.ts`): the read-time gates, the Stripe webhook and
the trial sweep. A webhook delivery reads, decides and then commits one transaction;
other calls may run between its statements. -/

set_option autoImplicit false

namespace Tamanor.Db

open Tamanor.Core Library

structure TenantRow where
  workspaceKind : String
  plan : String
  billingStatus : String
  accessState : String
  trialStartsAt : Option Int
  trialEndsAt : Option Int
  internalAccess : Bool
  deletionState : String
deriving DecidableEq

structure SubscriptionRow where
  stripeCustomerId : String
  stripeSubscriptionId : Option String
  stripePriceId : Option String
  plan : String
  billingInterval : Option String
  status : String
  currentPeriodStart : Option Int
  currentPeriodEnd : Option Int
  cancelAtPeriodEnd : Bool
  canceledAt : Option Int
  trialEndsAt : Option Int
  latestInvoiceStatus : Option String
  lastStripeEventAt : Option Int
  lastStripeEventTerminal : Bool
deriving DecidableEq

inductive WebhookOutcome where
  | processed | duplicate | ignored | failed | stale
deriving DecidableEq

structure StripeWebhookEventRow where
  eventType : String
  result : WebhookOutcome
  processedAt : Int

structure BillingStore where
  tenants : Table String TenantRow
  subscriptions : Table String SubscriptionRow
  stripeWebhookEvents : Table String StripeWebhookEventRow

variable (tenant : TenantRow) (subscription : Option SubscriptionRow)

def TenantRow.accessInput (now : Int) : EffectiveAccessInput where
  status := some tenant.billingStatus
  trialEndsAt := tenant.trialEndsAt
  currentPeriodEnd := subscription.bind SubscriptionRow.currentPeriodEnd
  cancelAtPeriodEnd := subscription.map SubscriptionRow.cancelAtPeriodEnd
  graceDays := none
  now := now
  persistedAccessState := some tenant.accessState
  internalAccess := tenant.internalAccess

def TenantRow.effectiveAccessState (now : Int) : AccessState :=
  resolveEffectiveAccessState (tenant.accessInput subscription now)

def TenantRow.presentationInput (now : Int) : BusinessBillingInput where
  tenantPlan := some tenant.plan
  billingStatus := some tenant.billingStatus
  persistedAccessState := some tenant.accessState
  internalAccess := tenant.internalAccess
  trialEndsAt := tenant.trialEndsAt
  subscription := subscription.map fun row =>
    { plan := some row.plan
      status := some row.status
      billingInterval := row.billingInterval
      currentPeriodEnd := row.currentPeriodEnd
      cancelAtPeriodEnd := row.cancelAtPeriodEnd }
  now := now

structure TenantBillingSubscription where
  plan : String
  status : String
  billingInterval : Option String
  currentPeriodEnd : Option Int
  cancelAtPeriodEnd : Bool
  canceledAt : Option Int
  latestInvoiceStatus : Option String
  hasStripeCustomer : Bool

structure TenantBilling where
  tenantId : String
  plan : String
  billingStatus : String
  accessState : String
  effectiveAccessState : AccessState
  lifecycle : TenantLifecycleState
  trialDaysRemaining : Option Int
  trialStartsAt : Option Int
  trialEndsAt : Option Int
  internalAccess : Bool
  presentation : BusinessBillingPresentation
  subscription : Option TenantBillingSubscription

variable (store : BillingStore)

def getTenantBilling (tenantId : String) (now : Int) : Option TenantBilling :=
  (store.tenants.find? tenantId).map fun tenant =>
    let subscription := store.subscriptions.find? tenantId
    { tenantId
      plan := tenant.plan
      billingStatus := tenant.billingStatus
      accessState := tenant.accessState
      effectiveAccessState := tenant.effectiveAccessState subscription now
      lifecycle := resolveTenantLifecycle (tenant.accessInput subscription now)
      trialDaysRemaining := trialDaysRemaining tenant.trialEndsAt now
      trialStartsAt := tenant.trialStartsAt
      trialEndsAt := tenant.trialEndsAt
      internalAccess := tenant.internalAccess
      presentation := resolveBusinessBillingPresentation (tenant.presentationInput subscription now)
      subscription := subscription.map fun row =>
        { plan := row.plan
          status := row.status
          billingInterval := row.billingInterval
          currentPeriodEnd := row.currentPeriodEnd
          cancelAtPeriodEnd := row.cancelAtPeriodEnd
          canceledAt := row.canceledAt
          latestInvoiceStatus := row.latestInvoiceStatus
          hasStripeCustomer := row.stripeCustomerId != "" } }

def getTenantEntitlements (tenantId : String) (now : Int) : PlanEntitlements :=
  match store.tenants.find? tenantId with
  | none => resolveEntitlements none none false false
  | some tenant =>
    let subscription := store.subscriptions.find? tenantId
    let plan :=
      if tenant.workspaceKind = "family" then tenant.plan
      else (resolveEffectiveBusinessPlan (tenant.presentationInput subscription now)).value
    resolveEntitlements (some plan) (some (tenant.effectiveAccessState subscription now).value)
      (tenant.deletionState != "active") tenant.internalAccess

inductive OperationGateReason where
  | tenantDeleting | billingRestricted | suspended | tenantMissing

structure OperationGate where
  allowed : Bool
  reason : Option OperationGateReason

def gateOfAccess (access : AccessState) : OperationGate :=
  if access = .suspended then ⟨false, some .suspended⟩
  else if !accessAllowsOperations access.value then ⟨false, some .billingRestricted⟩
  else ⟨true, none⟩

def enforcedAccessState (tenantId : String) (tenant : TenantRow) (now : Int) : AccessState :=
  tenant.effectiveAccessState (store.subscriptions.find? tenantId) now

def getTenantOperationGate (tenantId : String) (now : Int) : OperationGate :=
  match store.tenants.find? tenantId with
  | none => ⟨false, some .tenantMissing⟩
  | some tenant =>
    if tenant.deletionState ≠ "active" then ⟨false, some .tenantDeleting⟩
    else gateOfAccess (enforcedAccessState store tenantId tenant now)

variable (stripeCustomerId : String)

def customerRow : Option (String × SubscriptionRow) :=
  store.subscriptions.rows.find? fun row => row.2.stripeCustomerId == stripeCustomerId

def findTenantIdByStripeCustomer : Option String :=
  (customerRow store stripeCustomerId).map Prod.fst

def SubscriptionRow.created : SubscriptionRow where
  stripeCustomerId := stripeCustomerId
  stripeSubscriptionId := none
  stripePriceId := none
  plan := "free_trial"
  billingInterval := none
  status := "no_subscription"
  currentPeriodStart := none
  currentPeriodEnd := none
  cancelAtPeriodEnd := false
  canceledAt := none
  trialEndsAt := none
  latestInvoiceStatus := none
  lastStripeEventAt := none
  lastStripeEventTerminal := false

def customerTaken (tenantId stripeCustomerId : String) : Bool :=
  match findTenantIdByStripeCustomer store stripeCustomerId with
  | none => false
  | some holder => holder != tenantId

/-- The upsert throws, and changes nothing, if the customer is taken or if there is no such
tenant. -/
def ensureStripeCustomer (tenantId stripeCustomerId : String) : BillingStore :=
  if customerTaken store tenantId stripeCustomerId || (store.tenants.find? tenantId).isNone then
    store
  else
    match store.subscriptions.find? tenantId with
    | some _ =>
      { store with
        subscriptions := store.subscriptions.modify tenantId fun row =>
          { row with stripeCustomerId } }
    | none =>
      { store with
        subscriptions := store.subscriptions.insert tenantId (.created stripeCustomerId) }

structure StripeSubStateInput where
  stripeCustomerId : String
  stripeSubscriptionId : Option String
  stripePriceId : Option String
  plan : String
  billingInterval : Option String
  status : String
  currentPeriodStart : Option Int
  currentPeriodEnd : Option Int
  cancelAtPeriodEnd : Option Bool
  canceledAt : Option Int
  trialEndsAt : Option Int
  latestInvoiceStatus : Option String
deriving DecidableEq

/-- The arguments of one delivery but for its time; `eventCreated` is in seconds. -/
structure StripeEvent where
  stripeEventId : String
  eventType : String
  input : Option StripeSubStateInput
  eventCreated : Int
deriving DecidableEq

structure WebhookResult where
  outcome : WebhookOutcome
  tenantId : Option String
  accessState : Option AccessState

def StripeEvent.eventCreatedAt (event : StripeEvent) : Int := event.eventCreated * 1000

def StripeEvent.terminal (event : StripeEvent) (input : StripeSubStateInput) : Bool :=
  event.eventType == "customer.subscription.deleted" || input.status == "canceled"

def StripeSubStateInput.accessInput (input : StripeSubStateInput) (now : Int) :
    EffectiveAccessInput where
  status := some input.status
  trialEndsAt := input.trialEndsAt
  currentPeriodEnd := input.currentPeriodEnd
  cancelAtPeriodEnd := input.cancelAtPeriodEnd
  graceDays := none
  now := now
  persistedAccessState := none
  internalAccess := false

structure PersistedState where
  plan : String
  accessState : AccessState

def StripeSubStateInput.persistedState (input : StripeSubStateInput) (now : Int) : PersistedState :=
  if isFamilyPlanId input.plan then
    let resolution := resolveFamilyBillingState input.plan (input.accessInput now).toAccessInput
    ⟨resolution.plan, resolution.accessState⟩
  else ⟨input.plan, resolveEffectiveAccessState (input.accessInput now)⟩

variable (familyFlag : Option String)

def workspaceAccepts (workspaceKind : String) (input : StripeSubStateInput) : Bool :=
  if isFamilyPlanId input.plan then
    workspaceKind == "family" && familyBillingEnabled familyFlag
  else workspaceKind != "family"

def workspaceKindOf (tenantId : String) : String :=
  ((store.tenants.find? tenantId).map TenantRow.workspaceKind).getD "business"

/-- The `orderingOr` of the conditional update. -/
def SubscriptionRow.admits (row : SubscriptionRow) (createdAt : Int) (terminal : Bool) : Bool :=
  match row.lastStripeEventAt with
  | none => true
  | some last =>
    decide (last < createdAt) ||
      (terminal && last == createdAt && row.lastStripeEventTerminal == false)

/-- The `data` of the conditional update: an absent field keeps its column. -/
def SubscriptionRow.applied (row : SubscriptionRow) (input : StripeSubStateInput) (createdAt : Int)
    (terminal : Bool) : SubscriptionRow where
  stripeCustomerId := row.stripeCustomerId
  stripeSubscriptionId := input.stripeSubscriptionId <|> row.stripeSubscriptionId
  stripePriceId := input.stripePriceId <|> row.stripePriceId
  plan := input.plan
  billingInterval := input.billingInterval <|> row.billingInterval
  status := input.status
  currentPeriodStart := input.currentPeriodStart <|> row.currentPeriodStart
  currentPeriodEnd := input.currentPeriodEnd <|> row.currentPeriodEnd
  cancelAtPeriodEnd := input.cancelAtPeriodEnd.getD row.cancelAtPeriodEnd
  canceledAt := input.canceledAt <|> row.canceledAt
  trialEndsAt := input.trialEndsAt <|> row.trialEndsAt
  latestInvoiceStatus := input.latestInvoiceStatus <|> row.latestInvoiceStatus
  lastStripeEventAt := some createdAt
  lastStripeEventTerminal := terminal

def TenantRow.billed (status : String) (persisted : PersistedState) : TenantRow :=
  { tenant with
    plan := persisted.plan
    billingStatus := status
    accessState := persisted.accessState.value }

def subscriptionIdTaken (tenantId : String) (id : Option String) : Bool :=
  id.isSome &&
    store.subscriptions.rows.any fun row => row.1 != tenantId && row.2.stripeSubscriptionId == id

def recordEvent (event : StripeEvent) (result : WebhookOutcome) (now : Int) : BillingStore :=
  let known := store.stripeWebhookEvents.find? event.stripeEventId
  let eventType := (known.map StripeWebhookEventRow.eventType).getD event.eventType
  { store with
    stripeWebhookEvents := store.stripeWebhookEvents.upsert event.stripeEventId
      ⟨eventType, result, now⟩ }

def WebhookResult.empty (outcome : WebhookOutcome) : WebhookResult := ⟨outcome, none, none⟩

def ignoreEvent (event : StripeEvent) (now : Int) : BillingStore × WebhookResult :=
  (recordEvent store event .ignored now, .empty .ignored)

def eventAdmitted (tenantId : String) (event : StripeEvent) (input : StripeSubStateInput) : Bool :=
  match store.subscriptions.find? tenantId with
  | none => false
  | some row => row.admits event.eventCreatedAt (event.terminal input)

def writeRefused (tenantId : String) (input : StripeSubStateInput) : Bool :=
  subscriptionIdTaken store tenantId input.stripeSubscriptionId ||
    (store.tenants.find? tenantId).isNone

def applyEvent (tenantId : String) (event : StripeEvent) (input : StripeSubStateInput)
    (persisted : PersistedState) : BillingStore :=
  { store with
    subscriptions := store.subscriptions.modify tenantId fun row =>
      row.applied input event.eventCreatedAt (event.terminal input)
    tenants := store.tenants.modify tenantId fun tenant => tenant.billed input.status persisted }

def commitEvent (tenantId : String) (event : StripeEvent) (input : StripeSubStateInput)
    (persisted : PersistedState) (now : Int) :
    BillingStore × WebhookResult :=
  if !eventAdmitted store tenantId event input then
    (recordEvent store event .stale now, ⟨.stale, some tenantId, none⟩)
  else if writeRefused store tenantId input then (store, ⟨.failed, some tenantId, none⟩)
  else
    (recordEvent (applyEvent store tenantId event input persisted) event .processed now,
      ⟨.processed, some tenantId, some persisted.accessState⟩)

def alreadyProcessed (event : StripeEvent) : Bool :=
  match store.stripeWebhookEvents.find? event.stripeEventId with
  | none => false
  | some row => row.result == .processed

def recordAndApplyStripeEvent (store : BillingStore) (event : StripeEvent) (now : Int) :
    BillingStore × WebhookResult :=
  if alreadyProcessed store event then (store, .empty .duplicate)
  else
    match event.input with
    | none => ignoreEvent store event now
    | some input =>
      match findTenantIdByStripeCustomer store input.stripeCustomerId with
      | none => ignoreEvent store event now
      | some tenantId =>
        if workspaceAccepts familyFlag (workspaceKindOf store tenantId) input then
          commitEvent store tenantId event input (input.persistedState now) now
        else ignoreEvent store event now

def TenantRow.sweepable : Bool :=
  tenant.workspaceKind != "family" && tenant.billingStatus == "no_subscription" &&
    tenant.accessState == "full_access"

def TenantRow.trialOver (now : Int) : Bool :=
  match tenant.trialEndsAt with
  | none => false
  | some time => decide (time < now)

/-- The candidates, in the order in which the database happens to `scan` the tenants. -/
def sweepCandidates (now batchSize : Int) (scan : List String) : List String :=
  (scan.dedup.filter fun tenantId =>
    match store.tenants.find? tenantId with
    | none => false
    | some tenant => tenant.sweepable && tenant.trialOver now).take
      (min (max batchSize 1) 5000).toNat

def restrictTenant (tenantId : String) : BillingStore :=
  { store with
    tenants := store.tenants.modify tenantId fun tenant =>
      if tenant.sweepable then { tenant with accessState := "restricted" } else tenant }

inductive BillingCall where
  | recordAndApplyStripeEvent (event : StripeEvent) (now : Int)
  | sweepTrialExpirations (now batchSize : Int) (scan : List String)
  | ensureStripeCustomer (tenantId stripeCustomerId : String)

/-- Where a call stands; a delivery carries what it has read so far. -/
inductive BillingStage where
  | called (call : BillingCall)
  | looked (event : StripeEvent) (now : Int)
  | routed (event : StripeEvent) (now : Int) (input : StripeSubStateInput) (tenantId : String)
  | resolved (event : StripeEvent) (now : Int) (input : StripeSubStateInput) (tenantId : String)
  | restricting (tenantIds : List String)

/-- A call goes on, or it returns; a delivery returns its event and its result. -/
inductive BillingOutcome where
  | proceed (stage : BillingStage)
  | answer (event : StripeEvent) (result : WebhookResult)
  | finish

def answered (event : StripeEvent) (reply : BillingStore × WebhookResult) :
    BillingStore × BillingOutcome :=
  (reply.1, .answer event reply.2)

def BillingStage.next (store : BillingStore) : BillingStage → BillingStore × BillingOutcome
  | .called (.recordAndApplyStripeEvent event now) =>
    if alreadyProcessed store event then answered event (store, .empty .duplicate)
    else (store, .proceed (.looked event now))
  | .looked event now =>
    match event.input with
    | none => answered event (ignoreEvent store event now)
    | some input =>
      match findTenantIdByStripeCustomer store input.stripeCustomerId with
      | none => answered event (ignoreEvent store event now)
      | some tenantId => (store, .proceed (.routed event now input tenantId))
  | .routed event now input tenantId =>
    if workspaceAccepts familyFlag (workspaceKindOf store tenantId) input then
      (store, .proceed (.resolved event now input tenantId))
    else answered event (ignoreEvent store event now)
  | .resolved event now input tenantId =>
    answered event (commitEvent store tenantId event input (input.persistedState now) now)
  | .called (.sweepTrialExpirations now batchSize scan) =>
    (store, .proceed (.restricting (sweepCandidates store now batchSize scan)))
  | .restricting [] => (store, .finish)
  | .restricting (tenantId :: rest) =>
    (restrictTenant store tenantId, .proceed (.restricting rest))
  | .called (.ensureStripeCustomer tenantId stripeCustomerId) =>
    (ensureStripeCustomer store tenantId stripeCustomerId, .finish)

/-- The store, the calls in flight, and the deliveries that have returned. -/
structure BillingSystem where
  store : BillingStore
  clients : Nat → Option BillingStage
  answers : List (StripeEvent × WebhookResult)

/-- `crash` is a call that dies or whose statement the database refuses. -/
inductive BillingStep where
  | start (client : Nat) (call : BillingCall)
  | advance (client : Nat)
  | crash (client : Nat)

def BillingSystem.opened : BillingSystem := ⟨store, fun _ => none, []⟩

def BillingSystem.setClient (system : BillingSystem) (client : Nat) (stage : Option BillingStage) :
    BillingSystem :=
  { system with clients := Function.update system.clients client stage }

def BillingSystem.step (system : BillingSystem) : BillingStep → BillingSystem
  | .start client call =>
    match system.clients client with
    | none => system.setClient client (some (.called call))
    | some _ => system
  | .crash client => system.setClient client none
  | .advance client =>
    match system.clients client with
    | none => system
    | some stage =>
      match stage.next familyFlag system.store with
      | (store, .proceed next) => { system.setClient client (some next) with store }
      | (store, .answer event result) =>
        { system.setClient client none with
          store
          answers := system.answers ++ [(event, result)] }
      | (store, .finish) => { system.setClient client none with store }

def BillingSystem.run (familyFlag : Option String) (system : BillingSystem)
    (steps : List BillingStep) : BillingSystem :=
  Runs.run (BillingSystem.step familyFlag) system steps

end Tamanor.Db
