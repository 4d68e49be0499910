import Tamanor.Sync.ProductionSafety

/-! The controlled Facebook comment hide (`live-actions.ts` with the `hideComment`
seam of `facebook-hide.ts`). An attempt reads its environment, may repair a stale
account on the way, and leaves a trace of everything it did. -/

set_option autoImplicit false

namespace Tamanor.Sync

open Ai

structure HideCommentInput where
  pageId : String
  commentId : String
  connectedAccountId : String
  itemId : String
  pageAccessToken : String

inductive HideCommentStatus where
  | dryRun | executed | failed
deriving DecidableEq

structure HideCommentResult where
  status : HideCommentStatus
  providerResponseCode : Option String
  providerErrorCode : Option String
  providerErrorMessage : Option String

structure HideTransportResult where
  ok : Bool
  responseCode : Option String
  errorCode : Option String
  errorMessage : Option String

inductive CommentState where
  | readable (canHide isHidden : Bool)
  | unreadable (errorCode : String)
deriving DecidableEq

inductive PageTokenState where
  | valid
  | broken (errorCode : String)

/-- A transport, any of whose calls may throw (`none`). The two reading calls are
optional, and may answer differently the second time they are made. -/
structure FacebookHideTransport where
  hide : String → String → Option HideTransportResult
  getCommentState : Option (Nat → String → String → Option CommentState)
  getPageTokenState : Option (Nat → String → String → Option PageTokenState)

def hideComment (input : HideCommentInput) (dryRun : Bool) (transport : FacebookHideTransport) :
    Option HideCommentResult :=
  if input.commentId = "" ∨ input.pageId = "" then
    some
      { status := .failed
        providerResponseCode := none
        providerErrorCode := some "invalid_input"
        providerErrorMessage := some "Missing pageId or commentId." }
  else if dryRun then
    some
      { status := .dryRun
        providerResponseCode := some "dry_run"
        providerErrorCode := none
        providerErrorMessage := none }
  else
    (transport.hide input.commentId input.pageAccessToken).map fun result =>
      if result.ok then
        { status := .executed
          providerResponseCode := result.responseCode
          providerErrorCode := none
          providerErrorMessage := none }
      else
        { status := .failed
          providerResponseCode := result.responseCode
          providerErrorCode := result.errorCode
          providerErrorMessage := result.errorMessage }

structure LiveActionsConfig where
  liveEnabled : Bool
  facebookHideEnabled : Bool
  dryRun : Bool
  canExecuteLive : Bool
  liveConfirmed : Bool
  productionSafeMode : Bool
  globalKillSwitch : Bool

/-- The expiry is in milliseconds; an unparsable one never compares as past. -/
structure HideAccount where
  status : String
  health : String
  grantedPermissions : List String
  accessToken : Option String
  pageId : Option String
  externalId : String
  tokenExpiresAt : Option Int
  needsReconnect : Bool
  connectionStatus : Option String
  tokenHealth : Option String

structure HideContext where
  tenantId : String
  brandId : String
  itemId : String
  queueItemId : Option String
  policyId : Option String
  connectedAccountId : String
  platform : String
  externalCommentId : Option String
  externalPostId : Option String
  matchedCategory : String
  confidence : ℚ
  riskLevel : String
  mode : String
  trigger : Trigger
  account : HideAccount
  requestedBy : String

def isSet : Option String → Bool
  | none => false
  | some text => text != ""

def facebookHidePermission : String := "pages_manage_engagement"

def minConfidence : ℚ := 0.8

def brokenTokenHealth : List String := ["expired", "invalid", "revoked"]

def HideAccount.tokenBroken (account : HideAccount) : Bool :=
  match account.tokenHealth with
  | none => false
  | some health => brokenTokenHealth.contains health

def HideAccount.disconnected (account : HideAccount) : Bool :=
  isSet account.connectionStatus && account.connectionStatus != some "connected"

def HideAccount.expired (account : HideAccount) (now : Int) : Bool :=
  match account.tokenExpiresAt with
  | none => false
  | some expiry => decide (expiry ≤ now)

def firstReason : List (Bool × String) → Option String
  | [] => none
  | (fires, reason) :: checks => if fires then some reason else firstReason checks

variable (ctx : HideContext)

/-- The gates in the order in which they are tried, each with its reason. -/
def gateChecks (cfg : LiveActionsConfig) (now : Int) : List (Bool × String) := [
  (!cfg.liveEnabled, "global_disabled"),
  (!cfg.facebookHideEnabled, "facebook_hide_disabled"),
  (ctx.platform != "facebook_page", "unsupported_platform"),
  (ctx.account.status == "mock_connected", "account_is_demo"),
  (ctx.account.status != "active", "account_not_active"),
  (ctx.account.disconnected, "reconnect_required"),
  (ctx.account.tokenBroken, "token_not_healthy"),
  (ctx.account.needsReconnect, "token_expired"),
  (ctx.account.expired now, "token_expired"),
  (ctx.account.health != "healthy", "unhealthy_account"),
  (!ctx.account.grantedPermissions.contains facebookHidePermission, "missing_permission"),
  (isNeverAutonomous ctx.matchedCategory, "safety_never_autonomous"),
  (!isAutonomousEligible ctx.matchedCategory, "category_not_eligible"),
  (ctx.trigger == .autonomous && ctx.mode != "autonomous", "policy_not_autonomous"),
  (decide (ctx.confidence < minConfidence), "low_confidence"),
  (ctx.matchedCategory == "threat" && ctx.riskLevel != "critical" && ctx.riskLevel != "high",
    "threat_requires_critical"),
  (!isSet ctx.externalCommentId, "missing_comment_id")]

def gate (cfg : LiveActionsConfig) (now : Int) : Option String :=
  firstReason (gateChecks ctx cfg now)

inductive ExecutionStatus where
  | blocked | dryRun | executed | failed | rolledBack
deriving DecidableEq

structure ExecutionRow where
  id : String
  tenantId : String
  brandId : String
  itemId : String
  queueItemId : Option String
  policyId : Option String
  connectedAccountId : String
  platform : String
  actionType : String
  requestedBy : String
  trigger : Trigger
  status : ExecutionStatus
  reason : Option String
  policyCategory : String
  confidence : ℚ
  externalCommentId : Option String
  externalPostId : Option String
  providerResponseCode : Option String
  providerErrorCode : Option String
  providerErrorMessage : Option String
  executedAt : Option Int
  createdAt : Int
deriving DecidableEq

def executionRow (status : ExecutionStatus) (reason : String) (provider : Option HideCommentResult)
    (id : String) (now : Int) : ExecutionRow where
  id := id
  tenantId := ctx.tenantId
  brandId := ctx.brandId
  itemId := ctx.itemId
  queueItemId := ctx.queueItemId
  policyId := ctx.policyId
  connectedAccountId := ctx.connectedAccountId
  platform := ctx.platform
  actionType := "hide_comment"
  requestedBy := ctx.requestedBy
  trigger := ctx.trigger
  status := status
  reason := some reason
  policyCategory := ctx.matchedCategory
  confidence := ctx.confidence
  externalCommentId := ctx.externalCommentId
  externalPostId := ctx.externalPostId
  providerResponseCode := provider.bind HideCommentResult.providerResponseCode
  providerErrorCode := provider.bind HideCommentResult.providerErrorCode
  providerErrorMessage := provider.bind HideCommentResult.providerErrorMessage
  executedAt := if status = .executed then some now else none
  createdAt := now

/-- `attemptWhere`: the idempotency key of one logical action. -/
def attemptWhere (row : ExecutionRow) : Bool :=
  row.tenantId == ctx.tenantId && row.itemId == ctx.itemId && row.queueItemId == ctx.queueItemId &&
    row.connectedAccountId == ctx.connectedAccountId && row.actionType == "hide_comment" &&
    row.trigger == ctx.trigger && row.policyId == ctx.policyId

structure HideExecutionResult where
  id : String
  status : ExecutionStatus
  reason : String
  idempotent : Bool

inductive InsertAnswer where
  | created (id : String)
  /-- The unique index on executed rows refused it; the row that won, if it is found. -/
  | uniqueViolation (winner : Option ExecutionRow)
  | failed

/-- Everything an attempt reads from outside: the table of executions, newest
first, the readings of the clock in the order they are taken, the transport and
the answers of the database to an insert. -/
structure HideEnvironment where
  executions : List ExecutionRow
  now : Nat → Int
  transport : FacebookHideTransport
  insert : ExecutionStatus → String → InsertAnswer

structure HideOptions where
  retry : Bool
  liveAttempt : Bool
  safety : Option ProductionSafetyContext

/-- A write to the row of the connected account; absent fields stay. -/
structure AccountPatch where
  unlessDisconnected : Bool
  connectionStatus : Option String
  tokenHealth : Option String
  health : Option String
  lastError : Option (Option String)
  requiresReconnectReason : Option (Option String)
  tokenExpiresAt : Option (Option Int)
  lastTokenCheckResult : Option String

inductive HideFailure where
  | transport | database

/-- The attempt so far: the context with its account as it stands, and the effects. -/
structure HideRun where
  ctx : HideContext
  liveHides : List HideCommentInput
  recorded : List ExecutionRow
  accountPatches : List AccountPatch
  queueWrites : List QueueState
  audits : List String

abbrev HideOutcome := HideRun × Except HideFailure HideExecutionResult

def HideRun.start : HideRun where
  ctx := ctx
  liveHides := []
  recorded := []
  accountPatches := []
  queueWrites := []
  audits := []

def findExistingExecutions (env : HideEnvironment) (ctx : HideContext) : List ExecutionRow :=
  env.executions.filter (attemptWhere ctx)

def HideRun.resolveQueueItem (run : HideRun) (state : QueueState) : HideRun :=
  if isSet run.ctx.queueItemId then { run with queueWrites := run.queueWrites ++ [state] } else run

def HideRun.patchAccount (run : HideRun) (patch : AccountPatch) : HideRun :=
  { run with accountPatches := run.accountPatches ++ [patch] }

def auditEventFor : ExecutionStatus → String
  | .executed => "platform_action.executed"
  | .failed => "platform_action.failed"
  | .dryRun => "platform_action.dry_run"
  | _ => "platform_action.blocked"

def tokenExpiredPatch : AccountPatch where
  unlessDisconnected := false
  connectionStatus := none
  tokenHealth := none
  health := some "error"
  lastError := some (some "token_expired")
  requiresReconnectReason := none
  tokenExpiresAt := none
  lastTokenCheckResult := none

def HideRun.afterInsert (run : HideRun) (row : ExecutionRow) : HideRun :=
  let run := { run with recorded := run.recorded ++ [row] }
  let run := if row.status = .failed ∧ row.providerErrorCode = some "token_expired" then
    run.patchAccount tokenExpiredPatch else run
  let run := if row.status = .executed then run.resolveQueueItem .executed else run
  { run with audits := run.audits ++ [auditEventFor row.status] }

def record (env : HideEnvironment) (run : HideRun) (status : ExecutionStatus) (reason : String)
    (provider : Option HideCommentResult) : HideOutcome :=
  match env.insert status reason with
  | .created id =>
    (run.afterInsert (executionRow run.ctx status reason provider id (env.now 4)),
      .ok { id, status, reason, idempotent := false })
  | .uniqueViolation winner =>
    if status = .executed then
      match winner with
      | some row =>
        (run, .ok { id := row.id, status := .executed, reason := row.reason.getD reason
                    idempotent := true })
      | none => (run, .error .database)
    else (run, .error .database)
  | .failed => (run, .error .database)

def accountLooksStale (account : HideAccount) (now : Int) : Bool :=
  account.disconnected || account.tokenBroken || account.needsReconnect || account.expired now

variable (errorCode : String)

def healthOfError : String :=
  if errorCode = "token_expired" then "expired"
  else if errorCode = "revoked" then "revoked"
  else "invalid"

def repairedPatch : AccountPatch where
  unlessDisconnected := true
  connectionStatus := some "connected"
  tokenHealth := some "ok"
  health := some "healthy"
  lastError := some none
  requiresReconnectReason := some none
  tokenExpiresAt := some none
  lastTokenCheckResult := some "ok"

def checkedPatch : AccountPatch where
  unlessDisconnected := false
  connectionStatus := none
  tokenHealth := none
  health := none
  lastError := none
  requiresReconnectReason := none
  tokenExpiresAt := none
  lastTokenCheckResult := some errorCode

def brokenPatch : AccountPatch where
  unlessDisconnected := false
  connectionStatus := some "needs_reconnect"
  tokenHealth := some (healthOfError errorCode)
  health := some "error"
  lastError := some (some errorCode)
  requiresReconnectReason := some (some errorCode)
  tokenExpiresAt := none
  lastTokenCheckResult := some errorCode

def transientErrors : List String := ["rate_limit", "network", "generic"]

/-- `revalidateAndRepair`; `call` counts the readings of the page token. -/
def revalidateAndRepair (env : HideEnvironment) (call : Nat) (run : HideRun) : Except HideFailure HideRun :=
  match env.transport.getPageTokenState, run.ctx.account.accessToken with
  | some read, some token =>
    if token = "" then .ok run
    else
      match read call (run.ctx.account.pageId.getD run.ctx.account.externalId) token with
      | none => .error .transport
      | some .valid =>
        let account := { run.ctx.account with
          connectionStatus := some "connected"
          tokenHealth := some "ok"
          needsReconnect := false
          tokenExpiresAt := none }
        .ok ({ run with ctx := { run.ctx with account } }.patchAccount repairedPatch)
      | some (.broken errorCode) =>
        if transientErrors.contains errorCode then
          .ok (run.patchAccount (checkedPatch errorCode))
        else
          let account := { run.ctx.account with
            connectionStatus := some "needs_reconnect"
            tokenHealth := some (healthOfError errorCode) }
          .ok ({ run with ctx := { run.ctx with account } }.patchAccount
            (brokenPatch errorCode))
  | _, _ => .ok run

def healIfStale (env : HideEnvironment) (cfg : LiveActionsConfig) (opts : HideOptions)
    (call : Nat) (now : Int) (run : HideRun) : Except HideFailure HideRun :=
  if (cfg.canExecuteLive || opts.liveAttempt) && accountLooksStale run.ctx.account now then
    revalidateAndRepair env call run
  else .ok run

/-! Reading the comment before and after the hide. -/

def reconnectPatch : AccountPatch where
  unlessDisconnected := false
  connectionStatus := some "needs_reconnect"
  tokenHealth := some (healthOfError errorCode)
  health := some "error"
  lastError := some (some errorCode)
  requiresReconnectReason := some (some errorCode)
  tokenExpiresAt := none
  lastTokenCheckResult := none

def commentReport (env : HideEnvironment) (call : Nat) (ctx : HideContext) :
    Option (Option CommentState) :=
  match env.transport.getCommentState, ctx.externalCommentId with
  | some read, some commentId =>
    if commentId = "" then none
    else some (read call commentId (ctx.account.accessToken.getD ""))
  | _, _ => none

/-- `commentPreflight`: an outcome that ends the attempt, or nothing. -/
def commentPreflight (env : HideEnvironment) (run : HideRun) : Option HideOutcome :=
  match commentReport env 0 run.ctx with
  | none => none
  | some none => some (run, .error .transport)
  | some (some (.unreadable errorCode)) =>
    if errorCode = "not_found" then
      some (record env (run.resolveQueueItem .noAction) .blocked
        "comment_deleted_or_unavailable" none)
    else if ["token_expired", "token_invalid", "revoked"].contains errorCode then
      some (record env (run.patchAccount (reconnectPatch errorCode)) .blocked
        "reconnect_required" none)
    else if errorCode = "permission" then
      some (record env run .blocked "missing_permission" none)
    else some (record env run .failed errorCode none)
  | some (some (.readable canHide isHidden)) =>
    if isHidden then some (record env run .executed "already_hidden" none)
    else if !canHide then
      some (record env (run.resolveQueueItem .noAction) .blocked "facebook_can_hide_false" none)
    else none

def recordVerifiedHide (env : HideEnvironment) (run : HideRun) (provider : HideCommentResult) :
    HideOutcome :=
  match commentReport env 1 run.ctx with
  | some none => (run, .error .transport)
  | some (some (.readable _ false)) =>
    record env run .failed "verification_failed" (some provider)
  | _ => record env run .executed "live_hide_executed" (some provider)

def hideInput (pageAccessToken : String) : HideCommentInput where
  pageId := ctx.account.pageId.getD ctx.account.externalId
  commentId := ctx.externalCommentId.getD ""
  connectedAccountId := ctx.connectedAccountId
  itemId := ctx.itemId
  pageAccessToken := pageAccessToken

def liveHide (env : HideEnvironment) (run : HideRun) : HideOutcome :=
  match commentPreflight env run with
  | some outcome => outcome
  | none =>
    let input := hideInput run.ctx (run.ctx.account.accessToken.getD "")
    let run := { run with liveHides := run.liveHides ++ [input] }
    match hideComment input false env.transport with
    | none => (run, .error .transport)
    | some result =>
      if result.status = .executed then recordVerifiedHide env run result
      else
        record env run .failed (result.providerErrorCode.getD "provider_error") (some result)

def dryRunHide (env : HideEnvironment) (run : HideRun) : HideOutcome :=
  match hideComment (hideInput run.ctx "") true env.transport with
  | none => (run, .error .transport)
  | some result => record env run .dryRun "dry_run_mode" (some result)

def explicitLiveAttempt (env : HideEnvironment) (cfg : LiveActionsConfig) (run : HideRun) :
    HideOutcome :=
  if cfg.dryRun then record env run .blocked "dry_run_still_enabled" none
  else if !cfg.canExecuteLive then record env run .blocked "live_not_enabled" none
  else if !cfg.liveConfirmed then record env run .blocked "live_confirm_required" none
  else liveHide env run

def productionOptIn (opts : HideOptions) : Bool :=
  ctx.trigger == .autonomous &&
    match opts.safety with
    | none => false
    | some safety => safety.flags.productionSafeMode

def policyAttempt (env : HideEnvironment) (cfg : LiveActionsConfig) (opts : HideOptions)
    (run : HideRun) : HideOutcome :=
  if cfg.dryRun || !cfg.canExecuteLive then dryRunHide env run
  else if !cfg.liveConfirmed && !productionOptIn run.ctx opts then
    record env run .blocked "live_confirm_required" none
  else if run.ctx.trigger ≠ .autonomous then dryRunHide env run
  else liveHide env run

def gatedAttempt (env : HideEnvironment) (cfg : LiveActionsConfig) (opts : HideOptions)
    (run : HideRun) : HideOutcome :=
  match healIfStale env cfg opts 1 (env.now 2) run with
  | .error failure => (run, .error failure)
  | .ok run =>
    match gate run.ctx cfg (env.now 3) with
    | some reason => record env run .blocked reason none
    | none =>
      if opts.liveAttempt then explicitLiveAttempt env cfg run
      else policyAttempt env cfg opts run

def safeAttempt (env : HideEnvironment) (cfg : LiveActionsConfig) (opts : HideOptions)
    (run : HideRun) : HideOutcome :=
  match opts.safety with
  | none => gatedAttempt env cfg opts run
  | some safety =>
    let evaluation := evaluateProductionSafety run.ctx.trigger run.ctx.matchedCategory
      run.ctx.confidence run.ctx.riskLevel safety
    let run := { run with audits := run.audits ++ [evaluation.auditEvent] }
    if evaluation.outcome ≠ .allow then record env run .blocked evaluation.reason none
    else gatedAttempt env cfg opts run

def reuse (row : ExecutionRow) (status : ExecutionStatus) (reason : String) : HideExecutionResult :=
  { id := row.id, status, reason, idempotent := true }

/-- A last execution that was blocked is echoed only if it would be blocked again
for the same reason, after a stale account was given the chance to heal. -/
def retryBlocked (env : HideEnvironment) (cfg : LiveActionsConfig) (opts : HideOptions)
    (run : HideRun) (latest : ExecutionRow) : HideOutcome :=
  match healIfStale env cfg opts 0 (env.now 0) run with
  | .error failure => (run, .error failure)
  | .ok run =>
    match gate run.ctx cfg (env.now 1) with
    | none => safeAttempt env cfg opts run
    | some reason =>
      if latest.reason = some reason then (run, .ok (reuse latest .blocked reason))
      else safeAttempt env cfg opts run

def priorDryRun (opts : HideOptions) (existing : List ExecutionRow) : Option ExecutionRow :=
  if opts.liveAttempt then none else existing.find? fun row => row.status == .dryRun

def attemptFacebookHide (env : HideEnvironment) (cfg : LiveActionsConfig) (opts : HideOptions)
    (ctx : HideContext) : HideOutcome :=
  let run := HideRun.start ctx
  let existing := findExistingExecutions env ctx
  match existing.find? fun row => row.status == .executed with
  | some row => (run, .ok (reuse row .executed "already_executed"))
  | none =>
    match priorDryRun opts existing with
    | some row => (run, .ok (reuse row .dryRun (row.reason.getD "dry_run_mode")))
    | none =>
      match existing with
      | [] => safeAttempt env cfg opts run
      | latest :: _ =>
        if latest.status = .failed ∧ !opts.retry then
          (run, .ok (reuse latest .failed (latest.reason.getD "provider_error")))
        else if latest.status = .blocked then retryBlocked env cfg opts run latest
        else safeAttempt env cfg opts run

end Tamanor.Sync
