import Tamanor.Sync.LiveActionsProperties

/-! The repair of a stale account in memory and in its row (`live-actions.ts`). The context of an
attempt is built from the row; the repair writes the row and mirrors its columns, all but the
health, which the gate reads as well. -/

set_option autoImplicit false

namespace Tamanor.Sync

open Tamanor.Core Ai

/-- The columns that the repair writes or a context is built from, without the times of checks
and errors. -/
structure PageColumns where
  status : String
  health : String
  grantedPermissions : List String
  pageId : Option String
  externalId : String
  tokenExpiresAt : Option Int
  connectionStatus : Option String
  tokenHealth : Option String
  lastError : Option String
  requiresReconnectReason : Option String
  lastTokenCheckResult : Option String

def PageColumns.write (row : PageColumns) (patch : AccountPatch) : PageColumns :=
  if patch.unlessDisconnected && row.status == "disconnected" then row
  else
    { row with
      connectionStatus := patch.connectionStatus <|> row.connectionStatus
      tokenHealth := patch.tokenHealth <|> row.tokenHealth
      health := patch.health.getD row.health
      lastError := patch.lastError.getD row.lastError
      requiresReconnectReason := patch.requiresReconnectReason.getD row.requiresReconnectReason
      tokenExpiresAt := patch.tokenExpiresAt.getD row.tokenExpiresAt
      lastTokenCheckResult := patch.lastTokenCheckResult <|> row.lastTokenCheckResult }

/-- The account of a context, as both callers build it; the token comes from the vault. -/
def PageColumns.hideAccount (row : PageColumns) (accessToken : Option String) : HideAccount where
  status := row.status
  health := row.health
  grantedPermissions := row.grantedPermissions
  accessToken := accessToken
  pageId := row.pageId
  externalId := row.externalId
  tokenExpiresAt := row.tokenExpiresAt
  needsReconnect := row.connectionStatus == some "needs_reconnect" ||
    row.tokenHealth == some "expired" || row.tokenHealth == some "invalid" ||
    row.tokenHealth == some "revoked" || row.lastError == some "token_expired"
  connectionStatus := row.connectionStatus
  tokenHealth := row.tokenHealth

variable (ctx : HideContext)

def HideContext.on (row : PageColumns) (accessToken : Option String) : HideContext :=
  { ctx with account := row.hideAccount accessToken }

/-- The gate says the same of the context in memory and of one that is built from the row as the
repair has left it. -/
def RepairAgrees (env : HideEnvironment) (call : Nat) (cfg : LiveActionsConfig) (now : Int)
    (ctx : HideContext) (row : PageColumns) (accessToken : Option String) : Prop :=
  ∀ run, revalidateAndRepair env call (.start (ctx.on row accessToken)) = .ok run →
    gate run.ctx cfg now =
      gate (ctx.on (run.accountPatches.foldl PageColumns.write row) accessToken) cfg now

def TokenConfirmed (env : HideEnvironment) (call : Nat) (row : PageColumns)
    (accessToken : Option String) : Prop :=
  ∃ read token, env.transport.getPageTokenState = some read ∧ accessToken = some token ∧
    token ≠ "" ∧ read call (row.pageId.getD row.externalId) token = some .valid

variable (cfg : LiveActionsConfig)

def GateReachesAccount (ctx : HideContext) (row : PageColumns) : Prop :=
  cfg.liveEnabled = true ∧ cfg.facebookHideEnabled = true ∧ ctx.platform = "facebook_page" ∧
    row.status = "active"

def gateFront : List (Bool × String) := [
  (!cfg.liveEnabled, "global_disabled"),
  (!cfg.facebookHideEnabled, "facebook_hide_disabled"),
  (ctx.platform != "facebook_page", "unsupported_platform"),
  (ctx.account.status == "mock_connected", "account_is_demo"),
  (ctx.account.status != "active", "account_not_active")]

def gateToken (now : Int) : List (Bool × String) := [
  (ctx.account.disconnected, "reconnect_required"),
  (ctx.account.tokenBroken, "token_not_healthy"),
  (ctx.account.needsReconnect, "token_expired"),
  (ctx.account.expired now, "token_expired")]

def gateBack : List (Bool × String) := [
  (!ctx.account.grantedPermissions.contains facebookHidePermission, "missing_permission"),
  (isNeverAutonomous ctx.matchedCategory, "safety_never_autonomous"),
  (!isAutonomousEligible ctx.matchedCategory, "category_not_eligible"),
  (ctx.trigger == .autonomous && ctx.mode != "autonomous", "policy_not_autonomous"),
  (decide (ctx.confidence < minConfidence), "low_confidence"),
  (ctx.matchedCategory == "threat" && ctx.riskLevel != "critical" && ctx.riskLevel != "high",
    "threat_requires_critical"),
  (!isSet ctx.externalCommentId, "missing_comment_id")]

theorem firstReason_append (first second : List (Bool × String)) :
    firstReason (first ++ second) = (firstReason first).or (firstReason second) := by
  induction first with
  | nil => rfl
  | cons check first ih =>
    obtain ⟨fires, reason⟩ := check
    cases fires <;> simp [firstReason, ih]

theorem mem_of_firstReason {checks : List (Bool × String)} {reason : String}
    (found : firstReason checks = some reason) : reason ∈ checks.map Prod.snd := by
  induction checks with
  | nil => cases found
  | cons check checks ih =>
    obtain ⟨fires, text⟩ := check
    cases fires with
    | true =>
      obtain rfl := Option.some.inj found
      exact List.mem_cons_self
    | false => exact List.mem_cons_of_mem _ (ih found)

theorem gate_eq (now : Int) :
    gate ctx cfg now = (firstReason (gateFront ctx cfg)).or ((firstReason (gateToken ctx now)).or
      (firstReason ((ctx.account.health != "healthy", "unhealthy_account") :: gateBack ctx))) := by
  rw [← firstReason_append, ← firstReason_append]
  rfl

theorem gateFront_congr {first second : HideContext} (platform : first.platform = second.platform)
    (status : first.account.status = second.account.status) :
    gateFront first cfg = gateFront second cfg := by
  simp only [gateFront, platform, status]

theorem gateFront_none_iff {ctx : HideContext} {cfg : LiveActionsConfig} {row : PageColumns}
    {accessToken : Option String} :
    firstReason (gateFront (ctx.on row accessToken) cfg) = none ↔
      GateReachesAccount cfg ctx row := by
  simp only [gateFront, firstReason, HideContext.on, PageColumns.hideAccount, GateReachesAccount]
  cases cfg.liveEnabled <;> cases cfg.facebookHideEnabled <;>
    by_cases platform : ctx.platform = "facebook_page" <;>
    by_cases status : row.status = "active" <;>
    by_cases demo : row.status = "mock_connected" <;>
    simp_all

section Repair

variable {env : HideEnvironment} {call : Nat} {ctx : HideContext} {row : PageColumns}
  {accessToken : Option String} {run : HideRun}

def HideAccount.repaired (account : HideAccount) : HideAccount :=
  { account with
    connectionStatus := some "connected"
    tokenHealth := some "ok"
    needsReconnect := false
    tokenExpiresAt := none }

def HideAccount.broken (account : HideAccount) (errorCode : String) : HideAccount :=
  { account with
    connectionStatus := some "needs_reconnect"
    tokenHealth := some (healthOfError errorCode) }

theorem revalidateAndRepair_cases
    (done : revalidateAndRepair env call (.start (ctx.on row accessToken)) = .ok run) :
    (TokenConfirmed env call row accessToken ∧ run.accountPatches = [repairedPatch] ∧
      run.ctx = { ctx with account := (row.hideAccount accessToken).repaired }) ∨
    ¬ TokenConfirmed env call row accessToken ∧
      (run.accountPatches = [] ∧ run.ctx = ctx.on row accessToken ∨
        ∃ errorCode,
          run.accountPatches = [checkedPatch errorCode] ∧ run.ctx = ctx.on row accessToken ∨
          run.accountPatches = [brokenPatch errorCode] ∧
            run.ctx = { ctx with account := (row.hideAccount accessToken).broken errorCode }) := by
  unfold revalidateAndRepair at done
  split at done
  next read token reads holds =>
    change accessToken = some token at holds
    subst holds
    split_ifs at done with empty
    · obtain rfl := Except.ok.inj done
      refine .inr ⟨?_, .inl ⟨rfl, rfl⟩⟩
      rintro ⟨_, _, -, same, nonempty, -⟩
      exact nonempty (Option.some.inj same ▸ empty)
    · split at done
      · cases done
      next answer =>
        obtain rfl := Except.ok.inj done
        exact .inl ⟨⟨read, token, reads, rfl, empty, answer⟩, rfl, rfl⟩
      next errorCode answer =>
        refine .inr ⟨?_, .inr ⟨errorCode, ?_⟩⟩
        · rintro ⟨read', token', reads', same, -, answer'⟩
          obtain rfl := Option.some.inj (reads.symm.trans reads')
          obtain rfl := Option.some.inj same
          exact nomatch answer.symm.trans answer'
        · split_ifs at done <;> obtain rfl := Except.ok.inj done
          · exact .inl ⟨rfl, rfl⟩
          · exact .inr ⟨rfl, rfl⟩
  next unread =>
    obtain rfl := Except.ok.inj done
    refine .inr ⟨?_, .inl ⟨rfl, rfl⟩⟩
    rintro ⟨read, token, reads, rfl, -, -⟩
    exact unread read token reads rfl

variable {cfg : LiveActionsConfig} {now : Int}

/-- A real failure blocks an account that the gate reaches as one to reconnect, whatever else
the two contexts say. -/
theorem gate_of_needs_reconnect (reached : firstReason (gateFront ctx cfg) = none)
    (status : ctx.account.connectionStatus = some "needs_reconnect") :
    gate ctx cfg now = some "reconnect_required" := by
  have disconnected : ctx.account.disconnected = true := by
    simp [HideAccount.disconnected, status, isSet]
  rw [gate_eq, reached]
  simp [gateToken, disconnected, firstReason]

theorem gate_of_front {reason : String} (blocked : firstReason (gateFront ctx cfg) = some reason) :
    gate ctx cfg now = some reason := by
  rw [gate_eq, blocked]
  rfl

theorem gate_repaired (reached : firstReason (gateFront (ctx.on row accessToken) cfg) = none)
    (health : String) :
    gate { ctx with account := { (row.hideAccount accessToken).repaired with health := health } }
        cfg now =
      firstReason
        ((health != "healthy", "unhealthy_account") :: gateBack (ctx.on row accessToken)) := by
  have front : firstReason (gateFront
      { ctx with account := { (row.hideAccount accessToken).repaired with health := health } }
      cfg) = none := reached
  have token : firstReason (gateToken
      { ctx with account := { (row.hideAccount accessToken).repaired with health := health } }
      now) = none := by
    simp [gateToken, HideAccount.repaired, HideAccount.disconnected, HideAccount.tokenBroken,
      HideAccount.expired, brokenTokenHealth, firstReason]
  rw [gate_eq, front, token]
  rfl

end Repair

/-- The verdict is the same for both, and a confirmed token with the permission and an eligible
category is never blocked for the health that the row had. -/
def SelfHealAgrees (env : HideEnvironment) (call : Nat) (cfg : LiveActionsConfig) (now : Int)
    (ctx : HideContext) (row : PageColumns) (accessToken : Option String) : Prop :=
  RepairAgrees env call cfg now ctx row accessToken ∧
    (TokenConfirmed env call row accessToken →
      row.grantedPermissions.contains facebookHidePermission = true →
      isAutonomousEligible ctx.matchedCategory = true →
      ∀ run, revalidateAndRepair env call (.start (ctx.on row accessToken)) = .ok run →
        gate run.ctx cfg now ≠ some "unhealthy_account")

section Agreement

variable {env : HideEnvironment} {call : Nat} {cfg : LiveActionsConfig} {now : Int}
  {ctx : HideContext} {row : PageColumns} {accessToken : Option String} {run : HideRun}

theorem repairAgrees_of_not_confirmed (unconfirmed : ¬ TokenConfirmed env call row accessToken) :
    RepairAgrees env call cfg now ctx row accessToken := by
  intro run done
  obtain ⟨confirmed, -⟩ | ⟨-, ⟨patches, same⟩ | ⟨errorCode, ⟨patches, same⟩ | ⟨patches, same⟩⟩⟩ :=
    revalidateAndRepair_cases done
  · exact absurd confirmed unconfirmed
  · rw [patches, same]
    rfl
  · rw [patches, same]
    rfl
  · rw [patches, same]
    have front : gateFront { ctx with account := (row.hideAccount accessToken).broken errorCode }
        cfg = gateFront (ctx.on (row.write (brokenPatch errorCode)) accessToken) cfg :=
      gateFront_congr cfg rfl rfl
    cases reached : firstReason (gateFront (ctx.on (row.write (brokenPatch errorCode)) accessToken)
      cfg) with
    | none =>
      exact (gate_of_needs_reconnect (front ▸ reached) rfl).trans
        (gate_of_needs_reconnect reached rfl).symm
    | some reason =>
      exact (gate_of_front (front ▸ reached)).trans (gate_of_front reached).symm

theorem exists_front_of_not_reached (apart : ¬ GateReachesAccount cfg ctx row)
    (accessToken : Option String) :
    ∃ reason, firstReason (gateFront (ctx.on row accessToken) cfg) = some reason ∧
      reason ≠ "unhealthy_account" := by
  cases blocked : firstReason (gateFront (ctx.on row accessToken) cfg) with
  | none => exact absurd (gateFront_none_iff.1 blocked) apart
  | some reason =>
    refine ⟨reason, rfl, ?_⟩
    rintro rfl
    simpa [gateFront] using mem_of_firstReason blocked

theorem repairAgrees_of_not_reached (apart : ¬ GateReachesAccount cfg ctx row) :
    RepairAgrees env call cfg now ctx row accessToken := by
  intro run done
  by_cases confirmed : TokenConfirmed env call row accessToken
  · obtain ⟨-, patches, same⟩ | ⟨unconfirmed, -⟩ := revalidateAndRepair_cases done
    · obtain ⟨reason, blocked, -⟩ := exists_front_of_not_reached apart accessToken
      have status : (row.write repairedPatch).status = row.status := by
        unfold PageColumns.write
        split <;> rfl
      have memory : firstReason (gateFront run.ctx cfg) = some reason := by
        rw [same]
        exact blocked
      have rebuilt : firstReason
          (gateFront (ctx.on (row.write repairedPatch) accessToken) cfg) = some reason := by
        refine Eq.trans (congrArg firstReason ?_) blocked
        exact gateFront_congr cfg rfl status
      rw [patches]
      exact (gate_of_front memory).trans (gate_of_front rebuilt).symm
    · exact absurd confirmed unconfirmed
  · exact repairAgrees_of_not_confirmed confirmed run done

theorem hideAccount_write_repairedPatch (connected : row.status = "active") :
    (row.write repairedPatch).hideAccount accessToken =
      { (row.hideAccount accessToken).repaired with health := "healthy" } := by
  have applies : (repairedPatch.unlessDisconnected && row.status == "disconnected") = false := by
    simp [connected]
  unfold PageColumns.write
  rw [applies]
  rfl

/-- After a confirmed token the memory is blocked by the health that the row had, and the row is
judged by the rest alone. -/
theorem gates_of_confirmed (confirmed : TokenConfirmed env call row accessToken)
    (reaches : GateReachesAccount cfg ctx row)
    (done : revalidateAndRepair env call (.start (ctx.on row accessToken)) = .ok run) :
    gate run.ctx cfg now = firstReason
        ((row.health != "healthy", "unhealthy_account") :: gateBack (ctx.on row accessToken)) ∧
      gate (ctx.on (run.accountPatches.foldl PageColumns.write row) accessToken) cfg now =
        firstReason (gateBack (ctx.on row accessToken)) := by
  obtain ⟨-, patches, same⟩ | ⟨unconfirmed, -⟩ := revalidateAndRepair_cases done
  · have reached : firstReason (gateFront (ctx.on row accessToken) cfg) = none :=
      gateFront_none_iff.2 reaches
    constructor
    · rw [same]
      exact gate_repaired reached row.health
    · rw [patches]
      have account := @hideAccount_write_repairedPatch row accessToken reaches.2.2.2
      have rebuilt : ctx.on (row.write repairedPatch) accessToken =
          { ctx with
            account := { (row.hideAccount accessToken).repaired with health := "healthy" } } := by
        unfold HideContext.on
        rw [account]
      change gate (ctx.on (row.write repairedPatch) accessToken) cfg now = _
      rw [rebuilt]
      exact gate_repaired reached "healthy"
  · exact absurd confirmed unconfirmed

theorem gateBack_ne_unhealthy : firstReason (gateBack ctx) ≠ some "unhealthy_account" := by
  intro found
  simpa [gateBack] using mem_of_firstReason found

theorem revalidateAndRepair_of_confirmed (confirmed : TokenConfirmed env call row accessToken) :
    ∃ run, revalidateAndRepair env call (.start (ctx.on row accessToken)) = .ok run := by
  obtain ⟨read, token, reads, rfl, nonempty, answer⟩ := confirmed
  simp [revalidateAndRepair, reads, HideRun.start, HideContext.on, PageColumns.hideAccount,
    nonempty, answer]

end Agreement

/-- The repair leaves the context and the row in agreement, except where the page confirms the
token of an active account whose health is not healthy: the health is the one column that the
gate reads and the repair writes to the row only. -/
theorem selfHealAgrees_iff (env : HideEnvironment) (call : Nat) (cfg : LiveActionsConfig)
    (now : Int) (ctx : HideContext) (row : PageColumns) (accessToken : Option String) :
    SelfHealAgrees env call cfg now ctx row accessToken ↔
      ¬ (TokenConfirmed env call row accessToken ∧ GateReachesAccount cfg ctx row ∧
        row.health ≠ "healthy") := by
  constructor
  · rintro ⟨agrees, -⟩ ⟨confirmed, reaches, unhealthy⟩
    obtain ⟨run, done⟩ := @revalidateAndRepair_of_confirmed _ _ ctx _ _ confirmed
    obtain ⟨memory, rebuilt⟩ := gates_of_confirmed confirmed reaches done
    have blocked : gate run.ctx cfg now = some "unhealthy_account" := by
      rw [memory]
      simp [firstReason, unhealthy]
    have same := agrees run done
    exact gateBack_ne_unhealthy (rebuilt.symm.trans (same.symm.trans blocked))
  · intro condition
    by_cases confirmed : TokenConfirmed env call row accessToken
    · by_cases reaches : GateReachesAccount cfg ctx row
      · have healthy : row.health = "healthy" := by
          by_contra unhealthy
          exact condition ⟨confirmed, reaches, unhealthy⟩
        have skipped : firstReason ((row.health != "healthy", "unhealthy_account") ::
            gateBack (ctx.on row accessToken)) =
              firstReason (gateBack (ctx.on row accessToken)) := by
          simp [firstReason, healthy]
        refine ⟨fun run done => ?_, fun _ _ _ run done => ?_⟩
        · obtain ⟨memory, rebuilt⟩ := gates_of_confirmed confirmed reaches done
          exact memory.trans (skipped.trans rebuilt.symm)
        · obtain ⟨memory, -⟩ := gates_of_confirmed confirmed reaches done
          rw [memory, skipped]
          exact gateBack_ne_unhealthy
      · refine ⟨repairAgrees_of_not_reached reaches, fun _ _ _ run done => ?_⟩
        obtain ⟨-, -, same⟩ | ⟨unconfirmed, -⟩ := revalidateAndRepair_cases done
        · obtain ⟨reason, blocked, other⟩ := exists_front_of_not_reached reaches accessToken
          have memory : firstReason (gateFront run.ctx cfg) = some reason := by
            rw [same]
            exact blocked
          rw [gate_of_front memory]
          exact fun unhealthy => other (Option.some.inj unhealthy)
        · exact absurd confirmed unconfirmed
    · exact ⟨repairAgrees_of_not_confirmed confirmed, fun claimed => absurd claimed confirmed⟩

def markedRow : PageColumns where
  status := "active"
  health := "error"
  grantedPermissions := [facebookHidePermission]
  pageId := some "page"
  externalId := "page"
  tokenExpiresAt := none
  connectionStatus := some "connected"
  tokenHealth := some "ok"
  lastError := some "token_expired"
  requiresReconnectReason := none
  lastTokenCheckResult := none

def confirmingEnvironment : HideEnvironment :=
  { acceptingEnvironment with
    transport := { acceptingEnvironment.transport with
      getPageTokenState := some fun _ _ _ => some .valid } }

/-- The token is good after all, and the attempt that finds it out is blocked all the same. -/
theorem not_selfHealAgrees :
    ¬ SelfHealAgrees confirmingEnvironment 0 liveConfig 0 spamContext markedRow (some "token") ∧
      (attemptFacebookHide confirmingEnvironment liveConfig
        { retry := false, liveAttempt := false, safety := some openSafety }
        (spamContext.on markedRow (some "token"))).1.recorded.map ExecutionRow.reason =
          [some "unhealthy_account"] := by
  refine ⟨fun agrees => ?_, by decide +kernel⟩
  have confirmed : TokenConfirmed confirmingEnvironment 0 markedRow (some "token") :=
    ⟨fun _ _ _ => some .valid, "token", rfl, rfl, by decide, rfl⟩
  have reaches : GateReachesAccount liveConfig spamContext markedRow := by
    refine ⟨rfl, rfl, rfl, rfl⟩
  obtain ⟨run, done⟩ := @revalidateAndRepair_of_confirmed _ _ spamContext _ _ confirmed
  obtain ⟨memory, -⟩ := gates_of_confirmed confirmed reaches done
  refine agrees.2 confirmed (by decide) (by decide) run done (memory.trans ?_)
  rfl

end Tamanor.Sync
