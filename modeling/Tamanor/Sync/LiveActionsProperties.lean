import Tamanor.Sync.LiveActions

/-! No hide POST without every gate: what must hold at the moment an attempt calls
the transport, on each of its paths. -/

set_option autoImplicit false

namespace Tamanor.Sync

open Ai

/-! Frames: bookkeeping neither posts nor touches the context. -/

section Frames

variable (run : HideRun)

@[simp] theorem HideRun.patchAccount_liveHides (patch : AccountPatch) :
    (run.patchAccount patch).liveHides = run.liveHides := rfl

@[simp] theorem HideRun.patchAccount_ctx (patch : AccountPatch) :
    (run.patchAccount patch).ctx = run.ctx := rfl

@[simp] theorem HideRun.resolveQueueItem_liveHides (state : QueueState) :
    (run.resolveQueueItem state).liveHides = run.liveHides := by
  unfold resolveQueueItem
  split <;> rfl

@[simp] theorem HideRun.resolveQueueItem_ctx (state : QueueState) :
    (run.resolveQueueItem state).ctx = run.ctx := by
  unfold resolveQueueItem
  split <;> rfl

@[simp] theorem HideRun.afterInsert_liveHides (row : ExecutionRow) :
    (run.afterInsert row).liveHides = run.liveHides := by
  unfold afterInsert
  dsimp only
  split <;> split <;> simp

@[simp] theorem HideRun.afterInsert_ctx (row : ExecutionRow) :
    (run.afterInsert row).ctx = run.ctx := by
  unfold afterInsert
  dsimp only
  split <;> split <;> simp

/-- The attempt went on to `after` without a POST and with the context as it was. -/
structure HideRun.Quiet (before after : HideRun) : Prop where
  liveHides : after.liveHides = before.liveHides
  ctx : after.ctx = before.ctx

variable {run}

theorem record_quiet (env : HideEnvironment) (status : ExecutionStatus) (reason : String)
    (provider : Option HideCommentResult) :
    run.Quiet (record env run status reason provider).1 := by
  unfold record
  cases env.insert status reason with
  | created id => exact ⟨by simp, by simp⟩
  | uniqueViolation winner =>
    dsimp only
    split
    · cases winner <;> exact ⟨rfl, rfl⟩
    · exact ⟨rfl, rfl⟩
  | failed => exact ⟨rfl, rfl⟩

theorem HideRun.Quiet.trans {first second third : HideRun} (left : first.Quiet second)
    (right : second.Quiet third) : first.Quiet third :=
  ⟨right.liveHides.trans left.liveHides, right.ctx.trans left.ctx⟩

theorem recordVerifiedHide_quiet (env : HideEnvironment) (provider : HideCommentResult) :
    run.Quiet (recordVerifiedHide env run provider).1 := by
  unfold recordVerifiedHide
  split
  · exact ⟨rfl, rfl⟩
  · exact record_quiet ..
  · exact record_quiet ..

theorem dryRunHide_quiet (env : HideEnvironment) : run.Quiet (dryRunHide env run).1 := by
  unfold dryRunHide
  split
  · exact ⟨rfl, rfl⟩
  · exact record_quiet ..

variable {env : HideEnvironment}

theorem commentPreflight_quiet {outcome : HideOutcome}
    (ended : commentPreflight env run = some outcome) : run.Quiet outcome.1 := by
  have resolved (state : QueueState) : run.Quiet (run.resolveQueueItem state) := ⟨by simp, by simp⟩
  have patched (patch : AccountPatch) : run.Quiet (run.patchAccount patch) := ⟨rfl, rfl⟩
  unfold commentPreflight at ended
  split at ended
  · cases ended
  · cases ended
    exact ⟨rfl, rfl⟩
  · split_ifs at ended with missing token permission <;> cases ended
    · exact (resolved _).trans (record_quiet ..)
    · exact (patched _).trans (record_quiet ..)
    · exact record_quiet ..
    · exact record_quiet ..
  · split_ifs at ended with hidden unhideable <;> cases ended
    · exact record_quiet ..
    · exact (resolved _).trans (record_quiet ..)

theorem commentPreflight_none (passed : commentPreflight env run = none)
    {report : Option CommentState} (made : commentReport env 0 run.ctx = some report) :
    report = some (.readable true false) := by
  unfold commentPreflight at passed
  rw [made] at passed
  cases report with
  | none => cases passed
  | some state =>
    cases state with
    | unreadable errorCode => dsimp only at passed; split_ifs at passed
    | readable canHide isHidden => cases canHide <;> cases isHidden <;> simp at passed ⊢

theorem healIfStale_frame {cfg : LiveActionsConfig} {opts : HideOptions} {call : Nat} {now : Int}
    {healed : HideRun} (done : healIfStale env cfg opts call now run = .ok healed) :
    healed.liveHides = run.liveHides ∧
      ∃ account, healed.ctx = { run.ctx with account := account } := by
  unfold healIfStale at done
  split at done
  · unfold revalidateAndRepair at done
    split at done
    · split_ifs at done with empty
      · cases done
        exact ⟨rfl, _, rfl⟩
      · split at done
        · cases done
        · cases done
          exact ⟨rfl, _, rfl⟩
        · split_ifs at done with transient <;> cases done <;> exact ⟨rfl, _, rfl⟩
    · cases done
      exact ⟨rfl, _, rfl⟩
  · cases done
    exact ⟨rfl, _, rfl⟩

end Frames

/-- The conditions at the moment of the POST, on the context as it then stands. -/
structure LiveHidePermitted (env : HideEnvironment) (cfg : LiveActionsConfig)
    (opts : HideOptions) (ctx : HideContext) : Prop where
  gateOpen : gate ctx cfg (env.now 3) = none
  notDryRun : cfg.dryRun = false
  canExecuteLive : cfg.canExecuteLive = true
  confirmed : (opts.liveAttempt = true ∧ cfg.liveConfirmed = true) ∨
    (ctx.trigger = .autonomous ∧ (cfg.liveConfirmed = true ∨
      ∃ safety, opts.safety = some safety ∧ safety.flags.productionSafeMode = true))
  preCheck : ∀ report, commentReport env 0 ctx = some report → report = some (.readable true false)

section Posts

variable {env : HideEnvironment} {cfg : LiveActionsConfig} {opts : HideOptions} {run : HideRun}

theorem liveHide_posts (posted : (liveHide env run).1.liveHides ≠ run.liveHides) :
    commentPreflight env run = none := by
  cases pre : commentPreflight env run with
  | none => rfl
  | some outcome =>
    refine absurd ?_ posted
    simpa [liveHide, pre] using (commentPreflight_quiet pre).liveHides

theorem liveHide_ctx : (liveHide env run).1.ctx = run.ctx := by
  unfold liveHide
  cases pre : commentPreflight env run with
  | some outcome => exact (commentPreflight_quiet pre).ctx
  | none =>
    dsimp only
    split
    · rfl
    · split_ifs
      · exact (recordVerifiedHide_quiet env _).ctx
      · exact (record_quiet ..).ctx

theorem explicitLiveAttempt_posts
    (posted : (explicitLiveAttempt env cfg run).1.liveHides ≠ run.liveHides) :
    cfg.dryRun = false ∧ cfg.canExecuteLive = true ∧ cfg.liveConfirmed = true ∧
      commentPreflight env run = none ∧ (explicitLiveAttempt env cfg run).1.ctx = run.ctx := by
  unfold explicitLiveAttempt at posted ⊢
  split_ifs at posted ⊢ with dry unable unconfirmed
  · exact absurd (record_quiet ..).liveHides posted
  · exact absurd (record_quiet ..).liveHides posted
  · exact absurd (record_quiet ..).liveHides posted
  · exact ⟨by simpa using dry, by simpa using unable, by simpa using unconfirmed,
      liveHide_posts posted, liveHide_ctx⟩

theorem policyAttempt_posts
    (posted : (policyAttempt env cfg opts run).1.liveHides ≠ run.liveHides) :
    cfg.dryRun = false ∧ cfg.canExecuteLive = true ∧ run.ctx.trigger = .autonomous ∧
      (cfg.liveConfirmed = true ∨
        ∃ safety, opts.safety = some safety ∧ safety.flags.productionSafeMode = true) ∧
      commentPreflight env run = none ∧ (policyAttempt env cfg opts run).1.ctx = run.ctx := by
  unfold policyAttempt at posted ⊢
  split_ifs at posted ⊢ with dry unconfirmed manual
  · exact absurd (dryRunHide_quiet env).liveHides posted
  · exact absurd (record_quiet ..).liveHides posted
  · exact absurd (dryRunHide_quiet env).liveHides posted
  · simp only [Bool.or_eq_true, Bool.not_eq_true', not_or, Bool.not_eq_true,
      Bool.not_eq_false] at dry
    refine ⟨dry.1, dry.2, not_not.mp manual, ?_, liveHide_posts posted, liveHide_ctx⟩
    cases confirmed : cfg.liveConfirmed with
    | true => exact .inl rfl
    | false =>
      right
      cases supplied : opts.safety with
      | none => simp [confirmed, productionOptIn, supplied] at unconfirmed
      | some safety =>
        refine ⟨safety, rfl, ?_⟩
        simpa [confirmed, productionOptIn, supplied, not_not.mp manual] using unconfirmed

/-- The second half of an attempt posts only on an account that was healed where
needed, through an open gate, and only in one of the two live branches. -/
theorem gatedAttempt_posts
    (posted : (gatedAttempt env cfg opts run).1.liveHides ≠ run.liveHides) :
    LiveHidePermitted env cfg opts (gatedAttempt env cfg opts run).1.ctx ∧
      ∃ account, (gatedAttempt env cfg opts run).1.ctx = { run.ctx with account := account } := by
  unfold gatedAttempt at posted ⊢
  cases heal : healIfStale env cfg opts 1 (env.now 2) run with
  | error failure => simp [heal] at posted
  | ok healed =>
    obtain ⟨sameHides, sameCtx⟩ := healIfStale_frame heal
    rw [← sameHides] at posted
    simp only [heal] at posted ⊢
    cases blocked : gate healed.ctx cfg (env.now 3) with
    | some reason =>
      simp only [blocked] at posted
      exact absurd (record_quiet ..).liveHides posted
    | none =>
      simp only [blocked] at posted ⊢
      split_ifs at posted ⊢ with live
      · obtain ⟨dry, able, confirmed, passed, ctx⟩ := explicitLiveAttempt_posts posted
        rw [ctx]
        exact ⟨⟨blocked, dry, able, .inl ⟨live, confirmed⟩,
          fun _ => commentPreflight_none passed⟩, sameCtx⟩
      · obtain ⟨dry, able, autonomous, confirmed, passed, ctx⟩ := policyAttempt_posts posted
        rw [ctx]
        exact ⟨⟨blocked, dry, able, .inr ⟨autonomous, confirmed⟩,
          fun _ => commentPreflight_none passed⟩, sameCtx⟩

/-- A POST inside the safety envelope, with the verdict of the envelope. -/
def SafelyPermitted (env : HideEnvironment) (cfg : LiveActionsConfig) (opts : HideOptions)
    (before after : HideContext) : Prop :=
  LiveHidePermitted env cfg opts after ∧ (∃ account, after = { before with account := account }) ∧
    ∀ safety, opts.safety = some safety →
      (evaluateProductionSafety before.trigger before.matchedCategory before.confidence
        before.riskLevel safety).outcome = .allow

theorem safeAttempt_posts
    (posted : (safeAttempt env cfg opts run).1.liveHides ≠ run.liveHides) :
    SafelyPermitted env cfg opts run.ctx (safeAttempt env cfg opts run).1.ctx := by
  unfold safeAttempt at posted ⊢
  cases supplied : opts.safety with
  | none =>
    simp only [supplied] at posted ⊢
    obtain ⟨permitted, frame⟩ := gatedAttempt_posts posted
    exact ⟨permitted, frame, by simp [supplied]⟩
  | some safety =>
    simp only [supplied] at posted ⊢
    split_ifs at posted ⊢ with refused
    · exact absurd (record_quiet ..).liveHides posted
    · obtain ⟨permitted, frame⟩ := gatedAttempt_posts posted
      refine ⟨permitted, frame, fun other same => ?_⟩
      rw [supplied] at same
      cases same
      exact not_not.mp refused

theorem retryBlocked_posts {latest : ExecutionRow}
    (posted : (retryBlocked env cfg opts run latest).1.liveHides ≠ run.liveHides) :
    SafelyPermitted env cfg opts run.ctx (retryBlocked env cfg opts run latest).1.ctx := by
  unfold retryBlocked at posted ⊢
  cases heal : healIfStale env cfg opts 0 (env.now 0) run with
  | error failure => simp [heal] at posted
  | ok healed =>
    obtain ⟨sameHides, account, sameCtx⟩ := healIfStale_frame heal
    rw [← sameHides] at posted
    -- The envelope judges fields of the context that healing does not touch.
    have carry {after : HideContext} (safe : SafelyPermitted env cfg opts healed.ctx after) :
        SafelyPermitted env cfg opts run.ctx after := by
      obtain ⟨permitted, ⟨final, frame⟩, allowed⟩ := safe
      refine ⟨permitted, ⟨final, by rw [frame, sameCtx]⟩, ?_⟩
      simpa only [sameCtx] using allowed
    simp only [heal] at posted ⊢
    cases blocked : gate healed.ctx cfg (env.now 1) with
    | none =>
      simp only [blocked] at posted ⊢
      exact carry (safeAttempt_posts posted)
    | some reason =>
      simp only [blocked] at posted ⊢
      split_ifs at posted ⊢ with same
      · exact absurd rfl posted
      · exact carry (safeAttempt_posts posted)

theorem firstReason_eq_none {checks : List (Bool × String)} (open_ : firstReason checks = none) :
    ∀ check ∈ checks, check.1 = false := by
  induction checks with
  | nil => simp
  | cons first checks ih =>
    unfold firstReason at open_
    split_ifs at open_ with fires
    simpa [fires] using ih open_

theorem gate_none_safe {ctx : HideContext} {now : Int} (open_ : gate ctx cfg now = none) :
    isNeverAutonomous ctx.matchedCategory = false ∧ minConfidence ≤ ctx.confidence := by
  have closed := firstReason_eq_none open_
  have low := closed (decide (ctx.confidence < minConfidence), "low_confidence")
    (by simp [gateChecks])
  have never := closed (isNeverAutonomous ctx.matchedCategory, "safety_never_autonomous")
    (by simp [gateChecks])
  exact ⟨never, by simpa using low⟩

end Posts

theorem attempt_reaches (env : HideEnvironment) (cfg : LiveActionsConfig)
    (opts : HideOptions) (ctx : HideContext)
    (posted : (attemptFacebookHide env cfg opts ctx).1.liveHides ≠ []) :
    (∀ row ∈ findExistingExecutions env ctx, row.status ≠ .executed) ∧
      SafelyPermitted env cfg opts ctx (attemptFacebookHide env cfg opts ctx).1.ctx := by
  unfold attemptFacebookHide at posted ⊢
  cases executed : (findExistingExecutions env ctx).find? fun row => row.status == .executed with
  | some row => simp [executed, HideRun.start] at posted
  | none =>
    have fresh : ∀ row ∈ findExistingExecutions env ctx, row.status ≠ .executed := by
      intro row member same
      exact absurd (List.find?_eq_none.mp executed row member) (by simp [same])
    refine ⟨fresh, ?_⟩
    simp only [executed] at posted ⊢
    cases dryRun : priorDryRun opts (findExistingExecutions env ctx) with
    | some row => simp [dryRun, HideRun.start] at posted
    | none =>
      simp only [dryRun] at posted ⊢
      cases existing : findExistingExecutions env ctx with
      | nil =>
        simp only [existing] at posted ⊢
        exact safeAttempt_posts posted
      | cons latest older =>
        simp only [existing] at posted ⊢
        split_ifs at posted ⊢ with failed blocked
        · exact absurd rfl posted
        · exact retryBlocked_posts posted
        · exact safeAttempt_posts posted

/-- The hide POST of an attempt presupposes all of its gates, and customer voice or
a low confidence is never posted on any path. -/
theorem attemptFacebookHide_posts (env : HideEnvironment) (cfg : LiveActionsConfig)
    (opts : HideOptions) (ctx : HideContext)
    (posted : (attemptFacebookHide env cfg opts ctx).1.liveHides ≠ []) :
    (∀ row ∈ env.executions, attemptWhere ctx row = true → row.status ≠ .executed) ∧
    LiveHidePermitted env cfg opts (attemptFacebookHide env cfg opts ctx).1.ctx ∧
    (∃ account, (attemptFacebookHide env cfg opts ctx).1.ctx = { ctx with account := account }) ∧
    (∀ safety, opts.safety = some safety →
      (evaluateProductionSafety ctx.trigger ctx.matchedCategory ctx.confidence ctx.riskLevel
        safety).outcome = .allow) ∧
    isNeverAutonomous ctx.matchedCategory = false ∧ 0.8 ≤ ctx.confidence := by
  obtain ⟨fresh, permitted, ⟨account, frame⟩, allowed⟩ := attempt_reaches env cfg opts ctx posted
  have safe := gate_none_safe permitted.gateOpen
  rw [frame] at safe
  refine ⟨?_, permitted, ⟨account, frame⟩, allowed, safe⟩
  intro row recorded same
  exact fresh row (List.mem_filter.mpr ⟨recorded, same⟩)

/-! A spam comment that an autonomous policy hides, on a healthy page in production. -/

def liveConfig : LiveActionsConfig where
  liveEnabled := true
  facebookHideEnabled := true
  dryRun := false
  canExecuteLive := true
  liveConfirmed := false
  productionSafeMode := true
  globalKillSwitch := false

def openSafety : ProductionSafetyContext where
  flags := { productionSafeMode := true, globalKillSwitch := false }
  brandKillSwitch := false
  accountKillSwitch := false
  settings := { defaultSafetySettings with liveModeEnabled := true, autonomousHideEnabled := true }
  counts :=
    { dayCount := 0, hourCount := 0, categoryDayCount := 0, consecutiveWithoutReview := 0 }
  categoryApprovedBefore := true
  rollbackAvailable := true

def healthyPage : HideAccount where
  status := "active"
  health := "healthy"
  grantedPermissions := [facebookHidePermission]
  accessToken := some "token"
  pageId := some "page"
  externalId := "page"
  tokenExpiresAt := none
  needsReconnect := false
  connectionStatus := some "connected"
  tokenHealth := some "ok"

def spamContext : HideContext where
  tenantId := "tenant"
  brandId := "brand"
  itemId := "item"
  queueItemId := some "queue"
  policyId := some "policy"
  connectedAccountId := "account"
  platform := "facebook_page"
  externalCommentId := some "comment"
  externalPostId := none
  matchedCategory := "spam"
  confidence := 0.9
  riskLevel := "high"
  mode := "autonomous"
  trigger := .autonomous
  account := healthyPage
  requestedBy := "system"

def acceptingEnvironment : HideEnvironment where
  executions := []
  now _ := 0
  transport :=
    { hide := fun _ _ =>
        some { ok := true, responseCode := some "200", errorCode := none, errorMessage := none }
      getCommentState := some fun call _ _ => some (.readable true (call != 0))
      getPageTokenState := none }
  insert _ _ := .created "execution"

theorem attemptFacebookHide_posts_spam :
    (attemptFacebookHide acceptingEnvironment liveConfig
      { retry := false, liveAttempt := false, safety := some openSafety }
      spamContext).1.liveHides ≠ [] ∧ 0.8 ≤ spamContext.confidence := by
  have posted : (attemptFacebookHide acceptingEnvironment liveConfig
      { retry := false, liveAttempt := false, safety := some openSafety }
      spamContext).1.liveHides ≠ [] := by decide +kernel
  exact ⟨posted, (attemptFacebookHide_posts _ _ _ _ posted).2.2.2.2.2⟩

end Tamanor.Sync
