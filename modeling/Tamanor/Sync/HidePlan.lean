import Tamanor.Sync.HideSystem
import Tamanor.Sync.LiveActionsProperties

/-! What an attempt comes to before the database has its say: it stops, or it inserts one
row. Both are settled by what it has read, and the answer to the insert only decides how it
ends. -/

set_option autoImplicit false

namespace Tamanor.Sync

open Ai Library

inductive HidePlan where
  | stop (run : HideRun) (result : Except HideFailure HideExecutionResult)
  | insert (run : HideRun) (status : ExecutionStatus) (reason : String)
      (provider : Option HideCommentResult)

namespace HidePlan

def run : HidePlan → HideRun
  | .stop run _ | .insert run _ _ _ => run

def status? : HidePlan → Option ExecutionStatus
  | .stop _ _ => none
  | .insert _ status _ _ => some status

def outcome (env : HideEnvironment) : HidePlan → HideOutcome
  | .stop run result => (run, result)
  | .insert run status reason provider => record env run status reason provider

end HidePlan

def HideEnvironment.answering (env : HideEnvironment)
    (insert : ExecutionStatus → String → InsertAnswer) : HideEnvironment :=
  { env with insert }

inductive PostHonest (env : HideEnvironment) (before : HideRun) : HidePlan → Prop
  | quiet {plan : HidePlan} : plan.run.liveHides = before.liveHides →
      (plan.status? = some .executed →
        ∃ run, plan = .insert run .executed "already_hidden" none) → PostHonest env before plan
  | threw {run : HideRun} {input : HideCommentInput} :
      run.liveHides = before.liveHides ++ [input] → hideComment input false env.transport = none →
      PostHonest env before (.stop run (.error .transport))
  | rejected {run : HideRun} {input : HideCommentInput} {result : HideCommentResult}
      {reason : String} : run.liveHides = before.liveHides ++ [input] →
      hideComment input false env.transport = some result → result.status ≠ .executed →
      PostHonest env before (.insert run .failed reason (some result))
  | unverified {run : HideRun} {input : HideCommentInput} {result : HideCommentResult} :
      run.liveHides = before.liveHides ++ [input] →
      hideComment input false env.transport = some result → result.status = .executed →
      commentReport env 1 run.ctx = some none →
      PostHonest env before (.stop run (.error .transport))
  | contradicted {run : HideRun} {input : HideCommentInput} {result : HideCommentResult}
      {reason : String} {canHide : Bool} : run.liveHides = before.liveHides ++ [input] →
      hideComment input false env.transport = some result → result.status = .executed →
      commentReport env 1 run.ctx = some (some (.readable canHide false)) →
      PostHonest env before (.insert run .failed reason (some result))
  | performed {run : HideRun} {input : HideCommentInput} {result : HideCommentResult} :
      run.liveHides = before.liveHides ++ [input] →
      hideComment input false env.transport = some result → result.status = .executed →
      commentReport env 1 run.ctx ≠ some none →
      (∀ canHide, commentReport env 1 run.ctx ≠ some (some (.readable canHide false))) →
      PostHonest env before (.insert run .executed "live_hide_executed" (some result))

/-- A plan that goes on from a run: nothing is recorded yet, only the account of the context
may have changed, and the POST is reported as it went. -/
structure HidePlan.Continues (env : HideEnvironment) (before : HideRun) (plan : HidePlan) : Prop where
  recorded : plan.run.recorded = before.recorded
  context : ∃ account, plan.run.ctx = { before.ctx with account := account }
  honest : PostHonest env before plan

def Planned (env : HideEnvironment) (before : HideRun) (fact : HidePlan → Prop)
    (attempt : HideEnvironment → HideOutcome) : Prop :=
  ∃ plan : HidePlan, plan.Continues env before ∧ fact plan ∧
    ∀ insert, attempt (env.answering insert) = plan.outcome (env.answering insert)

section Plans

variable {env : HideEnvironment} {cfg : LiveActionsConfig} {opts : HideOptions}
  {before run : HideRun} {fact : HidePlan → Prop}

/-- Between two runs that differ by bookkeeping and the account only. -/
structure HideRun.Prepares (before run : HideRun) : Prop where
  liveHides : run.liveHides = before.liveHides
  recorded : run.recorded = before.recorded
  context : ∃ account, run.ctx = { before.ctx with account := account }

theorem HideRun.Prepares.refl (run : HideRun) : run.Prepares run :=
  ⟨rfl, rfl, run.ctx.account, rfl⟩

theorem PostHonest.of_prepares {plan : HidePlan} (prepares : before.Prepares run)
    (honest : PostHonest env run plan) : PostHonest env before plan := by
  cases honest with
  | quiet same executed => exact .quiet (same.trans prepares.liveHides) executed
  | threw posted threw => exact .threw (prepares.liveHides ▸ posted) threw
  | rejected posted answer failed => exact .rejected (prepares.liveHides ▸ posted) answer failed
  | unverified posted answer executed threw =>
    exact .unverified (prepares.liveHides ▸ posted) answer executed threw
  | contradicted posted answer executed visible =>
    exact .contradicted (prepares.liveHides ▸ posted) answer executed visible
  | performed posted answer executed answered hidden =>
    exact .performed (prepares.liveHides ▸ posted) answer executed answered hidden

theorem Planned.of_prepares {attempt : HideEnvironment → HideOutcome}
    (prepares : before.Prepares run) (planned : Planned env run fact attempt) :
    Planned env before fact attempt := by
  obtain ⟨plan, continues, holds, follows⟩ := planned
  obtain ⟨account, context⟩ := continues.context
  obtain ⟨earlier, prepared⟩ := prepares.context
  refine ⟨plan, ⟨continues.recorded.trans prepares.recorded, ⟨account, ?_⟩, ?_⟩, holds, follows⟩
  · rw [context, prepared]
  · exact continues.honest.of_prepares prepares

theorem Planned.congr {attempt other : HideEnvironment → HideOutcome}
    (planned : Planned env before fact attempt)
    (same : ∀ insert, other (env.answering insert) = attempt (env.answering insert)) :
    Planned env before fact other := by
  obtain ⟨plan, continues, holds, follows⟩ := planned
  exact ⟨plan, continues, holds, fun insert => (same insert).trans (follows insert)⟩

theorem planned_stop (prepares : before.Prepares run)
    (result : Except HideFailure HideExecutionResult) (holds : fact (.stop run result)) :
    Planned env before fact fun _ => (run, result) :=
  ⟨.stop run result, ⟨prepares.recorded, prepares.context,
    .quiet prepares.liveHides fun executed => nomatch executed⟩, holds, fun _ => rfl⟩

theorem planned_record (prepares : before.Prepares run) (status : ExecutionStatus) (reason : String)
    (provider : Option HideCommentResult) (unexecuted : status ≠ .executed)
    (holds : fact (.insert run status reason provider)) :
    Planned env before fact fun env => record env run status reason provider :=
  ⟨.insert run status reason provider, ⟨prepares.recorded, prepares.context,
    .quiet prepares.liveHides fun executed => absurd (Option.some.inj executed) unexecuted⟩, holds,
    fun _ => rfl⟩

theorem HideRun.prepares_patchAccount (run : HideRun) (patch : AccountPatch) :
    run.Prepares (run.patchAccount patch) :=
  ⟨rfl, rfl, run.ctx.account, rfl⟩

theorem HideRun.prepares_resolveQueueItem (run : HideRun) (state : QueueState) :
    run.Prepares (run.resolveQueueItem state) := by
  unfold HideRun.resolveQueueItem
  split
  · exact ⟨rfl, rfl, run.ctx.account, rfl⟩
  · exact .refl run

theorem prepares_healIfStale {call : Nat} {now : Int} {healed : HideRun}
    (done : healIfStale env cfg opts call now run = .ok healed) : run.Prepares healed := by
  obtain ⟨liveHides, context⟩ := healIfStale_frame done
  refine ⟨liveHides, ?_, context⟩
  unfold healIfStale at done
  split at done
  · unfold revalidateAndRepair at done
    split at done
    · split_ifs at done with empty
      · cases done
        rfl
      · split at done
        · cases done
        · cases done
          rfl
        · split_ifs at done with transient <;> cases done <;> rfl
    · cases done
      rfl
  · cases done
    rfl

section

variable (holds : ∀ plan, fact plan)
include holds

theorem planned_recordVerifiedHide {input : HideCommentInput} {posted : HideRun}
    {result : HideCommentResult} (posts : posted.liveHides = run.liveHides ++ [input])
    (recorded : posted.recorded = run.recorded)
    (context : ∃ account, posted.ctx = { run.ctx with account := account })
    (answer : hideComment input false env.transport = some result)
    (executed : result.status = .executed) :
    Planned env run fact fun env => recordVerifiedHide env posted result := by
  have reported (insert : ExecutionStatus → String → InsertAnswer) :
      commentReport (env.answering insert) 1 posted.ctx = commentReport env 1 posted.ctx := rfl
  have performed (answered : commentReport env 1 posted.ctx ≠ some none)
      (hidden : ∀ canHide, commentReport env 1 posted.ctx ≠ some (some (.readable canHide false)))
      (follows : ∀ insert, recordVerifiedHide (env.answering insert) posted result =
        record (env.answering insert) posted .executed "live_hide_executed" (some result)) :
      Planned env run fact fun env => recordVerifiedHide env posted result :=
    ⟨.insert posted .executed "live_hide_executed" (some result),
      ⟨recorded, context, .performed posts answer executed answered hidden⟩, holds _, follows⟩
  cases report : commentReport env 1 posted.ctx with
  | none =>
    refine performed (by simp [report]) (by simp [report]) fun insert => ?_
    simp only [recordVerifiedHide, reported, report]
  | some state =>
    cases state with
    | none =>
      refine ⟨.stop posted (.error .transport),
        ⟨recorded, context, .unverified posts answer executed report⟩, holds _, fun insert => ?_⟩
      simp only [recordVerifiedHide, reported, report, HidePlan.outcome]
    | some state =>
      cases state with
      | unreadable errorCode =>
        refine performed (by simp [report]) (by simp [report]) fun insert => ?_
        simp only [recordVerifiedHide, reported, report]
      | readable canHide isHidden =>
        cases isHidden with
        | true =>
          refine performed (by simp [report]) (by simp [report]) fun insert => ?_
          simp only [recordVerifiedHide, reported, report]
        | false =>
          refine ⟨.insert posted .failed "verification_failed" (some result),
            ⟨recorded, context, .contradicted posts answer executed report⟩, holds _,
            fun insert => ?_⟩
          simp only [recordVerifiedHide, reported, report, HidePlan.outcome]

theorem planned_post {input : HideCommentInput} {posted : HideRun}
    (posts : posted.liveHides = run.liveHides ++ [input])
    (recorded : posted.recorded = run.recorded)
    (context : ∃ account, posted.ctx = { run.ctx with account := account }) :
    Planned env run fact fun env =>
      match hideComment input false env.transport with
      | none => (posted, .error .transport)
      | some result =>
        if result.status = .executed then recordVerifiedHide env posted result
        else
          record env posted .failed (result.providerErrorCode.getD "provider_error")
            (some result) := by
  have transport (insert : ExecutionStatus → String → InsertAnswer) :
      (env.answering insert).transport = env.transport := rfl
  cases answer : hideComment input false env.transport with
  | none =>
    refine ⟨.stop posted (.error .transport), ⟨recorded, context, .threw posts answer⟩, holds _,
      fun insert => ?_⟩
    simp only [transport, answer, HidePlan.outcome]
  | some result =>
    by_cases executed : result.status = .executed
    · refine (planned_recordVerifiedHide holds posts recorded context answer executed).congr
        fun insert => ?_
      simp only [transport, answer, executed, if_true]
    · refine ⟨.insert posted .failed (result.providerErrorCode.getD "provider_error") (some result),
        ⟨recorded, context, .rejected posts answer executed⟩, holds _, fun insert => ?_⟩
      simp only [transport, answer, executed, if_false, HidePlan.outcome]

theorem planned_liveHide_of_ends {prepared : HideRun} (prepares : run.Prepares prepared)
    (status : ExecutionStatus) (unexecuted : status ≠ .executed) (reason : String)
    (ends : ∀ insert, commentPreflight (env.answering insert) run =
      some (record (env.answering insert) prepared status reason none)) :
    Planned env run fact fun env => liveHide env run := by
  refine (planned_record prepares status reason none unexecuted (holds _)).congr fun insert => ?_
  simp only [liveHide, ends]

theorem planned_liveHide_of_passes
    (passes : ∀ insert, commentPreflight (env.answering insert) run = none) :
    Planned env run fact fun env => liveHide env run := by
  let input := hideInput run.ctx (run.ctx.account.accessToken.getD "")
  refine (@planned_post env run fact holds input
    { run with liveHides := run.liveHides ++ [input] } rfl rfl ⟨run.ctx.account, rfl⟩).congr
    fun insert => ?_
  simp only [liveHide, passes]
  rfl

theorem planned_liveHide_unreadable {errorCode : String}
    (report : ∀ insert, commentReport (env.answering insert) 0 run.ctx =
      some (some (.unreadable errorCode))) :
    Planned env run fact fun env => liveHide env run := by
  by_cases missing : errorCode = "not_found"
  · refine planned_liveHide_of_ends holds (run.prepares_resolveQueueItem .noAction)
      .blocked (by decide) "comment_deleted_or_unavailable" fun insert => ?_
    simp only [commentPreflight, report, missing, if_true]
  by_cases token : ["token_expired", "token_invalid", "revoked"].contains errorCode = true
  · refine planned_liveHide_of_ends holds (run.prepares_patchAccount (reconnectPatch errorCode))
      .blocked (by decide) "reconnect_required" fun insert => ?_
    simp only [commentPreflight, report, missing, token, if_true, if_false]
  by_cases permission : errorCode = "permission"
  · refine planned_liveHide_of_ends holds (.refl run) .blocked (by decide)
      "missing_permission" fun insert => ?_
    simp only [commentPreflight, report, missing, if_neg token, if_pos permission, if_false]
  · refine planned_liveHide_of_ends holds (.refl run) .failed (by decide) errorCode
      fun insert => ?_
    simp only [commentPreflight, report, missing, if_neg token, permission, if_false]

theorem planned_liveHide : Planned env run fact fun env => liveHide env run := by
  have reported (insert : ExecutionStatus → String → InsertAnswer) :
      commentReport (env.answering insert) 0 run.ctx = commentReport env 0 run.ctx := rfl
  cases report : commentReport env 0 run.ctx with
  | none =>
    refine planned_liveHide_of_passes holds fun insert => ?_
    simp only [commentPreflight, reported, report]
  | some state =>
    cases state with
    | none =>
      refine (planned_stop (.refl run) (.error .transport) (holds _)).congr fun insert => ?_
      simp only [liveHide, commentPreflight, reported, report]
    | some state =>
      cases state with
      | unreadable errorCode =>
        exact planned_liveHide_unreadable holds fun insert => (reported insert).trans report
      | readable canHide isHidden =>
        cases isHidden with
        | true =>
          refine ⟨.insert run .executed "already_hidden" none,
            ⟨rfl, ⟨run.ctx.account, rfl⟩, .quiet rfl fun _ => ⟨run, rfl⟩⟩, holds _,
            fun insert => ?_⟩
          simp only [liveHide, commentPreflight, reported, report, if_true, HidePlan.outcome]
        | false =>
          cases canHide with
          | false =>
            refine planned_liveHide_of_ends holds (run.prepares_resolveQueueItem .noAction)
              .blocked (by decide) "facebook_can_hide_false" fun insert => ?_
            simp [commentPreflight, reported, report]
          | true =>
            refine planned_liveHide_of_passes holds fun insert => ?_
            simp [commentPreflight, reported, report]

theorem planned_dryRunHide : Planned env run fact fun env => dryRunHide env run := by
  have transport (insert : ExecutionStatus → String → InsertAnswer) :
      (env.answering insert).transport = env.transport := rfl
  cases answer : hideComment (hideInput run.ctx "") true env.transport with
  | none =>
    refine (planned_stop (.refl run) (.error .transport) (holds _)).congr fun insert => ?_
    simp only [dryRunHide, transport, answer]
  | some result =>
    refine (planned_record (.refl run) .dryRun "dry_run_mode" (some result) (by decide)
      (holds _)).congr fun insert => ?_
    simp only [dryRunHide, transport, answer]

theorem planned_blocked (reason : String) :
    Planned env run fact fun env => record env run .blocked reason none :=
  planned_record (.refl run) .blocked reason none (by decide) (holds _)

end

theorem planned_explicitLiveAttempt (cfg : LiveActionsConfig) (holds : ∀ plan, fact plan) :
    Planned env run fact fun env => explicitLiveAttempt env cfg run := by
  unfold explicitLiveAttempt
  split
  · exact planned_blocked holds _
  · split
    · exact planned_blocked holds _
    · split
      · exact planned_blocked holds _
      · exact planned_liveHide holds

theorem planned_policyAttempt (cfg : LiveActionsConfig) (opts : HideOptions)
    (holds : ∀ plan, fact plan) :
    Planned env run fact fun env => policyAttempt env cfg opts run := by
  unfold policyAttempt
  split
  · exact planned_dryRunHide holds
  · split
    · exact planned_blocked holds _
    · split
      · exact planned_dryRunHide holds
      · exact planned_liveHide holds

theorem planned_gatedAttempt (cfg : LiveActionsConfig) (opts : HideOptions) (run : HideRun)
    (holds : ∀ plan, fact plan) :
    Planned env run fact fun env => gatedAttempt env cfg opts run := by
  cases heal : healIfStale env cfg opts 1 (env.now 2) run with
  | error failure =>
    refine (planned_stop (.refl run) (.error failure) (holds _)).congr fun insert => ?_
    have same : healIfStale (env.answering insert) cfg opts 1 ((env.answering insert).now 2) run =
      .error failure := heal
    simp only [gatedAttempt, same]
  | ok healed =>
    have acted : Planned env healed fact fun env =>
        (gate healed.ctx cfg (env.now 3)).elim
          (if opts.liveAttempt then explicitLiveAttempt env cfg healed
            else policyAttempt env cfg opts healed)
          fun reason => record env healed .blocked reason none := by
      have clock (insert : ExecutionStatus → String → InsertAnswer) :
          (env.answering insert).now 3 = env.now 3 := rfl
      cases decision : gate healed.ctx cfg (env.now 3) with
      | some reason =>
        refine (planned_blocked holds reason).congr fun insert => ?_
        simp only [clock, decision, Option.elim]
      | none =>
        by_cases live : opts.liveAttempt = true
        · refine (planned_explicitLiveAttempt cfg holds).congr fun insert => ?_
          simp only [clock, decision, live, if_true, Option.elim]
        · refine (planned_policyAttempt cfg opts holds).congr fun insert => ?_
          simp only [clock, decision, if_neg live, Option.elim]
    refine (acted.of_prepares (prepares_healIfStale heal)).congr fun insert => ?_
    have same : healIfStale (env.answering insert) cfg opts 1 ((env.answering insert).now 2) run =
      .ok healed := heal
    cases decision : gate healed.ctx cfg ((env.answering insert).now 3) with
    | some reason => simp only [gatedAttempt, same, decision, Option.elim]
    | none => simp only [gatedAttempt, same, decision, Option.elim]

/-- An executed row presupposes that the safety envelope allowed the hide. -/
def SafetyAllows (opts : HideOptions) (ctx : HideContext) (plan : HidePlan) : Prop :=
  plan.status? = some .executed → ∀ safety, opts.safety = some safety →
    (evaluateProductionSafety ctx.trigger ctx.matchedCategory ctx.confidence ctx.riskLevel
      safety).outcome = .allow

section

variable (env : HideEnvironment) (cfg : LiveActionsConfig) (opts : HideOptions)

theorem planned_safeAttempt (run : HideRun) :
    Planned env run (SafetyAllows opts run.ctx) fun env => safeAttempt env cfg opts run := by
  cases supplied : opts.safety with
  | none =>
    refine (planned_gatedAttempt cfg opts run ?_).congr fun insert => ?_
    · intro plan _ safety present
      rw [supplied] at present
      cases present
    · simp only [safeAttempt, supplied]
  | some safety =>
    let audited := { run with
      audits := run.audits ++ [(evaluateProductionSafety run.ctx.trigger run.ctx.matchedCategory
        run.ctx.confidence run.ctx.riskLevel safety).auditEvent] }
    have prepares : run.Prepares audited := ⟨rfl, rfl, run.ctx.account, rfl⟩
    by_cases allowed : (evaluateProductionSafety run.ctx.trigger run.ctx.matchedCategory
        run.ctx.confidence run.ctx.riskLevel safety).outcome = .allow
    · refine ((planned_gatedAttempt cfg opts audited ?_).of_prepares prepares).congr
        fun insert => ?_
      · intro plan _ other present
        rw [supplied] at present
        rw [← Option.some.inj present]
        exact allowed
      · simp only [safeAttempt, supplied, allowed, ne_eq, not_true_eq_false, if_false]
        rfl
    · refine (planned_record prepares .blocked (evaluateProductionSafety run.ctx.trigger
        run.ctx.matchedCategory run.ctx.confidence run.ctx.riskLevel safety).reason none
        (by decide) ?_).congr fun insert => ?_
      · intro executed
        cases executed
      · simp only [safeAttempt, supplied, allowed, ne_eq, not_false_eq_true, if_true]
        rfl

theorem planned_retryBlocked (run : HideRun) (latest : ExecutionRow) :
    Planned env run (SafetyAllows opts run.ctx) fun env => retryBlocked env cfg opts run latest := by
  have stopped {stopped : HideRun} (result : Except HideFailure HideExecutionResult) :
      SafetyAllows opts run.ctx (.stop stopped result) := fun executed => nomatch executed
  cases heal : healIfStale env cfg opts 0 (env.now 0) run with
  | error failure =>
    refine (planned_stop (.refl run) (.error failure) (stopped _)).congr fun insert => ?_
    have same : healIfStale (env.answering insert) cfg opts 0 ((env.answering insert).now 0) run =
      .error failure := heal
    simp only [retryBlocked, same]
  | ok healed =>
    have prepares := prepares_healIfStale heal
    have retried : Planned env run (SafetyAllows opts run.ctx)
        fun env => safeAttempt env cfg opts healed := by
      obtain ⟨account, context⟩ := prepares.context
      have planned := (planned_safeAttempt env cfg opts healed).of_prepares prepares
      rw [context] at planned
      exact planned
    have same (insert : ExecutionStatus → String → InsertAnswer) :
        healIfStale (env.answering insert) cfg opts 0 ((env.answering insert).now 0) run =
          .ok healed := heal
    have clock (insert : ExecutionStatus → String → InsertAnswer) :
        (env.answering insert).now 1 = env.now 1 := rfl
    cases decision : gate healed.ctx cfg (env.now 1) with
    | none =>
      refine retried.congr fun insert => ?_
      simp only [retryBlocked, same, clock, decision]
    | some reason =>
      by_cases echoed : latest.reason = some reason
      · refine (planned_stop prepares (.ok (reuse latest .blocked reason)) (stopped _)).congr
          fun insert => ?_
        simp only [retryBlocked, same, clock, decision, echoed, if_true]
      · refine retried.congr fun insert => ?_
        simp only [retryBlocked, same, clock, decision, echoed, if_false]

theorem planned_attemptFacebookHide (ctx : HideContext) :
    Planned env (HideRun.start ctx) (SafetyAllows opts ctx)
      fun env => attemptFacebookHide env cfg opts ctx := by
  have stopped (result : Except HideFailure HideExecutionResult) :
      Planned env (HideRun.start ctx) (SafetyAllows opts ctx) fun _ => (HideRun.start ctx, result) :=
    planned_stop (.refl _) result fun executed => nomatch executed
  have existing (insert : ExecutionStatus → String → InsertAnswer) :
      findExistingExecutions (env.answering insert) ctx = findExistingExecutions env ctx := rfl
  cases executed : (findExistingExecutions env ctx).find? fun row => row.status == .executed with
  | some row =>
    refine (stopped (.ok (reuse row .executed "already_executed"))).congr fun insert => ?_
    simp only [attemptFacebookHide, existing, executed]
  | none =>
    cases dryRun : priorDryRun opts (findExistingExecutions env ctx) with
    | some row =>
      refine (stopped (.ok (reuse row .dryRun (row.reason.getD "dry_run_mode")))).congr
        fun insert => ?_
      simp only [attemptFacebookHide, existing, executed, dryRun]
    | none =>
      cases rows : findExistingExecutions env ctx with
      | nil =>
        refine (planned_safeAttempt env cfg opts (HideRun.start ctx)).congr fun insert => ?_
        rw [rows] at executed dryRun
        simp only [attemptFacebookHide, existing, rows, executed, dryRun]
      | cons latest older =>
        rw [rows] at executed dryRun
        by_cases failed : latest.status = .failed ∧ (!opts.retry) = true
        · refine (stopped (.ok (reuse latest .failed
            (latest.reason.getD "provider_error")))).congr fun insert => ?_
          simp only [attemptFacebookHide, existing, rows, executed, dryRun, if_pos failed]
        · by_cases blocked : latest.status = .blocked
          · refine (planned_retryBlocked env cfg opts (HideRun.start ctx) latest).congr
              fun insert => ?_
            simp only [attemptFacebookHide, existing, rows, executed, dryRun, if_neg failed,
              if_pos blocked]
          · refine (planned_safeAttempt env cfg opts (HideRun.start ctx)).congr fun insert => ?_
            simp only [attemptFacebookHide, existing, rows, executed, dryRun, if_neg failed,
              if_neg blocked]

end

end Plans

structure HideCall.Follows (call : HideCall) (existing : List ExecutionRow) (now : Nat → Int)
    (plan : HidePlan) : Prop where
  recorded : plan.run.recorded = []
  context : ∃ account, plan.run.ctx = { call.ctx with account := account }
  honest : PostHonest (call.env existing now .failed) (HideRun.start call.ctx) plan
  allowed : SafetyAllows call.options call.ctx plan
  outcome : ∀ answer, call.attempt existing now answer = plan.outcome (call.env existing now answer)

theorem HideCall.follows (call : HideCall) (existing : List ExecutionRow) (now : Nat → Int) :
    ∃ plan, call.Follows existing now plan := by
  obtain ⟨plan, continues, allowed, follows⟩ := planned_attemptFacebookHide
    (call.env existing now .failed) call.cfg call.options call.ctx
  exact ⟨plan, continues.recorded, continues.context, continues.honest, allowed,
    fun answer => follows fun _ _ => answer⟩

@[simp] theorem HideRun.afterInsert_recorded (run : HideRun) (row : ExecutionRow) :
    (run.afterInsert row).recorded = run.recorded ++ [row] := by
  have queued (run : HideRun) (state : QueueState) :
      (run.resolveQueueItem state).recorded = run.recorded := by
    unfold HideRun.resolveQueueItem
    split <;> rfl
  unfold HideRun.afterInsert
  dsimp only
  split <;> split <;> simp [queued, HideRun.patchAccount]

namespace HideCall.Follows

variable {call : HideCall} {existing : List ExecutionRow} {now : Nat → Int}

theorem insertion_stop {run : HideRun} {result : Except HideFailure HideExecutionResult}
    (follows : call.Follows existing now (.stop run result)) : call.insertion existing now = none := by
  have empty : run.recorded = [] := follows.recorded
  simp [HideCall.insertion, follows.outcome, HidePlan.outcome, empty]

variable {run : HideRun} {status : ExecutionStatus} {reason : String}
  {provider : Option HideCommentResult}

theorem insertion_insert (follows : call.Follows existing now (.insert run status reason provider)) :
    call.insertion existing now =
      some (executionRow run.ctx status reason provider call.executionId (now 4)) := by
  have empty : run.recorded = [] := follows.recorded
  simp [HideCall.insertion, follows.outcome, HidePlan.outcome, record, HideCall.env, empty]

theorem created_result (follows : call.Follows existing now (.insert run status reason provider)) :
    (call.attempt existing now (.created call.executionId)).2 =
      .ok ⟨call.executionId, status, reason, false⟩ := by
  simp [follows.outcome, HidePlan.outcome, record, HideCall.env]

end HideCall.Follows

end Tamanor.Sync
