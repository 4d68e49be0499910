import Tamanor.Sync.HidePlan

/-! The hourly and the daily limit of the autonomous hides of a brand, for ingests of any of
its accounts at once, with approvals and rollbacks between them. -/

set_option autoImplicit false

namespace Tamanor.Sync

open Ai Library

variable {tenantId brandId : String}

def withinHour (start time : Int) : Bool := decide (start ≤ time ∧ time ≤ start + hourMs)

structure WithinLimits (settings : BrandSafetySettings) (days : LocalDays) (times : List Int) :
    Prop where
  hourly : ∀ start, times.countP (withinHour start) ≤ settings.hourlyAutoHideLimit.toNat
  daily : ∀ day, times.countP (fun time => days.dayStart time == day) ≤
    settings.dailyAutoHideLimit.toNat

/-- Room for one more hide besides those that a context counts and those recorded since. -/
structure HasRoom (settings : BrandSafetySettings) (counts : SafetyCounts) (since : Nat) : Prop where
  hourly : counts.hourCount + since < settings.hourlyAutoHideLimit
  daily : counts.dayCount + since < settings.dailyAutoHideLimit

instance {settings : BrandSafetySettings} {counts : SafetyCounts} {since : Nat} :
    Decidable (HasRoom settings counts since) :=
  decidable_of_iff (_ ∧ _) ⟨fun ⟨hourly, daily⟩ => ⟨hourly, daily⟩,
    fun room => ⟨room.hourly, room.daily⟩⟩

/-- The room that the context of an ingest had left is still there when it comes to its record,
whatever hides of the brand were recorded since. -/
def HideStage.KeepsRoom (tenantId brandId : String) (executions : List ExecutionRow) :
    HideStage → Prop
  | .acted call (some load) _ _ =>
    call.ctx.tenantId = tenantId → call.ctx.brandId = brandId →
      ∀ safety ∈ call.options.safety, HasRoom safety.settings safety.counts 0 →
        HasRoom safety.settings safety.counts
          ((hideTimes executions tenantId brandId).length - load.hides)
  | _ => True

/-- Every record finds its room; and only hides are rolled back that are older than an hour and
of an earlier day. -/
def Reserved (tenantId brandId : String) (system : HideSystem) : BrandStep → Prop
  | .advance client =>
    ∀ stage ∈ system.calls client, stage.KeepsRoom tenantId brandId system.executions
  | .rollback input _ =>
    ∀ row ∈ system.executions, input.finds row = true →
      isAutonomousHide tenantId brandId row = true → ∀ time ∈ row.executedAt,
        time < system.clock - hourMs ∧ time < system.days.dayStart system.clock
  | _ => True

instance {executions : List ExecutionRow} :
    (stage : HideStage) → Decidable (stage.KeepsRoom tenantId brandId executions)
  | .acted _ (some _) _ _ => inferInstanceAs (Decidable (_ → _ → ∀ _ ∈ _, _ → _))
  | .acted _ none _ _ | .ingesting .. | .called .. | .refused .. => .isTrue trivial

instance {system : HideSystem} :
    (action : BrandStep) → Decidable (Reserved tenantId brandId system action)
  | .advance client => inferInstanceAs (Decidable (∀ _ ∈ system.calls client, _))
  | .rollback .. => inferInstanceAs (Decidable (∀ _ ∈ system.executions, _ → _ → ∀ _ ∈ _, _))
  | .ingest .. | .approve .. | .tick _ => .isTrue trivial

section Limits

variable {settings : BrandSafetySettings} {days : LocalDays} {since counted : List Int}
  {loadedAt clock : Int} {counts : SafetyCounts}

structure Covers (days : LocalDays) (loadedAt : Int) (counts : SafetyCounts) (counted : List Int) :
    Prop where
  past : ∀ time ∈ counted, time ≤ loadedAt
  hour : (counted.countP fun time => decide (loadedAt - hourMs ≤ time)) ≤ counts.hourCount
  day : (counted.countP fun time => decide (days.dayStart loadedAt ≤ time)) ≤ counts.dayCount

theorem Covers.hourly_le (covers : Covers days loadedAt counts counted) (later : loadedAt ≤ clock)
    {start : Int} (within : withinHour start clock = true) :
    ((since ++ counted).countP (withinHour start) : Int) ≤ counts.hourCount + since.length := by
  have fewer : counted.countP (withinHour start) ≤
      counted.countP fun time => decide (loadedAt - hourMs ≤ time) := by
    refine List.countP_mono_left fun time _ inside => ?_
    simp only [withinHour, decide_eq_true_eq] at inside within ⊢
    omega
  have recorded : since.countP (withinHour start) ≤ since.length := List.countP_le_length
  have covered := covers.hour
  rw [List.countP_append]
  omega

theorem Covers.daily_le (covers : Covers days loadedAt counts counted) (later : loadedAt ≤ clock) :
    ((since ++ counted).countP (fun time => days.dayStart time == days.dayStart clock) : Int) ≤
      counts.dayCount + since.length := by
  have fewer : counted.countP (fun time => days.dayStart time == days.dayStart clock) ≤
      counted.countP fun time => decide (days.dayStart loadedAt ≤ time) := by
    refine List.countP_mono_left fun time member today => ?_
    have dated : days.dayStart time = days.dayStart clock := beq_iff_eq.mp today
    have before := covers.past time member
    have first := days.dayStart_le time
    -- A hide of today before the load: the load itself was made today.
    have loaded : days.dayStart loadedAt = days.dayStart clock := days.dayStart_eq (by omega) later
    simp only [decide_eq_true_eq]
    omega
  have recorded : since.countP (fun time => days.dayStart time == days.dayStart clock) ≤
      since.length := List.countP_le_length
  have covered := covers.day
  rw [List.countP_append]
  omega

theorem WithinLimits.cons (limits : WithinLimits settings days (since ++ counted))
    (later : loadedAt ≤ clock) (covers : Covers days loadedAt counts counted)
    (room : HasRoom settings counts since.length) :
    WithinLimits settings days (clock :: (since ++ counted)) where
  hourly start := by
    rw [List.countP_cons]
    by_cases within : withinHour start clock = true
    · have fewer := @Covers.hourly_le _ since _ _ _ _ covers later _ within
      have free := room.hourly
      rw [if_pos within]
      omega
    · rw [if_neg within]
      exact limits.hourly start
  daily date := by
    rw [List.countP_cons]
    by_cases today : (days.dayStart clock == date) = true
    · rw [if_pos today, ← beq_iff_eq.mp today]
      have fewer := @Covers.daily_le _ since _ _ _ _ covers later
      have free := room.daily
      omega
    · rw [if_neg today]
      exact limits.daily date

end Limits

section Envelope

variable {category riskLevel : String} {confidence : ℚ} {safety : ProductionSafetyContext}

theorem ite_some_eq_none {α : Type} {condition : Prop} [Decidable condition] {value : α}
    {rest : Option α} (passed : (if condition then some value else rest) = none) :
    ¬ condition ∧ rest = none := by
  by_cases fires : condition
  · rw [if_pos fires] at passed
    cases passed
  · rw [if_neg fires] at passed
    exact ⟨fires, passed⟩

theorem ite_some_eq_some {α : Type} {condition : Prop} [Decidable condition] {value answer : α}
    {rest : Option α} (answered : (if condition then some value else rest) = some answer) :
    value = answer ∨ rest = some answer := by
  by_cases fires : condition
  · rw [if_pos fires] at answered
    exact .inl (Option.some.inj answered)
  · rw [if_neg fires] at answered
    exact .inr answered

theorem outcome_autonomousDowngrade {evaluation : SafetyEvaluation}
    (downgraded : autonomousDowngrade category confidence riskLevel safety = some evaluation) :
    evaluation.outcome = .downgrade := by
  unfold autonomousDowngrade at downgraded
  dsimp only at downgraded
  iterate 12
    rcases ite_some_eq_some downgraded with rfl | downgraded
    · rfl
  cases downgraded

theorem hasRoom_of_autonomousDowngrade_none
    (passed : autonomousDowngrade category confidence riskLevel safety = none) :
    HasRoom safety.settings safety.counts 0 := by
  unfold autonomousDowngrade at passed
  dsimp only at passed
  -- The gates before the two limits.
  iterate 8
    replace passed := (ite_some_eq_none passed).2
  obtain ⟨hourly, passed⟩ := ite_some_eq_none passed
  obtain ⟨daily, _⟩ := ite_some_eq_none passed
  constructor
  · simpa using hourly
  · simpa using daily

theorem hasRoom_of_allow
    (allowed : (evaluateProductionSafety .autonomous category confidence riskLevel safety).outcome =
      .allow) : HasRoom safety.settings safety.counts 0 := by
  unfold evaluateProductionSafety at allowed
  iterate 4
    split at allowed
    · cases allowed
  dsimp only at allowed
  cases downgraded : autonomousDowngrade category confidence riskLevel safety with
  | none => exact hasRoom_of_autonomousDowngrade_none downgraded
  | some evaluation =>
    rw [downgraded, Option.getD_some, outcome_autonomousDowngrade downgraded] at allowed
    cases allowed

end Envelope

theorem countP_hideTimes (executions : List ExecutionRow) (tenantId brandId : String)
    (during : Int → Bool) :
    (hideTimes executions tenantId brandId).countP during =
      executions.countP fun row =>
        isAutonomousHide tenantId brandId row && row.executedAt.any during := by
  rw [hideTimes, List.countP_filterMap, List.countP_filter]
  refine List.countP_congr fun row _ => ?_
  cases row.executedAt <;> simp [Bool.and_comm]

def HideStage.pending? : HideStage → Option (HideCall × Option HideLoad)
  | .called call load | .acted call load _ _ => some (call, load)
  | _ => none

structure LoadSound (system : HideSystem) (call : HideCall) (load : HideLoad) : Prop where
  loadedAt : load.loadedAt ≤ system.clock
  safety : ∃ safety since counted, call.options.safety = some safety ∧
    safety.settings = system.settings call.ctx.brandId ∧
    hideTimes system.executions call.ctx.tenantId call.ctx.brandId = since ++ counted ∧
    counted.length = load.hides ∧ Covers system.days load.loadedAt safety.counts counted

/-- A call without a load is an approval, and a load covers the hides of the brand. -/
structure CallSound (tenantId brandId : String) (system : HideSystem) (stage : HideStage) : Prop where
  unloaded : ∀ {call}, stage.pending? = some (call, none) → call.ctx.trigger = .approval
  loaded : ∀ {call load}, stage.pending? = some (call, some load) →
    call.ctx.tenantId = tenantId → call.ctx.brandId = brandId → LoadSound system call load

structure BudgetSound (tenantId brandId : String) (system : HideSystem) : Prop where
  limits : WithinLimits (system.settings brandId) system.days
    (hideTimes system.executions tenantId brandId)
  past : ∀ time ∈ hideTimes system.executions tenantId brandId, time ≤ system.clock
  rolledBack : ∀ row ∈ system.executions, isAutonomousHide tenantId brandId row = true →
    row.status = .rolledBack → ∀ time, row.executedAt = some time →
      time < system.clock - hourMs ∧ time < system.days.dayStart system.clock
  calls : ∀ {client stage}, system.calls client = some stage →
    CallSound tenantId brandId system stage

variable {before after system : HideSystem} {client : Nat} {call : HideCall}

/-- What a step leaves to the calls of others: the hides of the brand are added to. -/
structure BudgetFrame (tenantId brandId : String) (before after : HideSystem) : Prop where
  settings : after.settings = before.settings
  days : after.days = before.days
  clock : before.clock ≤ after.clock
  times : ∃ added, hideTimes after.executions tenantId brandId =
    added ++ hideTimes before.executions tenantId brandId

theorem LoadSound.frame {load : HideLoad}
    (frame : BudgetFrame call.ctx.tenantId call.ctx.brandId before after)
    (sound : LoadSound before call load) : LoadSound after call load where
  loadedAt := Int.le_trans sound.loadedAt frame.clock
  safety := by
    obtain ⟨safety, since, counted, supplied, settings, times, length, covers⟩ := sound.safety
    obtain ⟨added, grown⟩ := frame.times
    refine ⟨safety, added ++ since, counted, supplied, by rw [settings, frame.settings], ?_,
      length, ?_⟩
    · rw [grown, times, List.append_assoc]
    · rw [frame.days]
      exact covers

theorem CallSound.frame {stage : HideStage} (frame : BudgetFrame tenantId brandId before after)
    (sound : CallSound tenantId brandId before stage) : CallSound tenantId brandId after stage where
  unloaded := sound.unloaded
  loaded := by
    intro call load pending rfl rfl
    exact (sound.loaded pending rfl rfl).frame frame

theorem BudgetSound.setCall (sound : BudgetSound tenantId brandId system) {stage : Option HideStage}
    (own : ∀ next, stage = some next → CallSound tenantId brandId system next) :
    BudgetSound tenantId brandId (system.setCall client stage) where
  limits := sound.limits
  past := sound.past
  rolledBack := sound.rolledBack
  calls := by
    have frame : BudgetFrame tenantId brandId system (system.setCall client stage) :=
      ⟨rfl, rfl, Int.le_refl _, [], rfl⟩
    intro other next running
    by_cases same : other = client
    · subst same
      simp only [HideSystem.setCall, Function.update_self] at running
      exact (own next running).frame frame
    · simp only [HideSystem.setCall, Function.update_of_ne same] at running
      exact (sound.calls running).frame frame

theorem BudgetSound.finish (sound : BudgetSound tenantId brandId system)
    (existing : List ExecutionRow) (now : Nat → Int) (outcome : HideOutcome) :
    BudgetSound tenantId brandId (system.finish client call existing now outcome) := by
  have closed : BudgetSound tenantId brandId (system.setCall client none) :=
    sound.setCall fun _ none => nomatch none
  have frame : BudgetFrame tenantId brandId (system.setCall client none)
      (system.finish client call existing now outcome) := ⟨rfl, rfl, Int.le_refl _, [], rfl⟩
  exact ⟨closed.limits, closed.past, closed.rolledBack, fun running =>
    (closed.calls running).frame frame⟩

theorem countP_hideTimes_le {executions : List ExecutionRow} {during : Int → Bool}
    (standing : ∀ row ∈ executions, isAutonomousHide tenantId brandId row = true →
      row.status = .rolledBack → ∀ time, row.executedAt = some time → during time = false) :
    (hideTimes executions tenantId brandId).countP during ≤
      (executions.filter (isCounted tenantId brandId during)).length := by
  rw [countP_hideTimes, ← List.countP_eq_length_filter]
  refine List.countP_mono_left fun row member counted => ?_
  rw [Bool.and_eq_true] at counted
  have hide := counted.1
  simp only [isAutonomousHide, Bool.and_eq_true, Bool.or_eq_true, beq_iff_eq] at hide
  obtain ⟨⟨⟨⟨tenant, brand⟩, trigger⟩, status⟩, _⟩ := hide
  rcases status with executed | rolledBack
  · simp [isCounted, tenant, brand, trigger, executed, counted.2]
  · obtain ⟨time, executedAt, inside⟩ := (Option.any_eq_true ..).mp counted.2
    rw [standing row member counted.1 rolledBack time executedAt] at inside
    cases inside

theorem BudgetSound.loadSound (sound : BudgetSound tenantId brandId system)
    (switches : SafetySwitches) (tenant : call.ctx.tenantId = tenantId)
    (brand : call.ctx.brandId = brandId) :
    LoadSound system (system.load call switches)
      ⟨system.clock, (hideTimes system.executions call.ctx.tenantId call.ctx.brandId).length⟩ := by
  subst tenant brand
  refine ⟨Int.le_refl _, _, [], _, rfl, rfl, rfl, rfl, sound.past, ?_, ?_⟩
  · refine Int.ofNat_le.mpr (countP_hideTimes_le fun row member hide rolledBack time executedAt => ?_)
    have old := (sound.rolledBack row member hide rolledBack time executedAt).1
    exact decide_eq_false (Int.not_le.mpr old)
  · refine Int.ofNat_le.mpr (countP_hideTimes_le fun row member hide rolledBack time executedAt => ?_)
    have old := (sound.rolledBack row member hide rolledBack time executedAt).2
    exact decide_eq_false (Int.not_le.mpr old)

theorem hideTimes_cons (row : ExecutionRow) (executions : List ExecutionRow)
    (tenantId brandId : String) :
    hideTimes (row :: executions) tenantId brandId =
      (if isAutonomousHide tenantId brandId row then row.executedAt.toList else []) ++
        hideTimes executions tenantId brandId := by
  unfold hideTimes
  rw [List.filter_cons]
  split
  · cases executedAt : row.executedAt <;> simp [executedAt]
  · rfl

structure InsertsRow (system : HideSystem) (call : HideCall) (row : ExecutionRow) : Prop where
  tenantId : row.tenantId = call.ctx.tenantId
  brandId : row.brandId = call.ctx.brandId
  trigger : row.trigger = call.ctx.trigger
  executedAt : row.executedAt = if row.status = .executed then some system.clock else none
  allowed : row.status = .executed → ∀ safety, call.options.safety = some safety →
    (evaluateProductionSafety call.ctx.trigger call.ctx.matchedCategory call.ctx.confidence
      call.ctx.riskLevel safety).outcome = .allow

variable {existing : List ExecutionRow} {actedAt : Int} {row : ExecutionRow}

theorem insertsRow_of_insertion
    (inserts : call.insertion existing (readings actedAt system.clock) = some row) :
    InsertsRow system call row := by
  obtain ⟨plan, follows⟩ := call.follows existing (readings actedAt system.clock)
  cases plan with
  | stop run result =>
    rw [follows.insertion_stop] at inserts
    cases inserts
  | insert run status reason provider =>
    rw [follows.insertion_insert] at inserts
    rw [← Option.some.inj inserts]
    obtain ⟨account, context⟩ := follows.context
    change run.ctx = _ at context
    refine ⟨?_, ?_, ?_, rfl, ?_⟩
    · simp only [executionRow, context]
    · simp only [executionRow, context]
    · simp only [executionRow, context]
    · intro executed
      exact follows.allowed (congrArg some executed)

theorem InsertsRow.times (inserts : InsertsRow system call row) :
    (hideTimes (row :: system.executions) tenantId brandId =
        system.clock :: hideTimes system.executions tenantId brandId ∧
      call.ctx.tenantId = tenantId ∧ call.ctx.brandId = brandId ∧
      call.ctx.trigger = .autonomous ∧ row.status = .executed) ∨
    hideTimes (row :: system.executions) tenantId brandId =
      hideTimes system.executions tenantId brandId := by
  rw [hideTimes_cons, inserts.executedAt]
  by_cases hide : isAutonomousHide tenantId brandId row = true
  · by_cases executed : row.status = .executed
    · left
      rw [if_pos hide, if_pos executed]
      simp only [isAutonomousHide, Bool.and_eq_true, beq_iff_eq] at hide
      obtain ⟨⟨⟨⟨tenant, brand⟩, trigger⟩, _⟩, _⟩ := hide
      exact ⟨rfl, inserts.tenantId.symm.trans tenant, inserts.brandId.symm.trans brand,
        inserts.trigger.symm.trans trigger, executed⟩
    · right
      rw [if_pos hide, if_neg executed]
      rfl
  · right
    rw [if_neg hide]
    rfl

theorem BudgetSound.limits_insert (sound : BudgetSound tenantId brandId system)
    {load : Option HideLoad}
    (running : system.calls client = some (.acted call load existing actedAt))
    (reserved : HideStage.KeepsRoom tenantId brandId system.executions
      (.acted call load existing actedAt)) (inserts : InsertsRow system call row)
    (tenant : call.ctx.tenantId = tenantId) (brand : call.ctx.brandId = brandId)
    (autonomous : call.ctx.trigger = .autonomous) (executed : row.status = .executed) :
    WithinLimits (system.settings brandId) system.days
      (system.clock :: hideTimes system.executions tenantId brandId) := by
  have own := sound.calls running
  cases load with
  | none =>
    have manual := own.unloaded rfl
    rw [autonomous] at manual
    cases manual
  | some load =>
    have loaded := own.loaded rfl tenant brand
    obtain ⟨safety, since, counted, supplied, settings, times, length, covers⟩ := loaded.safety
    have allowed := inserts.allowed executed safety supplied
    rw [autonomous] at allowed
    have room := reserved tenant brand safety supplied (hasRoom_of_allow allowed)
    subst tenant brand
    rw [times, List.length_append, length, Nat.add_sub_cancel, settings] at room
    have limits := sound.limits
    rw [times] at limits ⊢
    exact limits.cons loaded.loadedAt covers room

theorem BudgetSound.insert (sound : BudgetSound tenantId brandId system) {load : Option HideLoad}
    (running : system.calls client = some (.acted call load existing actedAt))
    (reserved : Reserved tenantId brandId system (.advance client))
    (inserts : InsertsRow system call row) (now : Nat → Int) (outcome : HideOutcome) :
    BudgetSound tenantId brandId { system.finish client call existing now outcome with
      executions := row :: system.executions } := by
  have finished : BudgetSound tenantId brandId (system.finish client call existing now outcome) :=
    sound.finish existing now outcome
  have grows : BudgetFrame tenantId brandId (system.finish client call existing now outcome)
      { system.finish client call existing now outcome with
        executions := row :: system.executions } := by
    refine ⟨rfl, rfl, Int.le_refl _, ?_⟩
    rcases inserts.times with ⟨more, _⟩ | same
    · exact ⟨[system.clock], more⟩
    · exact ⟨[], same⟩
  refine ⟨?_, ?_, ?_, fun running => (finished.calls running).frame grows⟩
  · rcases inserts.times with ⟨more, tenant, brand, autonomous, executed⟩ | same
    · rw [more]
      exact sound.limits_insert running (reserved _ running) inserts tenant brand autonomous executed
    · rw [same]
      exact sound.limits
  · rcases inserts.times with ⟨more, _⟩ | same
    · rw [more]
      intro time member
      rcases List.mem_cons.mp member with rfl | old
      · exact Int.le_refl _
      · exact sound.past time old
    · rw [same]
      exact sound.past
  · intro other member hide rolledBack time executedAt
    rcases List.mem_cons.mp member with rfl | old
    · rw [inserts.executedAt, rolledBack, if_neg (by decide)] at executedAt
      cases executedAt
    · exact sound.rolledBack other old hide rolledBack time executedAt

theorem BudgetSound.advance (sound : BudgetSound tenantId brandId system) {stage : HideStage}
    (running : system.calls client = some stage)
    (reserved : Reserved tenantId brandId system (.advance client)) :
    BudgetSound tenantId brandId (system.advance client stage) := by
  have own := sound.calls running
  cases stage with
  | ingesting call switches =>
    refine sound.setCall fun next same => ?_
    rw [← Option.some.inj same]
    constructor
    · intro call pending
      cases pending
    · intro call load pending tenant brand
      cases pending
      exact sound.loadSound switches tenant brand
  | called call load =>
    refine sound.setCall fun next same => ?_
    rw [← Option.some.inj same]
    exact ⟨own.unloaded, own.loaded⟩
  | acted call load existing actedAt =>
    simp only [HideSystem.advance]
    split
    · exact sound.finish ..
    · rename_i row inserted
      split
      · refine sound.setCall fun next same => ?_
        rw [← Option.some.inj same]
        exact ⟨nofun, nofun⟩
      · exact sound.insert running reserved (insertsRow_of_insertion inserted) ..
  | refused call existing now => exact sound.finish ..

theorem BudgetSound.tick (sound : BudgetSound tenantId brandId system) (ms : Nat) :
    BudgetSound tenantId brandId { system with clock := system.clock + ms } := by
  have later : system.clock ≤ system.clock + ms := by omega
  have frame : BudgetFrame tenantId brandId system { system with clock := system.clock + ms } :=
    ⟨rfl, rfl, later, [], rfl⟩
  refine ⟨sound.limits, fun time member => Int.le_trans (sound.past time member) later, ?_,
    fun running => (sound.calls running).frame frame⟩
  intro row member hide rolledBack time executedAt
  obtain ⟨hour, day⟩ := sound.rolledBack row member hide rolledBack time executedAt
  have sameDay := system.days.dayStart_mono later
  dsimp only
  omega

variable (input : RollbackInput) (unhide : String → Option HideTransportResult)

def RollbackInput.restores (input : RollbackInput) (row : ExecutionRow) : ExecutionRow :=
  if input.finds row then { row with status := .rolledBack } else row

theorem rollbackHide_cases (executions : List ExecutionRow) :
    (rollbackHide input unhide executions).1 = executions ∨
      (rollbackHide input unhide executions).1 = executions.map input.restores := by
  unfold rollbackHide
  split
  · exact .inl rfl
  · split_ifs
    · exact .inl rfl
    · exact .inl rfl
    · split
      · exact .inl rfl
      · split_ifs
        · exact .inr rfl
        · exact .inl rfl

theorem RollbackInput.executedAt_restores (row : ExecutionRow) :
    (input.restores row).executedAt = row.executedAt := by
  unfold RollbackInput.restores
  split <;> rfl

theorem RollbackInput.isAutonomousHide_restores (row : ExecutionRow) :
    isAutonomousHide tenantId brandId (input.restores row) =
      isAutonomousHide tenantId brandId row := by
  unfold RollbackInput.restores
  by_cases found : input.finds row = true
  · have executed : row.status = .executed := by
      simp only [RollbackInput.finds, Bool.and_eq_true, beq_iff_eq] at found
      exact found.2
    rw [if_pos found]
    simp [isAutonomousHide, executed]
  · rw [if_neg found]

theorem hideTimes_restores (executions : List ExecutionRow) :
    hideTimes (executions.map input.restores) tenantId brandId =
      hideTimes executions tenantId brandId := by
  induction executions with
  | nil => rfl
  | cons row rest ih =>
    rw [List.map_cons, hideTimes_cons, hideTimes_cons, ih, input.isAutonomousHide_restores,
      input.executedAt_restores]

variable {input unhide}

theorem BudgetSound.rollback (sound : BudgetSound tenantId brandId system)
    (reserved : Reserved tenantId brandId system (.rollback input unhide)) :
    BudgetSound tenantId brandId { system with
      executions := (rollbackHide input unhide system.executions).1 } := by
  rcases rollbackHide_cases input unhide system.executions with same | restored
  · rw [same]
    exact sound
  · rw [restored]
    have times : hideTimes (system.executions.map input.restores) tenantId brandId =
        hideTimes system.executions tenantId brandId := hideTimes_restores input system.executions
    have frame : BudgetFrame tenantId brandId system
        { system with executions := system.executions.map input.restores } :=
      ⟨rfl, rfl, Int.le_refl _, [], times⟩
    refine ⟨?_, ?_, ?_, fun running => (sound.calls running).frame frame⟩
    · dsimp only
      rw [times]
      exact sound.limits
    · dsimp only
      rw [times]
      exact sound.past
    · intro row member hide rolledBack time executedAt
      obtain ⟨earlier, present, rfl⟩ := List.mem_map.mp member
      rw [input.isAutonomousHide_restores] at hide
      rw [input.executedAt_restores] at executedAt
      by_cases found : input.finds earlier = true
      · exact reserved earlier present found hide time executedAt
      · rw [RollbackInput.restores, if_neg found] at rolledBack
        exact sound.rolledBack earlier present hide rolledBack time executedAt

theorem BudgetSound.brandStep (sound : BudgetSound tenantId brandId system) {action : BrandStep}
    (reserved : Reserved tenantId brandId system action) :
    BudgetSound tenantId brandId (system.brandStep action) := by
  cases action with
  | ingest client call switches =>
    simp only [HideSystem.brandStep, HideSystem.step]
    split
    · exact sound
    · refine sound.setCall fun next same => ?_
      rw [← Option.some.inj same]
      exact ⟨nofun, nofun⟩
  | approve client call =>
    simp only [HideSystem.brandStep, HideSystem.step]
    split
    · exact sound
    · refine sound.setCall fun next same => ?_
      rw [← Option.some.inj same]
      constructor
      · intro approved pending
        cases pending
        rfl
      · intro approved load pending
        cases pending
  | advance client =>
    simp only [HideSystem.brandStep, HideSystem.step]
    split
    · exact sound
    · rename_i stage running
      exact sound.advance running reserved
  | tick ms => exact sound.tick ms
  | rollback input unhide => exact sound.rollback reserved

theorem HideSystem.settings_brandStep (system : HideSystem) (action : BrandStep) :
    (system.brandStep action).settings = system.settings ∧
      (system.brandStep action).days = system.days := by
  cases action with
  | ingest client call switches =>
    simp only [HideSystem.brandStep, HideSystem.step]
    split <;> exact ⟨rfl, rfl⟩
  | approve client call =>
    simp only [HideSystem.brandStep, HideSystem.step]
    split <;> exact ⟨rfl, rfl⟩
  | advance client =>
    simp only [HideSystem.brandStep, HideSystem.step]
    split
    · exact ⟨rfl, rfl⟩
    · rename_i stage running
      cases stage with
      | ingesting call switches => exact ⟨rfl, rfl⟩
      | called call load => exact ⟨rfl, rfl⟩
      | acted call load existing actedAt =>
        simp only [HideSystem.advance]
        split
        · exact ⟨rfl, rfl⟩
        · split <;> exact ⟨rfl, rfl⟩
      | refused call existing now => exact ⟨rfl, rfl⟩
  | tick ms => exact ⟨rfl, rfl⟩
  | rollback input unhide => exact ⟨rfl, rfl⟩

/-- For every interleaving of ingests, approvals and rollbacks of which every step is
reserved, the autonomous hides of the brand stay within both limits. -/
theorem withinLimits_of_reserved {executions : List ExecutionRow}
    {settings : String → BrandSafetySettings} {days : LocalDays} {clock : Int}
    (limits : WithinLimits (settings brandId) days (hideTimes executions tenantId brandId))
    (past : ∀ time ∈ hideTimes executions tenantId brandId, time ≤ clock)
    (rolledBack : ∀ row ∈ executions, isAutonomousHide tenantId brandId row = true →
      row.status = .rolledBack → ∀ time, row.executedAt = some time →
        time < clock - hourMs ∧ time < days.dayStart clock)
    (steps : List BrandStep)
    (reserved : Runs.Meets HideSystem.brandStep (Reserved tenantId brandId)
      (.opened executions settings days clock) steps) :
    ∀ reached ∈ Runs.states HideSystem.brandStep (.opened executions settings days clock) steps,
      WithinLimits (settings brandId) days (hideTimes reached.executions tenantId brandId) := by
  have start : BudgetSound tenantId brandId (.opened executions settings days clock) :=
    ⟨limits, past, rolledBack, fun none => nomatch none⟩
  have kept : ∀ {system : HideSystem} {action : BrandStep},
      BudgetSound tenantId brandId system ∧ system.settings = settings ∧ system.days = days →
      Reserved tenantId brandId system action →
      BudgetSound tenantId brandId (system.brandStep action) ∧
        (system.brandStep action).settings = settings ∧ (system.brandStep action).days = days := by
    rintro system action ⟨sound, rfl, rfl⟩ reserved
    exact ⟨sound.brandStep reserved, system.settings_brandStep action⟩
  intro reached member
  obtain ⟨sound, rfl, rfl⟩ := Runs.invariant_states kept ⟨start, rfl, rfl⟩ reserved reached member
  exact sound.limits

def accountCall (name : String) : HideCall where
  cfg := liveConfig
  options := { retry := false, liveAttempt := false, safety := none }
  ctx :=
    { spamContext with
      itemId := name
      queueItemId := some name
      connectedAccountId := name
      externalCommentId := some name }
  transport := acceptingEnvironment.transport
  executionId := name

def openSwitches : SafetySwitches where
  flags := openSafety.flags
  brandKillSwitch := false
  accountKillSwitch := false
  lastReview := none

def ingestsAtOnce : List BrandStep :=
  [.ingest 0 (accountCall "first") openSwitches, .ingest 1 (accountCall "second") openSwitches,
    .advance 0, .advance 1, .advance 0, .advance 1, .advance 0, .advance 1]

def hourlyLimit (limit : Int) (_ : String) : BrandSafetySettings :=
  { openSafety.settings with
    hourlyAutoHideLimit := limit
    approvedAutoHideCategories := ["spam"] }

theorem withinLimits_of_reserved_two :
    (hideTimes (Runs.run HideSystem.brandStep (.opened [] (hourlyLimit 2) utcDays 0)
        ingestsAtOnce).executions "tenant" "brand").length = 2 ∧
      ∀ reached ∈ Runs.states HideSystem.brandStep (.opened [] (hourlyLimit 2) utcDays 0)
        ingestsAtOnce,
        WithinLimits (hourlyLimit 2 "brand") utcDays
          (hideTimes reached.executions "tenant" "brand") := by
  refine ⟨by decide +kernel, withinLimits_of_reserved ⟨?_, ?_⟩ ?_ ?_ _ ?_⟩
  · exact fun _ => Nat.zero_le _
  · exact fun _ => Nat.zero_le _
  · exact fun _ absent => absurd absent List.not_mem_nil
  · exact fun _ absent => absurd absent List.not_mem_nil
  · decide +kernel

/-- With a limit of one hide an hour, both are performed. -/
theorem not_withinLimits :
    ¬ ∀ reached ∈ Runs.states HideSystem.brandStep (.opened [] (hourlyLimit 1) utcDays 0)
        ingestsAtOnce,
        WithinLimits (hourlyLimit 1 "brand") utcDays
          (hideTimes reached.executions "tenant" "brand") := by
  intro within
  have exceeded := (within _ (Runs.run_mem_states _)).hourly 0
  revert exceeded
  decide +kernel

end Tamanor.Sync
