import Tamanor.Db.CyberbullyingRedaction
import Tamanor.Library.CheckedCalls

/-! The four eyes of a redaction and the dual control of an export, over any interleaving whose
writes find what their calls have read and whose approvers have not touched the rules. -/

set_option autoImplicit false

namespace Tamanor.Db

open Tamanor.Core Library Library.Interleaving

abbrev ComplianceAction := Action ComplianceRequest ComplianceChoice ComplianceEvent

section

variable {digest : Text → String} {state after : ComplianceDatabase} {draftId id : String}

/-- A report that has been released from a draft, by an approver who neither created nor submitted
it nor touched its rules, with the rules that the draft had when it was submitted. -/
structure ReleasedBy (state : ComplianceDatabase) (id : String) (snapshot : ComplianceSnapshot)
    (draftId : String) (draft : RedactionDraft) (approver submitter : String)
    (rules : List RedactionRuleSpec) : Prop where
  approved : draft.status = .approved
  produced : draft.producedReportId = some id
  approvedBy : snapshot.approvedByUserId = some approver
  notCreator : draft.createdByUserId ≠ approver
  submittedBy : draft.submittedByUserId = some submitter
  notSubmitter : submitter ≠ approver
  addedNone : .ruleAdded draftId approver ∉ state.history
  removedNone : .ruleRemoved draftId approver ∉ state.history
  submitted : .submitted draftId submitter rules ∈ state.history
  fromRules : ∃ report payload, state.snapshots.find? draft.sourceReportId = some report ∧
    redactedPayload report.snapshotPayload rules snapshot.version snapshot.previousSnapshotHash =
      some payload ∧ snapshot.snapshotPayload = payload.column

def Released (state : ComplianceDatabase) (id : String) (snapshot : ComplianceSnapshot)
    (draftId : String) : Prop :=
  ∃ draft approver submitter rules, state.drafts.find? draftId = some draft ∧
    ReleasedBy state id snapshot draftId draft approver submitter rules

/-- Every redacted report has been released from its draft, which has been submitted once and has
released one report, and an approved authorization has been approved by another user than the one
who asked for it. -/
structure FourEyes (state : ComplianceDatabase) : Prop where
  released : ∀ id snapshot, state.snapshots.find? id = some snapshot →
    snapshot.redactionState = .redacted →
    ∃ draftId, snapshot.redactionDraftId = some draftId ∧ Released state id snapshot draftId
  submittedOnce : ∀ draftId submitter rules other otherRules,
    .submitted draftId submitter rules ∈ state.history →
    .submitted draftId other otherRules ∈ state.history → submitter = other ∧ rules = otherRules
  releasedOnce : ∀ id other snapshot otherSnapshot draftId,
    state.snapshots.find? id = some snapshot → state.snapshots.find? other = some otherSnapshot →
    snapshot.redactionDraftId = some draftId → otherSnapshot.redactionDraftId = some draftId →
    id = other
  authorized : ∀ id row, state.authorizations.find? id = some row → row.status = .approved →
    ∃ approver, row.approvedByUserId = some approver ∧ approver ≠ row.requestedByUserId

def draftIsFinal : RedactionDraftStatus → Bool
  | .approved | .rejected | .cancelled => true
  | _ => false

def authorizationAdmits (status target : ExportAuthorizationStatus) : Bool :=
  match status with
  | .rejected | .cancelled => target == status
  | .approved => target == .approved || target == .cancelled
  | _ => true

/-- What is promised of a statement: final statuses are kept, and a manifest is prepared while its
authorization is approved, by another user than the one who asked for it, and not expired. -/
structure ControlPromise (before after : ComplianceDatabase) (_ _ : ComplianceStage) : Prop where
  drafts : ∀ id draft, before.drafts.find? id = some draft →
    draftIsFinal draft.status = true →
    ∃ later, after.drafts.find? id = some later ∧ later.status = draft.status
  authorizations : ∀ id row, before.authorizations.find? id = some row →
    ∃ later, after.authorizations.find? id = some later ∧ authorizationAdmits row.status later.status = true
  manifests : ∀ id manifest, after.manifests.find? id = some manifest →
    before.manifests.find? id = none →
    ∃ row approver, before.authorizations.find? manifest.authorizationId = some row ∧
      row.status = .approved ∧ row.approvedByUserId = some approver ∧
      approver ≠ row.requestedByUserId ∧ manifest.preparedAt < row.expiresAt

def ComplianceDatabase.untouchedBy (state : ComplianceDatabase) (draftId userId : String) : Bool :=
  !state.history.contains (.ruleAdded draftId userId) &&
    !state.history.contains (.ruleRemoved draftId userId)

/-- Rules change, and a draft is submitted, while it is one; a cancellation and a rejection find no
other final status; an approval finds the draft and the rules that its call has read, and its user
has not touched them; an authorization is not given a status that it may not have; and it is
approved and has not expired when its manifest is stored. -/
def ComplianceStage.undisputed (state : ComplianceDatabase) (stage : ComplianceStage) :
    ComplianceChoice → Bool
  | .runs draw =>
    match stage with
    | .insertingRule _ draftId _ | .submitting _ draftId =>
      (state.drafts.find? draftId).any fun draft => draft.status == .draft
    | .deletingRule _ draftId ruleId =>
      ((state.drafts.find? draftId).any fun draft => draft.status == .draft) &&
        (state.rules.find? ruleId).all fun rule => rule.draftId == draftId
    | .cancelling draftId =>
      (state.drafts.find? draftId).all fun draft =>
        !draftIsFinal draft.status || draft.status == .cancelled
    | .rejecting draftId =>
      (state.drafts.find? draftId).all fun draft =>
        !draftIsFinal draft.status || draft.status == .rejected
    | .insertingRedacted actor draftId draft rules _ _ =>
      state.drafts.find? draftId == some draft && state.ruleSpecs draftId == rules &&
        state.untouchedBy draftId actor.userId
    | .updatingAuthorization _ authorizationId authorization target =>
      (state.authorizations.find? authorizationId).all fun row =>
        authorizationAdmits row.status target && row.requestedByUserId == authorization.requestedByUserId
    | .insertingManifest _ authorizationId _ _ _ _ =>
      (state.authorizations.find? authorizationId).any fun row =>
        row.status == .approved && decide (draw.now < row.expiresAt)
    | _ => true
  | _ => true

/-- What the check of a call has seen of the row that it has read. -/
def ComplianceStage.Checked : ComplianceStage → Prop
  | .readingDraft actor _ draft operation =>
    ComplianceDatabase.draftFailure actor draft operation = none
  | .allocatingRedacted actor _ draft _ | .insertingRedacted actor _ draft _ _ _ =>
    draft.status = .submitted ∧ draft.createdByUserId ≠ actor.userId ∧
      draft.submittedByUserId ≠ some actor.userId
  | .verifyingAuthorization actor _ authorization => authorization.requestedByUserId ≠ actor.userId
  | .updatingAuthorization actor _ authorization target =>
    target = .approved → authorization.requestedByUserId ≠ actor.userId
  | _ => True

variable {draw : ComplianceDraw} {actor : IncidentActorContext} {incidentId : String}
  {key previousHash : Option String} {version : Nat} {stage next : ComplianceStage}

theorem ComplianceStage.Checked.of_follows (checked : stage.Checked) (follows : stage.Follows next) :
    next.Checked := by
  cases next with
  | readingDraft actor draftId draft operation => exact follows.2
  | allocatingRedacted actor draftId draft rules =>
    rw [show stage = _ from follows] at checked
    have passes : ComplianceDatabase.draftFailure actor draft .approve = none := checked
    unfold ComplianceDatabase.draftFailure at passes
    dsimp only at passes
    split at passes
    · cases passes
    next submitted =>
      split at passes
      · cases passes
      next another =>
        obtain ⟨notCreator, notSubmitter⟩ := not_or.mp another
        exact ⟨not_not.mp submitted, notCreator, notSubmitter⟩
  | insertingRedacted actor draftId draft rules version previousHash =>
    rw [show stage = _ from follows] at checked
    exact checked
  | verifyingAuthorization actor authorizationId authorization => exact follows
  | updatingAuthorization actor authorizationId authorization target =>
    intro approves
    rw [follows approves] at checked
    exact checked
  | _ => trivial

structure ControlSound (state : ComplianceDatabase) : Prop where
  released : ∀ id snapshot draftId, state.snapshots.find? id = some snapshot →
    snapshot.redactionDraftId = some draftId → Released state id snapshot draftId
  submittedRules : ∀ draftId draft, state.drafts.find? draftId = some draft →
    draft.status = .submitted → ∃ submitter, draft.submittedByUserId = some submitter ∧
      .submitted draftId submitter (state.ruleSpecs draftId) ∈ state.history
  submittedDrafts : ∀ draftId submitter rules, .submitted draftId submitter rules ∈ state.history →
    ∃ draft, state.drafts.find? draftId = some draft ∧ draft.status ≠ .draft
  submittedOnce : ∀ draftId submitter rules other otherRules,
    .submitted draftId submitter rules ∈ state.history →
    .submitted draftId other otherRules ∈ state.history → submitter = other ∧ rules = otherRules
  authorized : ∀ id row, state.authorizations.find? id = some row → row.status = .approved →
    ∃ approver, row.approvedByUserId = some approver ∧ approver ≠ row.requestedByUserId
  fromDraft : ∀ id snapshot, state.snapshots.find? id = some snapshot →
    snapshot.redactionState = .redacted → ∃ draftId, snapshot.redactionDraftId = some draftId

theorem ControlSound.fourEyes (sound : ControlSound state) : FourEyes state := by
  constructor
  case released =>
    intro id snapshot found redacted
    obtain ⟨draftId, isDraft⟩ := sound.fromDraft id snapshot found redacted
    exact ⟨draftId, isDraft, sound.released id snapshot draftId found isDraft⟩
  case submittedOnce => exact sound.submittedOnce
  case releasedOnce =>
    intro id other snapshot otherSnapshot draftId found otherFound isDraft otherIsDraft
    obtain ⟨draft, _, _, _, isRow, by_⟩ := sound.released id snapshot draftId found isDraft
    obtain ⟨otherDraft, _, _, _, otherRow, otherBy⟩ :=
      sound.released other otherSnapshot draftId otherFound otherIsDraft
    obtain rfl := Option.some.inj (isRow.symm.trans otherRow)
    exact Option.some.inj (by_.produced.symm.trans otherBy.produced)
  case authorized => exact sound.authorized

structure Leaves (state after : ComplianceDatabase) (draftId : String) : Prop where
  draft : ∀ draft, state.drafts.find? draftId = some draft → draft.status = .approved →
    after.drafts.find? draftId = some draft
  snapshots : ∀ id snapshot, state.snapshots.find? id = some snapshot →
    after.snapshots.find? id = some snapshot
  history : ∀ event ∈ state.history, event ∈ after.history
  touched : ∀ user, ∀ draft, state.drafts.find? draftId = some draft → draft.status = .approved →
    (.ruleAdded draftId user ∈ after.history → .ruleAdded draftId user ∈ state.history) ∧
      (.ruleRemoved draftId user ∈ after.history → .ruleRemoved draftId user ∈ state.history)

theorem Released.leaves {snapshot : ComplianceSnapshot}
    (released : Released state id snapshot draftId) (leaves : Leaves state after draftId) :
    Released after id snapshot draftId := by
  obtain ⟨draft, approver, submitter, rules, isRow, by_⟩ := released
  obtain ⟨added, removed⟩ := leaves.touched approver draft isRow by_.approved
  obtain ⟨report, payload, isReport, redacts, stored⟩ := by_.fromRules
  refine ⟨draft, approver, submitter, rules, leaves.draft draft isRow by_.approved, ?_⟩
  exact
    { by_ with
      addedNone := fun member => by_.addedNone (added member)
      removedNone := fun member => by_.removedNone (removed member)
      submitted := leaves.history _ by_.submitted
      fromRules := ⟨report, payload, leaves.snapshots _ report isReport, redacts, stored⟩ }

theorem Leaves.of_same (drafts : after.drafts = state.drafts)
    (snapshots : after.snapshots = state.snapshots) (history : after.history = state.history)
    (draftId : String) : Leaves state after draftId := by
  constructor
  case draft =>
    intro draft found _
    rw [drafts]
    exact found
  case snapshots =>
    intro id snapshot found
    rw [snapshots]
    exact found
  case history =>
    intro event member
    rw [history]
    exact member
  case touched =>
    intro user draft _ _
    rw [history]
    exact ⟨fun member => member, fun member => member⟩

/-- A statement keeps the invariant and its promise. -/
structure ControlKept (state after : ComplianceDatabase) (stage next : ComplianceStage) : Prop
    extends ControlPromise state after stage next where
  sound : ControlSound after

theorem admits_self (status : ExportAuthorizationStatus) : authorizationAdmits status status = true := by
  cases status <;> rfl

theorem ControlPromise.refl (state : ComplianceDatabase) (stage next : ComplianceStage) :
    ControlPromise state state stage next where
  drafts := fun _ draft found _ => ⟨draft, found, rfl⟩
  authorizations := fun _ row found => ⟨row, found, admits_self row.status⟩
  manifests := by
    intro id manifest found absent
    rw [absent] at found
    cases found

theorem ruleSpecs_congr (same : after.rules = state.rules) (draftId : String) :
    after.ruleSpecs draftId = state.ruleSpecs draftId := by
  unfold ComplianceDatabase.ruleSpecs
  rw [same]

theorem ControlKept.refl (sound : ControlSound state) : ControlKept state state stage next :=
  ⟨.refl state stage next, sound⟩

theorem mem_history_of_ne {history : List DraftEvent} {event added : DraftEvent}
    (member : event ∈ history ++ [added]) (different : event ≠ added) : event ∈ history := by
  rcases List.mem_append.mp member with old | new
  · exact old
  · exact absurd (List.mem_singleton.mp new) different

theorem find?_modify_of_status {change : RedactionDraft → RedactionDraft}
    {draft row : RedactionDraft} (isRow : state.drafts.find? draftId = some draft)
    (found : state.drafts.find? id = some row) (different : row.status ≠ draft.status) :
    (state.drafts.modify draftId change).find? id = some row := by
  rw [Table.find?_modify, if_neg]
  · exact found
  · rintro rfl
    rw [isRow] at found
    cases found
    exact different rfl

section

variable (sound : ControlSound state)
include sound

theorem kept_insertReport {reportType : ComplianceReportType} :
    ControlKept state (state.insertReport digest actor incidentId reportType key version
      previousHash draw).1 stage next := by
  unfold ComplianceDatabase.insertReport
  dsimp only
  split
  · exact .refl sound
  split
  · exact .refl sound
  split
  · exact .refl sound
  next fresh =>
    have absent := Option.not_isSome_iff_eq_none.mp fresh
    refine { ControlPromise.refl state stage next with
      sound := ⟨?_, sound.submittedRules, sound.submittedDrafts, sound.submittedOnce,
        sound.authorized, ?_⟩ }
    · intro id snapshot draftId found isDraft
      rcases Table.of_find?_insert absent found with ⟨_, rfl⟩ | ⟨_, stored⟩
      · cases isDraft
      · refine (sound.released id snapshot draftId stored isDraft).leaves ⟨fun _ found _ => found,
          fun other row isRow => Table.find?_insert_of_found absent isRow, fun _ member => member,
          fun _ _ _ _ => ⟨fun member => member, fun member => member⟩⟩
    · intro id snapshot found redacted
      rcases Table.of_find?_insert absent found with ⟨_, rfl⟩ | ⟨_, stored⟩
      · cases redacted
      · exact sound.fromDraft id snapshot stored redacted

theorem kept_insertDraft {sourceReportId : String} {draftId : String} :
    ControlKept state (state.insertDraft actor incidentId sourceReportId key draftId).1 stage
      next := by
  unfold ComplianceDatabase.insertDraft
  split
  · exact .refl sound
  split
  · exact .refl sound
  next fresh =>
    have absent := Option.not_isSome_iff_eq_none.mp fresh
    refine { ControlPromise.refl state stage next with
      drafts := ?_
      sound := ⟨?_, ?_, ?_, sound.submittedOnce, sound.authorized, sound.fromDraft⟩ }
    · intro other draft found _
      exact ⟨draft, Table.find?_insert_of_found absent found, rfl⟩
    · intro id snapshot other found isDraft
      exact (sound.released id snapshot other found isDraft).leaves
        ⟨fun _ found _ => Table.find?_insert_of_found absent found, fun _ _ found => found,
          fun _ member => member, fun _ _ _ _ => ⟨fun member => member, fun member => member⟩⟩
    · intro other draft found submitted
      rcases Table.of_find?_insert absent found with ⟨_, rfl⟩ | ⟨_, stored⟩
      · cases submitted
      · exact sound.submittedRules other draft stored submitted
    · intro other submitter rules member
      obtain ⟨draft, found, further⟩ := sound.submittedDrafts other submitter rules member
      exact ⟨draft, Table.find?_insert_of_found absent found, further⟩

theorem kept_rules {rules : Table String RedactionRule} {event : DraftEvent} {draftId user : String}
    (isDraft : (state.drafts.find? draftId).any (fun draft => draft.status == .draft) = true)
    (isEvent : event = .ruleAdded draftId user ∨ event = .ruleRemoved draftId user)
    (others : ∀ other, other ≠ draftId →
      { state with rules := rules, history := state.history ++ [event] }.ruleSpecs other =
        state.ruleSpecs other) :
    ControlKept state { state with rules := rules, history := state.history ++ [event] } stage
      next := by
  obtain ⟨draft, isRow, status⟩ := (Option.any_eq_true _ _).mp isDraft
  have status := beq_iff_eq.mp status
  have submissions : ∀ other submitter specs,
      .submitted other submitter specs ∈ state.history ++ [event] →
        .submitted other submitter specs ∈ state.history := by
    intro other submitter specs member
    refine mem_history_of_ne member ?_
    rcases isEvent with rfl | rfl <;> intro same <;> cases same
  refine { ControlPromise.refl state stage next with
    sound := ⟨?_, ?_, ?_, ?_, sound.authorized, sound.fromDraft⟩ }
  · intro id snapshot other found isReleased
    refine (sound.released id snapshot other found isReleased).leaves
      ⟨fun _ found _ => found, fun _ _ found => found,
        fun _ member => List.mem_append_left _ member, ?_⟩
    intro toucher approvedDraft isApproved approved
    have different : other ≠ draftId := by
      rintro rfl
      rw [isRow] at isApproved
      cases isApproved
      rw [status] at approved
      cases approved
    constructor <;> intro member <;> rcases List.mem_append.mp member with old | new
    · exact old
    · rw [List.mem_singleton] at new
      rcases isEvent with rfl | rfl <;> cases new
      exact absurd rfl different
    · exact old
    · rw [List.mem_singleton] at new
      rcases isEvent with rfl | rfl <;> cases new
      exact absurd rfl different
  · intro other row found submitted
    have different : other ≠ draftId := by
      rintro rfl
      rw [isRow] at found
      cases found
      rw [status] at submitted
      cases submitted
    obtain ⟨submitter, isSubmitter, member⟩ := sound.submittedRules other row found submitted
    refine ⟨submitter, isSubmitter, ?_⟩
    rw [others other different]
    exact List.mem_append_left _ member
  · intro other submitter specs member
    exact sound.submittedDrafts other submitter specs (submissions _ _ _ member)
  · intro other submitter specs second secondSpecs first again
    exact sound.submittedOnce other submitter specs second secondSpecs (submissions _ _ _ first)
      (submissions _ _ _ again)

theorem kept_insertRule {spec : RedactionRuleSpec} {ruleId : String}
    (isDraft : (state.drafts.find? draftId).any (fun draft => draft.status == .draft) = true) :
    ControlKept state (state.insertRule actor draftId spec ruleId).1 stage next := by
  unfold ComplianceDatabase.insertRule
  split
  · exact .refl sound
  next fresh =>
    refine kept_rules sound isDraft (.inl rfl) ?_
    intro other different
    unfold ComplianceDatabase.ruleSpecs
    dsimp only
    rw [Table.rows_insert ruleId (Option.not_isSome_iff_eq_none.mp fresh), List.map_append,
      List.filter_append]
    have notOwn : (draftId == other) = false := beq_false_of_ne different.symm
    simp [notOwn]

theorem kept_deleteRule {ruleId : String}
    (isDraft : (state.drafts.find? draftId).any (fun draft => draft.status == .draft) = true)
    (own : (state.rules.find? ruleId).all (fun rule => rule.draftId == draftId) = true) :
    ControlKept state (state.deleteRule actor draftId ruleId).1 stage next := by
  unfold ComplianceDatabase.deleteRule
  split
  · exact .refl sound
  · refine kept_rules sound isDraft (.inr rfl) ?_
    intro other different
    unfold ComplianceDatabase.ruleSpecs Table.deleteWhere
    dsimp only
    have same : ((state.rules.rows.filter fun row => !(row.1 == ruleId)).map Prod.snd).filter
        (fun rule => rule.draftId == other) =
        (state.rules.rows.map Prod.snd).filter fun rule => rule.draftId == other := by
      rw [List.filter_map, List.filter_map, List.filter_filter]
      refine congrArg _ (List.filter_congr ?_)
      intro row member
      by_cases isRule : row.1 = ruleId
      · have found := Table.find?_eq_some_iff.mpr member
        rw [isRule] at found
        rw [found] at own
        have draftOf : row.2.draftId = draftId := by simpa using own
        have notOther : (draftId == other) = false := beq_false_of_ne different.symm
        simp [draftOf, notOther]
      · simp [isRule]
    rw [same]

theorem kept_status {status : RedactionDraftStatus}
    (allowed : (state.drafts.find? draftId).all
      (fun draft => !draftIsFinal draft.status || draft.status == status) = true)
    (notDraft : status ≠ .draft) (notSubmitted : status ≠ .submitted)
    (notApproved : status ≠ .approved) :
    ControlKept state (state.updateDraft draftId (fun draft => { draft with status := status })
      []).1 stage next := by
  have cases_ : ∀ draft, state.drafts.find? draftId = some draft →
      draftIsFinal draft.status = true → draft.status = status := by
    intro draft found final
    rw [found] at allowed
    simpa [final] using allowed
  have approvedElsewhere : ∀ other draft, state.drafts.find? other = some draft →
      draft.status = .approved → other ≠ draftId := by
    rintro other draft found approved rfl
    have same := cases_ draft found (by rw [approved]; rfl)
    exact notApproved (same.symm.trans approved)
  unfold ComplianceDatabase.updateDraft
  refine { ControlPromise.refl state stage next with
    drafts := ?_
    sound := ⟨?_, ?_, ?_, ?_, sound.authorized, sound.fromDraft⟩ }
  · intro other draft found final
    dsimp only
    rw [Table.find?_modify]
    split
    next same =>
      rw [same] at found
      refine ⟨_, congrArg (Option.map _) (same ▸ found), (cases_ draft found final).symm⟩
    · exact ⟨draft, found, rfl⟩
  · intro id snapshot other found isReleased
    refine (sound.released id snapshot other found isReleased).leaves
      ⟨?_, fun _ _ found => found, fun _ member => List.mem_append_left _ member, ?_⟩
    · intro draft found approved
      dsimp only
      rw [Table.find?_modify, if_neg (approvedElsewhere other draft found approved)]
      exact found
    · intro user draft _ _
      simp
  · intro other draft found submitted
    obtain ⟨earlier, stored, same⟩ := Table.of_find?_modify found
    split at same
    · rw [same] at submitted
      exact absurd submitted notSubmitted
    · rw [same] at submitted ⊢
      obtain ⟨submitter, isSubmitter, member⟩ := sound.submittedRules other earlier stored submitted
      exact ⟨submitter, isSubmitter, List.mem_append_left _ member⟩
  · intro other submitter rules member
    rw [List.append_nil] at member
    obtain ⟨draft, found, further⟩ := sound.submittedDrafts other submitter rules member
    dsimp only
    rw [Table.find?_modify]
    split
    · exact ⟨_, congrArg (Option.map _) found, notDraft⟩
    · exact ⟨draft, found, further⟩
  · intro other submitter rules second secondRules first again
    rw [List.append_nil] at first again
    exact sound.submittedOnce other submitter rules second secondRules first again

theorem kept_submitDraft
    (isDraft : (state.drafts.find? draftId).any (fun draft => draft.status == .draft) = true) :
    ControlKept state (state.submitDraft actor draftId).1 stage next := by
  obtain ⟨draft, isRow, status⟩ := (Option.any_eq_true _ _).mp isDraft
  have status := beq_iff_eq.mp status
  have unsubmitted : ∀ submitter rules, .submitted draftId submitter rules ∉ state.history := by
    intro submitter rules member
    obtain ⟨row, found, further⟩ := sound.submittedDrafts draftId submitter rules member
    rw [isRow] at found
    cases found
    exact further status
  unfold ComplianceDatabase.submitDraft ComplianceDatabase.updateDraft
  refine { ControlPromise.refl state stage next with
    drafts := ?_
    sound := ⟨?_, ?_, ?_, ?_, sound.authorized, sound.fromDraft⟩ }
  · intro other row found final
    refine ⟨row, find?_modify_of_status isRow found ?_, rfl⟩
    intro same
    rw [same, status] at final
    cases final
  · intro id snapshot other found isReleased
    refine (sound.released id snapshot other found isReleased).leaves
      ⟨?_, fun _ _ found => found, fun _ member => List.mem_append_left _ member, ?_⟩
    · intro row foundRow approved
      refine find?_modify_of_status isRow foundRow ?_
      rw [approved, status]
      decide
    · intro user row _ _
      simp
  · intro other row found submitted
    obtain ⟨earlier, stored, same⟩ := Table.of_find?_modify found
    split at same
    next isOwn =>
      rw [same, isOwn]
      exact ⟨actor.userId, rfl, List.mem_append_right _ (List.mem_singleton_self _)⟩
    next =>
      rw [same] at submitted ⊢
      obtain ⟨submitter, isSubmitter, member⟩ := sound.submittedRules other earlier stored submitted
      exact ⟨submitter, isSubmitter, List.mem_append_left _ member⟩
  · intro other submitter rules member
    dsimp only
    rw [Table.find?_modify]
    split
    next isOwn =>
      rw [isOwn, isRow]
      exact ⟨_, rfl, by simp⟩
    next different =>
      refine sound.submittedDrafts other submitter rules (mem_history_of_ne member ?_)
      intro same
      cases same
      exact different rfl
  · intro other submitter rules second secondRules first again
    rcases List.mem_append.mp first with old | new
    · rcases List.mem_append.mp again with oldAgain | newAgain
      · exact sound.submittedOnce other submitter rules second secondRules old oldAgain
      · rw [List.mem_singleton] at newAgain
        cases newAgain
        exact absurd old (unsubmitted _ _)
    · rw [List.mem_singleton] at new
      cases new
      rcases List.mem_append.mp again with oldAgain | newAgain
      · exact absurd oldAgain (unsubmitted _ _)
      · rw [List.mem_singleton] at newAgain
        cases newAgain
        exact ⟨rfl, rfl⟩

theorem kept_insertRedacted {draft : RedactionDraft} {rules : List RedactionRuleSpec}
    {reportId : String}
    (checked : draft.status = .submitted ∧ draft.createdByUserId ≠ actor.userId ∧
      draft.submittedByUserId ≠ some actor.userId) (isRow : state.drafts.find? draftId = some draft)
    (sameRules : state.ruleSpecs draftId = rules)
    (untouched : state.untouchedBy draftId actor.userId = true) :
    ControlKept state (state.insertRedacted digest actor draftId draft rules version previousHash
      reportId).1 stage next := by
  obtain ⟨submitted, notCreator, notSubmitter⟩ := checked
  obtain ⟨submitter, isSubmitter, isSubmission⟩ :=
    sound.submittedRules draftId draft isRow submitted
  unfold ComplianceDatabase.untouchedBy at untouched
  rw [Bool.and_eq_true, Bool.not_eq_true', Bool.not_eq_true', List.contains_eq_mem,
    List.contains_eq_mem, decide_eq_false_iff_not, decide_eq_false_iff_not] at untouched
  unfold ComplianceDatabase.insertRedacted
  split
  · exact .refl sound
  next report isReport =>
    split
    · exact .refl sound
    next payload redacts =>
      split
      · exact .refl sound
      dsimp only
      split
      · exact .refl sound
      next accepted =>
        rw [Bool.or_eq_true, not_or] at accepted
        have absent := Option.not_isSome_iff_eq_none.mp accepted.2
        have notSubmission : ∀ other user specs,
            .submitted other user specs ∈ state.history ++
              [.approved draftId actor.userId reportId rules] →
              .submitted other user specs ∈ state.history := by
          intro other user specs member
          exact mem_history_of_ne member (by intro same; cases same)
        refine { ControlPromise.refl state stage next with
          drafts := ?_
          sound := ⟨?_, ?_, ?_, ?_, sound.authorized, ?_⟩ }
        · intro other row found final
          refine ⟨row, find?_modify_of_status isRow found ?_, rfl⟩
          intro same
          rw [same, submitted] at final
          cases final
        · intro id snapshot other found isReleased
          rcases Table.of_find?_insert absent found with ⟨rfl, rfl⟩ | ⟨_, stored⟩
          · obtain rfl := Option.some.inj isReleased
            refine ⟨{ draft with
                status := .approved
                approvedByUserId := some actor.userId
                producedReportId := some id }, actor.userId, submitter, rules, ?_, ?_⟩
            · dsimp only
              rw [Table.find?_modify, if_pos rfl, isRow]
              rfl
            · exact
                { approved := rfl
                  produced := rfl
                  approvedBy := rfl
                  notCreator := notCreator
                  submittedBy := isSubmitter
                  notSubmitter := by
                    rintro rfl
                    exact notSubmitter isSubmitter
                  addedNone := fun member =>
                    untouched.1 (mem_history_of_ne member (by intro same; cases same))
                  removedNone := fun member =>
                    untouched.2 (mem_history_of_ne member (by intro same; cases same))
                  submitted := List.mem_append_left _ (sameRules ▸ isSubmission)
                  fromRules := ⟨report, payload, Table.find?_insert_of_found absent isReport,
                    redacts, rfl⟩ }
          · refine (sound.released id snapshot other stored isReleased).leaves
              ⟨?_, fun _ _ found => Table.find?_insert_of_found absent found,
                fun _ member => List.mem_append_left _ member, ?_⟩
            · intro row foundRow approved
              refine find?_modify_of_status isRow foundRow ?_
              rw [approved, submitted]
              decide
            · intro user row _ _
              exact ⟨fun member => mem_history_of_ne member (by intro same; cases same),
                fun member => mem_history_of_ne member (by intro same; cases same)⟩
        · intro other row found isSubmitted
          obtain ⟨earlier, stored, same⟩ := Table.of_find?_modify found
          split at same
          · rw [same] at isSubmitted
            cases isSubmitted
          · rw [same] at isSubmitted ⊢
            obtain ⟨user, isUser, member⟩ := sound.submittedRules other earlier stored isSubmitted
            exact ⟨user, isUser, List.mem_append_left _ member⟩
        · intro other user specs member
          obtain ⟨row, found, further⟩ :=
            sound.submittedDrafts other user specs (notSubmission _ _ _ member)
          dsimp only
          rw [Table.find?_modify]
          split
          · exact ⟨_, congrArg (Option.map _) found, by simp⟩
          · exact ⟨row, found, further⟩
        · intro other user specs second secondSpecs first again
          exact sound.submittedOnce other user specs second secondSpecs
            (notSubmission _ _ _ first) (notSubmission _ _ _ again)
        · intro id snapshot found redacted
          rcases Table.of_find?_insert absent found with ⟨_, rfl⟩ | ⟨_, stored⟩
          · exact ⟨draftId, rfl⟩
          · exact sound.fromDraft id snapshot stored redacted

end

theorem ControlSound.of_same (sound : ControlSound state) (drafts : after.drafts = state.drafts)
    (snapshots : after.snapshots = state.snapshots) (rules : after.rules = state.rules)
    (history : after.history = state.history)
    (authorized : ∀ id row, after.authorizations.find? id = some row → row.status = .approved →
      ∃ approver, row.approvedByUserId = some approver ∧ approver ≠ row.requestedByUserId) :
    ControlSound after := by
  constructor
  case released =>
    intro id snapshot draftId found isDraft
    rw [snapshots] at found
    exact (sound.released id snapshot draftId found isDraft).leaves
      (.of_same drafts snapshots history draftId)
  case submittedRules =>
    intro draftId draft found submitted
    rw [drafts] at found
    rw [history, ruleSpecs_congr rules]
    exact sound.submittedRules draftId draft found submitted
  case submittedDrafts =>
    intro draftId submitter specs member
    rw [history] at member
    rw [drafts]
    exact sound.submittedDrafts draftId submitter specs member
  case submittedOnce =>
    intro draftId submitter specs other otherSpecs first again
    rw [history] at first again
    exact sound.submittedOnce draftId submitter specs other otherSpecs first again
  case authorized => exact authorized
  case fromDraft =>
    intro id snapshot found redacted
    rw [snapshots] at found
    exact sound.fromDraft id snapshot found redacted

section

variable (sound : ControlSound state)
include sound

theorem ControlSound.of_authorizations {authorizations : Table String ExportAuthorization}
    (authorized : ∀ id row, authorizations.find? id = some row → row.status = .approved →
      ∃ approver, row.approvedByUserId = some approver ∧ approver ≠ row.requestedByUserId) :
    ControlSound { state with authorizations := authorizations } :=
  sound.of_same (by rfl) (by rfl) (by rfl) (by rfl) authorized

theorem kept_insertAuthorization {reportId purposeCode recipientType : String} :
    ControlKept state (state.insertAuthorization actor incidentId reportId purposeCode
      recipientType key draw).1 stage next := by
  unfold ComplianceDatabase.insertAuthorization
  split
  · exact .refl sound
  split
  · exact .refl sound
  next fresh =>
    have absent := Option.not_isSome_iff_eq_none.mp fresh
    refine { ControlPromise.refl state stage next with
      authorizations := ?_
      sound := sound.of_authorizations ?_ }
    · intro id row found
      exact ⟨row, Table.find?_insert_of_found absent found, admits_self row.status⟩
    · intro id row found approved
      rcases Table.of_find?_insert absent found with ⟨_, rfl⟩ | ⟨_, stored⟩
      · cases approved
      · exact sound.authorized id row stored approved

theorem kept_updateAuthorization {authorizationId : String} {authorization : ExportAuthorization}
    {target : ExportAuthorizationStatus} {now : Int}
    (checked : target = .approved → authorization.requestedByUserId ≠ actor.userId)
    (allowed : (state.authorizations.find? authorizationId).all (fun row =>
      authorizationAdmits row.status target && row.requestedByUserId == authorization.requestedByUserId) =
        true) :
    ControlKept state (state.updateAuthorization actor authorizationId target now).1 stage next := by
  unfold ComplianceDatabase.updateAuthorization
  refine { ControlPromise.refl state stage next with
    authorizations := ?_
    sound := sound.of_authorizations ?_ }
  · intro id row found
    dsimp only
    rw [Table.find?_modify]
    split
    next isOwn =>
      rw [isOwn] at found
      rw [found, Option.all_some, Bool.and_eq_true] at allowed
      rw [isOwn, found, Option.map_some]
      refine ⟨_, rfl, ?_⟩
      split <;> exact allowed.1
    next => exact ⟨row, found, admits_self row.status⟩
  · intro id row found approved
    obtain ⟨earlier, stored, same⟩ := Table.of_find?_modify found
    split at same
    next isOwn =>
      rw [isOwn] at stored
      rw [stored, Option.all_some, Bool.and_eq_true, beq_iff_eq] at allowed
      split at same
      next isApproval =>
        rw [same]
        exact ⟨actor.userId, rfl, allowed.2 ▸ (checked isApproval).symm⟩
      next notApproval =>
        rw [same] at approved
        exact absurd approved notApproval
    next =>
      rw [same] at approved ⊢
      exact sound.authorized id earlier stored approved

theorem kept_insertManifest {authorizationId : String} {authorization : ExportAuthorization}
    (allowed : (state.authorizations.find? authorizationId).any (fun row =>
      row.status == .approved && decide (draw.now < row.expiresAt)) = true) :
    ControlKept state (state.insertManifest digest actor authorizationId authorization key version
      previousHash draw).1 stage next := by
  obtain ⟨row, isRow, allowed⟩ := (Option.any_eq_true _ _).mp allowed
  rw [Bool.and_eq_true, beq_iff_eq, decide_eq_true_eq] at allowed
  obtain ⟨approver, isApprover, another⟩ := sound.authorized authorizationId row isRow allowed.1
  unfold ComplianceDatabase.insertManifest
  split
  · exact .refl sound
  split
  · exact .refl sound
  next manifest isManifest =>
    split
    · exact .refl sound
    next accepted =>
      rw [Bool.or_eq_true, not_or] at accepted
      have absent := Option.not_isSome_iff_eq_none.mp accepted.2
      refine { ControlPromise.refl state stage next with
        sound := sound.of_same rfl rfl rfl rfl sound.authorized
        manifests := ?_ }
      intro id stored found notYet
      rcases Table.of_find?_insert absent found with ⟨_, rfl⟩ | ⟨_, already⟩
      · obtain ⟨payload, _, rfl⟩ := Option.map_eq_some_iff.mp isManifest
        exact ⟨row, approver, isRow, allowed.1, isApprover, another, allowed.2⟩
      · rw [notYet] at already
        cases already

theorem kept_statement_control {stage : ComplianceStage} (checked : stage.Checked)
    (undisputed : stage.undisputed state (.runs draw) = true) :
    ControlKept state (state.statement digest draw stage).1 stage next := by
  unfold ComplianceStage.undisputed at undisputed
  cases stage with
  | insertingReport actor incidentId reportType key version previousHash =>
    exact kept_insertReport sound
  | insertingDraft actor incidentId sourceReportId key => exact kept_insertDraft sound
  | insertingRule actor draftId spec => exact kept_insertRule sound undisputed
  | deletingRule actor draftId ruleId =>
    obtain ⟨isDraft, own⟩ := Bool.and_eq_true_iff.mp undisputed
    exact kept_deleteRule sound isDraft own
  | submitting actor draftId => exact kept_submitDraft sound undisputed
  | cancelling draftId =>
    exact kept_status sound undisputed (by decide) (by decide) (by decide)
  | rejecting draftId =>
    exact kept_status sound undisputed (by decide) (by decide) (by decide)
  | insertingRedacted actor draftId draft rules version previousHash =>
    dsimp only at undisputed
    rw [Bool.and_eq_true, Bool.and_eq_true, beq_iff_eq, beq_iff_eq] at undisputed
    exact kept_insertRedacted sound checked undisputed.1.1 undisputed.1.2 undisputed.2
  | insertingAuthorization actor incidentId reportId purposeCode recipientType key =>
    exact kept_insertAuthorization sound
  | updatingAuthorization actor authorizationId authorization target =>
    exact kept_updateAuthorization sound checked undisputed
  | insertingManifest actor authorizationId authorization key version previousHash =>
    exact kept_insertManifest sound undisputed
  | _ => exact .refl sound

end

theorem control_checks (digest : Text → String) :
    (complianceProgram digest).Checks ControlSound ComplianceStage.Checked
      (fun state stage choice => stage.undisputed state choice) ControlPromise where
  enter := by
    intro state request
    have idle : ComplianceStage.dead.Checked := trivial
    exact idle.of_follows (follows_enter state .dead request)
  statement := by
    intro state call stage choice sound checked undisputed
    cases choice with
    | runs draw =>
      have kept : ControlKept state (state.statement digest draw stage).1 stage
          (state.statement digest draw stage).2 :=
        kept_statement_control sound checked undisputed
      exact ⟨kept.sound, checked.of_follows (follows_statement _ _ _ _), kept.toControlPromise⟩
    | throws =>
      refine ⟨sound, ?_, .refl state stage _⟩
      cases stage <;> trivial
    | dies =>
      refine ⟨sound, ?_, .refl state stage _⟩
      cases stage <;> trivial
  occur := by
    intro state event sound
    cases event with
    | scope incidentId scope =>
      exact sound.of_same rfl rfl rfl rfl sound.authorized

structure NothingReleased (state : ComplianceDatabase) : Prop where
  reports : ∀ id snapshot, state.snapshots.find? id = some snapshot →
    snapshot.redactionState ≠ .redacted ∧ snapshot.redactionDraftId = none
  drafts : state.drafts = Table.empty
  authorizations : state.authorizations = Table.empty
  history : state.history = []

theorem controlSound_of_nothingReleased (nothing : NothingReleased state) : ControlSound state := by
  constructor
  case released =>
    intro id snapshot draftId found isDraft
    rw [(nothing.reports id snapshot found).2] at isDraft
    cases isDraft
  case submittedRules =>
    intro draftId draft found _
    rw [nothing.drafts] at found
    cases found
  case submittedDrafts =>
    intro draftId submitter rules member
    rw [nothing.history] at member
    cases member
  case submittedOnce =>
    intro draftId submitter rules other otherRules member _
    rw [nothing.history] at member
    cases member
  case authorized =>
    intro id row found _
    rw [nothing.authorizations] at found
    cases found
  case fromDraft =>
    intro id snapshot found redacted
    exact absurd redacted (nothing.reports id snapshot found).1

/-- In every run whose writes are not disputed, every redacted report has passed four eyes, and
every statement keeps final statuses and prepares manifests under dual control. -/
theorem fourEyes_of_undisputed (initial : ComplianceDatabase) (actions : List ComplianceAction)
    (nothing : NothingReleased initial)
    (undisputed : Runs.Meets (complianceProgram digest).step
      (fun system action => Program.allows
        (fun state stage choice => ComplianceStage.undisputed state stage choice) system action =
          true)
      (System.initial initial) actions) :
    (∀ reached ∈ Runs.states (complianceProgram digest).step (System.initial initial) actions,
        FourEyes reached.shared) ∧
      Runs.Meets (complianceProgram digest).step
        ((complianceProgram digest).Keeps ControlPromise) (System.initial initial) actions := by
  obtain ⟨states, promises⟩ := (control_checks digest).runs
    (controlSound_of_nothingReleased nothing) undisputed
  exact ⟨fun reached member => (states reached member).fourEyes, promises⟩

end

/-! Two users of which the one creates and submits a draft, and the other one approves it. -/

section

def creator : IncidentActorContext := ⟨"tenant", "creator", .owner⟩

def approver : IncidentActorContext := ⟨"tenant", "approver", .owner⟩

def sourcePayload : JsonValue :=
  .obj [("incident", .obj []), ("integrity", .obj []), ("reportMetadata", .obj [])]

def sourceReport : ComplianceSnapshot where
  incidentId := "incident"
  reportType := .caseSummary
  version := 1
  schemaVersion := complianceSchemaVersion
  redactionState := .unredactedInternal
  generatedByUserId := "creator"
  snapshotHash := (computeComplianceHashHex String.ofList sourcePayload none).getD ""
  previousSnapshotHash := none
  snapshotPayload := sourcePayload
  idempotencyKey := none
  sourceReportId := none
  redactionDraftId := none
  redactionRuleSetHash := none
  approvedByUserId := none

def unredacted : ComplianceDatabase where
  scopes := fun _ => some ⟨none, []⟩
  snapshots := Table.empty.insert "report" sourceReport
  drafts := Table.empty
  rules := Table.empty
  authorizations := Table.empty
  manifests := Table.empty
  history := []

def emptySection : CleanJson := ⟨.null, null_isClean⟩

def runsWith (call : Nat) (id : String) : ComplianceAction :=
  .statement call (.runs
    { id := id
      now := 0
      sections :=
        ⟨"", "open", "high", "threat", none, "", none, 0, 0, 0, emptySection, emptySection,
          emptySection, emptySection, emptySection, emptySection, emptySection, emptySection,
          emptySection⟩ })

def keepsConfidence : RuleInput :=
  ⟨"detections[*].confidence", "keep", "DATA_MINIMIZATION", none, none, none⟩

def redactionRun (adder : IncidentActorContext) : List ComplianceAction :=
  [.enter 0 (.createDraft creator "report" none), runsWith 0 "", runsWith 0 "draft",
    .enter 1 (.draft adder "draft" (.addRule keepsConfidence)), runsWith 1 "", runsWith 1 "",
    runsWith 1 "rule", .enter 2 (.draft creator "draft" .submit), runsWith 2 "", runsWith 2 "",
    runsWith 2 "", .enter 3 (.draft approver "draft" .approve), runsWith 3 "", runsWith 3 "",
    runsWith 3 "", runsWith 3 "redacted"]

theorem unredacted_nothingReleased : NothingReleased unredacted := by
  refine ⟨?_, rfl, rfl, rfl⟩
  intro id snapshot found
  rcases Table.of_find?_insert Table.find?_empty found with ⟨_, rfl⟩ | ⟨_, absent⟩
  · exact ⟨by decide, rfl⟩
  · cases absent

theorem fourEyes_of_creator :
    (∀ reached ∈ Runs.states (complianceProgram String.ofList).step (System.initial unredacted)
        (redactionRun creator), FourEyes reached.shared) ∧
      Runs.Meets (complianceProgram String.ofList).step
        ((complianceProgram String.ofList).Keeps ControlPromise) (System.initial unredacted)
        (redactionRun creator) :=
  fourEyes_of_undisputed unredacted (redactionRun creator) unredacted_nothingReleased
    (by decide +kernel)

/-- Who has approved the report that a run has released, and whether this user has added a rule. -/
def releasedByAdder (state : ComplianceDatabase) : Bool :=
  (state.snapshots.find? "redacted").any fun snapshot =>
    snapshot.redactionState == .redacted && snapshot.redactionDraftId == some "draft" &&
      snapshot.approvedByUserId == some "approver" &&
        state.history.contains (.ruleAdded "draft" "approver")

theorem redactionRun_released : releasedByAdder
    (Runs.run (complianceProgram String.ofList).step (System.initial unredacted)
      (redactionRun approver)).shared = true := by
  decide +kernel

/-- The approver of a draft has added its rule. -/
theorem fourEyes_violated :
    ¬ ∀ (initial : ComplianceDatabase) (actions : List ComplianceAction),
      NothingReleased initial →
      (∀ reached ∈ Runs.states (complianceProgram String.ofList).step (System.initial initial)
          actions, FourEyes reached.shared) ∧
        Runs.Meets (complianceProgram String.ofList).step
          ((complianceProgram String.ofList).Keeps ControlPromise) (System.initial initial)
          actions := by
  intro claim
  have eyes := (claim unredacted (redactionRun approver) unredacted_nothingReleased).1 _
    (Runs.run_mem_states (redactionRun approver))
  have released := redactionRun_released
  generalize (Runs.run (complianceProgram String.ofList).step (System.initial unredacted)
    (redactionRun approver)).shared = final at eyes released
  obtain ⟨snapshot, found, facts⟩ := (Option.any_eq_true _ _).mp released
  rw [Bool.and_eq_true, Bool.and_eq_true, Bool.and_eq_true, beq_iff_eq, beq_iff_eq, beq_iff_eq,
    List.contains_eq_mem, decide_eq_true_eq] at facts
  obtain ⟨⟨⟨redacted, isDraft⟩, approvedBy⟩, added⟩ := facts
  obtain ⟨draftId, ofDraft, draft, user, submitter, rules, _, by_⟩ :=
    eyes.released "redacted" snapshot found redacted
  obtain rfl := Option.some.inj (ofDraft.symm.trans isDraft)
  obtain rfl := Option.some.inj (by_.approvedBy.symm.trans approvedBy)
  exact by_.addedNone added

end

end Tamanor.Db
