import Tamanor.Core.CyberbullyingRedactionProperties
import Tamanor.Db.CyberbullyingRedaction

/-! The chain of the reports of an incident and type is complete in every run, and two chains that
end in one hash are of the same payloads, if no field of them has the name of the prototype. -/

set_option autoImplicit false

namespace Tamanor.Db

open Tamanor.Core Library Interleaving

variable {digest : Text → String} {state after : ComplianceDatabase}
  {incidentId : String} {reportType : ComplianceReportType}

theorem clean_payload (sections : ReportSections) (actor : IncidentActorContext)
    (incidentId : String) (reportType : ComplianceReportType) (version : Nat)
    (previousHash : Option String) (now : Int) :
    Clean (sections.payload actor incidentId reportType version previousHash now) := by
  have sectionClean : ∀ part : CleanJson, Clean part.val := fun part => part.property
  refine clean_obj.mpr ⟨by simp, ?_⟩
  simp only [List.forall_mem_cons, List.not_mem_nil, false_implies, implies_true, and_true]
  refine ⟨clean_obj.mpr ⟨by simp, ?_⟩, clean_obj.mpr ⟨by simp, ?_⟩, sectionClean _, sectionClean _,
    sectionClean _, sectionClean _, sectionClean _, sectionClean _, sectionClean _, sectionClean _,
    clean_obj.mpr ⟨by simp, ?_⟩, sectionClean _⟩
  all_goals
    simp only [List.forall_mem_cons, List.not_mem_nil, false_implies, implies_true, and_true]
  · exact ⟨⟨rfl, trivial⟩, ⟨rfl, trivial⟩, ⟨rfl, trivial⟩, ⟨rfl, trivial⟩, ⟨rfl, trivial⟩,
      ⟨rfl, trivial⟩, ⟨rfl, trivial⟩, ⟨rfl, trivial, trivial⟩⟩
  · exact ⟨clean_str _, clean_str _, clean_str _, clean_str _, clean_str _, clean_textOrNull _,
      clean_str _, clean_textOrNull _⟩
  · exact ⟨clean_textOrNull _, clean_str _, clean_str _, clean_str _, ⟨rfl, trivial⟩,
      ⟨rfl, trivial⟩, ⟨rfl, trivial⟩⟩

variable {version : Nat} {previousHash : Option String} {snapshot : ComplianceSnapshot}
  {stage next : ComplianceStage} {draw : ComplianceDraw}

theorem clean_redactedPayload {source payload : JsonValue} {rules : List RedactionRuleSpec}
    (redacts : redactedPayload source rules version previousHash = some payload)
    (clean : Clean source) : Clean payload := by
  obtain ⟨numbered, assigns, assignsHash⟩ := Option.bind_eq_some_iff.mp redacts
  exact clean_assignIn assignsHash (clean_assignIn assigns
    (clean_applyComplianceRedactions rules clean) ⟨rfl, trivial⟩) (clean_textOrNull _)

def ComplianceDatabase.storedRows (state : ComplianceDatabase) (incidentId : String)
    (reportType : ComplianceReportType) : List ComplianceChainRow :=
  (state.chainSnapshots incidentId reportType).map ComplianceDatabase.ofSnapshot

structure ChainSound (digest : Text → String) (state : ComplianceDatabase) : Prop where
  verified : ∀ incidentId reportType,
    verifyChainRows digest none 1 (state.storedRows incidentId reportType) = some .verified
  clean : ∀ id snapshot, state.snapshots.find? id = some snapshot → Clean snapshot.snapshotPayload

/-- A number and a hash that have been read from a chain, which may since have become longer. -/
def Allocated (state : ComplianceDatabase) (incidentId : String)
    (reportType : ComplianceReportType) (version : Nat) (previousHash : Option String) : Prop :=
  ∃ count ≤ (state.storedRows incidentId reportType).length, version = 1 + count ∧
    previousHash = lastHash none ((state.storedRows incidentId reportType).take count)

/-- What a call that is about to insert a report has read. -/
def ComplianceStage.Allocated (state : ComplianceDatabase) : ComplianceStage → Prop
  | .insertingReport _ incidentId reportType _ version previousHash =>
    Db.Allocated state incidentId reportType version previousHash
  | .insertingRedacted _ _ draft _ version previousHash =>
    ∃ report, state.snapshots.find? draft.sourceReportId = some report ∧
      Db.Allocated state report.incidentId report.reportType version previousHash
  | _ => True

structure Grows (state after : ComplianceDatabase) : Prop where
  rows : ∀ incidentId reportType, ∃ further,
    after.storedRows incidentId reportType = state.storedRows incidentId reportType ++ further
  kept : ∀ id snapshot, state.snapshots.find? id = some snapshot →
    after.snapshots.find? id = some snapshot

structure Continues (digest : Text → String) (state : ComplianceDatabase)
    (snapshot : ComplianceSnapshot) : Prop where
  numbered : snapshot.version =
    1 + (state.storedRows snapshot.incidentId snapshot.reportType).length
  linked : snapshot.previousSnapshotHash =
    lastHash none (state.storedRows snapshot.incidentId snapshot.reportType)
  hashed : verifyComplianceSnapshotPayload digest snapshot.snapshotPayload snapshot.snapshotHash
    snapshot.previousSnapshotHash snapshot.schemaVersion = some .verified
  clean : Clean snapshot.snapshotPayload

inductive Writes (digest : Text → String) (state after : ComplianceDatabase) : Prop where
  | nothing (same : after.snapshots = state.snapshots)
  | report (id : String) (snapshot : ComplianceSnapshot)
      (fresh : state.snapshots.find? id = none)
      (inserted : after.snapshots = state.snapshots.insert id snapshot)
      (continues : Continues digest state snapshot)

theorem storedRows_congr (same : after.snapshots = state.snapshots) (incidentId : String)
    (reportType : ComplianceReportType) :
    after.storedRows incidentId reportType = state.storedRows incidentId reportType := by
  unfold ComplianceDatabase.storedRows ComplianceDatabase.chainSnapshots
  rw [same]

theorem storedRows_insert {id : String} (fresh : state.snapshots.find? id = none)
    (inserted : after.snapshots = state.snapshots.insert id snapshot) (incidentId : String)
    (reportType : ComplianceReportType) :
    after.storedRows incidentId reportType = state.storedRows incidentId reportType ++
      if ComplianceDatabase.ofChain incidentId reportType snapshot then
        [ComplianceDatabase.ofSnapshot snapshot]
      else [] := by
  unfold ComplianceDatabase.storedRows ComplianceDatabase.chainSnapshots
  rw [inserted, Table.rows_insert id fresh, List.map_append, List.filter_append, List.map_append]
  by_cases own : ComplianceDatabase.ofChain incidentId reportType snapshot = true <;> simp [own]

theorem ofChain_iff :
    ComplianceDatabase.ofChain incidentId reportType snapshot = true ↔
      snapshot.incidentId = incidentId ∧ snapshot.reportType = reportType := by
  unfold ComplianceDatabase.ofChain
  rw [Bool.and_eq_true, beq_iff_eq, beq_iff_eq]

theorem Writes.grows (writes : Writes digest state after) : Grows state after := by
  cases writes with
  | nothing same =>
    constructor
    case rows =>
      intro incidentId reportType
      exact ⟨[], by rw [storedRows_congr same, List.append_nil]⟩
    case kept =>
      intro id snapshot found
      rw [same]
      exact found
  | report id snapshot fresh inserted continues =>
    constructor
    case rows =>
      intro incidentId reportType
      exact ⟨_, storedRows_insert fresh inserted incidentId reportType⟩
    case kept =>
      intro other stored found
      rw [inserted]
      exact Table.find?_insert_of_found fresh found

theorem Writes.sound (writes : Writes digest state after) (sound : ChainSound digest state) :
    ChainSound digest after := by
  cases writes with
  | nothing same =>
    constructor
    case verified =>
      intro incidentId reportType
      rw [storedRows_congr same]
      exact sound.verified incidentId reportType
    case clean =>
      intro id snapshot found
      rw [same] at found
      exact sound.clean id snapshot found
  | report id snapshot fresh inserted continues =>
    constructor
    case verified =>
      intro incidentId reportType
      rw [storedRows_insert fresh inserted]
      split
      next own =>
        obtain ⟨rfl, rfl⟩ := ofChain_iff.mp own
        exact verifyChainRows_snoc (sound.verified _ _) continues.numbered continues.linked
          continues.hashed
      next => rw [List.append_nil]; exact sound.verified incidentId reportType
    case clean =>
      intro other stored found
      rw [inserted, Table.find?_insert id fresh] at found
      split at found
      · cases found
        exact continues.clean
      · exact sound.clean other stored found

theorem Allocated.grows (allocated : Allocated state incidentId reportType version previousHash)
    (grows : Grows state after) :
    Allocated after incidentId reportType version previousHash := by
  obtain ⟨count, inside, numbered, linked⟩ := allocated
  obtain ⟨further, rows⟩ := grows.rows incidentId reportType
  refine ⟨count, ?_, numbered, ?_⟩
  · rw [rows, List.length_append]
    omega
  · rw [rows, List.take_append_of_le_length inside]
    exact linked

theorem ComplianceStage.Allocated.grows (allocated : stage.Allocated state)
    (grows : Grows state after) : stage.Allocated after := by
  cases stage with
  | insertingReport actor incidentId reportType key version previousHash =>
    exact Db.Allocated.grows allocated grows
  | insertingRedacted actor draftId draft rules version previousHash =>
    obtain ⟨report, found, allocated⟩ := allocated
    exact ⟨report, grows.kept _ report found, allocated.grows grows⟩
  | _ => trivial

theorem versions_stored (sound : ChainSound digest state) (incidentId : String)
    (reportType : ComplianceReportType) :
    (state.chainSnapshots incidentId reportType).map (·.version) =
      List.range' 1 (state.storedRows incidentId reportType).length := by
  rw [← versions_of_verified (sound.verified incidentId reportType)]
  unfold ComplianceDatabase.storedRows
  rw [List.map_map]
  rfl

theorem allocated_nextVersion (sound : ChainSound digest state) (incidentId : String)
    (reportType : ComplianceReportType) :
    Allocated state incidentId reportType (state.nextVersion incidentId reportType).1
      (state.nextVersion incidentId reportType).2 := by
  have versions := versions_stored sound incidentId reportType
  have length : (state.storedRows incidentId reportType).length =
      (state.chainSnapshots incidentId reportType).length := List.length_map _
  refine ⟨(state.storedRows incidentId reportType).length, Nat.le_refl _, ?_⟩
  rw [List.take_length]
  unfold ComplianceDatabase.nextVersion ComplianceDatabase.lastSnapshot
  rw [length] at versions ⊢
  unfold ComplianceDatabase.storedRows
  generalize state.chainSnapshots incidentId reportType = chain at versions ⊢
  cases isLast : chain.argmax (·.version) with
  | none =>
    rw [List.argmax_eq_none.mp isLast]
    exact ⟨rfl, rfl⟩
  | some last =>
    have member := List.argmax_mem isLast
    obtain ⟨before, final, rfl⟩ : ∃ before final, chain = before ++ [final] :=
      ⟨chain.dropLast, chain.getLast (List.ne_nil_of_mem member),
        (List.dropLast_append_getLast _).symm⟩
    have finalVersion : final.version = (before ++ [final]).length := by
      have isFinal := congrArg List.getLast? versions
      rw [List.map_append, List.map_singleton, List.getLast?_concat, List.length_append,
        List.length_singleton, List.range'_concat, List.getLast?_concat] at isFinal
      rw [Option.some.inj isFinal, List.length_append, List.length_singleton]
      omega
    have bounded : last.version ≤ (before ++ [final]).length := by
      have inRange : last.version ∈ (before ++ [final]).map (·.version) :=
        List.mem_map_of_mem member
      rw [versions, List.mem_range'_1] at inRange
      omega
    have most := List.le_of_mem_argmax (List.mem_append_right before (List.mem_singleton_self final))
      isLast
    have same : last = final := by
      have nodup : ((before ++ [final]).map (·.version)).Nodup := by
        rw [versions]
        exact List.nodup_range'
      refine List.inj_on_of_nodup_map nodup member (List.mem_append_right _
        (List.mem_singleton_self _)) ?_
      omega
    subst same
    dsimp only
    refine ⟨by omega, ?_⟩
    unfold lastHash
    rw [List.map_append, List.map_singleton, List.getLast?_concat]
    rfl

theorem next_of_free (sound : ChainSound digest state)
    (allocated : Allocated state incidentId reportType version previousHash)
    (free : ∀ snapshot ∈ state.chainSnapshots incidentId reportType, snapshot.version ≠ version) :
    version = 1 + (state.storedRows incidentId reportType).length ∧
      previousHash = lastHash none (state.storedRows incidentId reportType) := by
  obtain ⟨count, inside, numbered, linked⟩ := allocated
  have all : count = (state.storedRows incidentId reportType).length := by
    by_contra fewer
    have inRange : version ∈ (state.chainSnapshots incidentId reportType).map (·.version) := by
      rw [versions_stored sound, List.mem_range'_1]
      omega
    obtain ⟨snapshot, member, taken⟩ := List.mem_map.mp inRange
    exact free snapshot member taken
  rw [all, List.take_length] at linked
  exact ⟨by omega, linked⟩

theorem free_of_accepted (accepted : state.refusesSnapshot snapshot = false) :
    ∀ other ∈ state.chainSnapshots snapshot.incidentId snapshot.reportType,
      other.version ≠ snapshot.version := by
  intro other member same
  obtain ⟨stored, own⟩ := List.mem_filter.mp member
  unfold ComplianceDatabase.refusesSnapshot at accepted
  rw [List.any_eq_false] at accepted
  exact accepted other stored (by rw [own, same]; simp)

theorem verified_column {payload : JsonValue} {hash : String}
    (hashes : computeComplianceHashHex digest payload previousHash = some hash)
    (clean : Clean payload) :
    verifyComplianceSnapshotPayload digest payload.column hash previousHash
      complianceSchemaVersion = some .verified := by
  unfold verifyComplianceSnapshotPayload
  rw [if_neg (by decide), hash_column payload previousHash clean.1 clean.2, hashes, Option.map_some,
    if_pos rfl]

theorem writes_insertReport {actor : IncidentActorContext} {key : Option String}
    (sound : ChainSound digest state)
    (allocated : Allocated state incidentId reportType version previousHash) :
    Writes digest state (state.insertReport digest actor incidentId reportType key version
      previousHash draw).1 := by
  unfold ComplianceDatabase.insertReport
  dsimp only
  split
  · exact .nothing rfl
  next snapshotHash hashes =>
    split
    · exact .nothing rfl
    next accepted =>
      split
      · exact .nothing rfl
      next fresh =>
        obtain ⟨numbered, linked⟩ :=
          next_of_free sound allocated (free_of_accepted (Bool.eq_false_iff.mpr accepted))
        have clean := clean_payload draw.sections actor incidentId reportType version previousHash
          draw.now
        exact .report draw.id _ (Option.not_isSome_iff_eq_none.mp fresh) rfl
          ⟨numbered, linked, verified_column hashes clean, clean_column clean⟩

theorem writes_insertRedacted {actor : IncidentActorContext} {draftId id : String}
    {draft : RedactionDraft} {rules : List RedactionRuleSpec} (sound : ChainSound digest state)
    (allocated : ∃ report, state.snapshots.find? draft.sourceReportId = some report ∧
      Allocated state report.incidentId report.reportType version previousHash) :
    Writes digest state (state.insertRedacted digest actor draftId draft rules version
      previousHash id).1 := by
  obtain ⟨report, isReport, allocated⟩ := allocated
  unfold ComplianceDatabase.insertRedacted
  rw [isReport]
  dsimp only
  split
  · exact .nothing rfl
  next payload redacts =>
    split
    · exact .nothing rfl
    next snapshotHash hashes =>
      split
      · exact .nothing rfl
      next accepted =>
        rw [Bool.or_eq_true, not_or] at accepted
        obtain ⟨numbered, linked⟩ :=
          next_of_free sound allocated (free_of_accepted (Bool.eq_false_iff.mpr accepted.1))
        have clean := clean_redactedPayload redacts (sound.clean _ report isReport)
        exact .report id _ (Option.not_isSome_iff_eq_none.mp accepted.2) rfl
          ⟨numbered, linked, verified_column hashes clean, clean_column clean⟩

theorem writes_statement (sound : ChainSound digest state) (allocated : stage.Allocated state) :
    Writes digest state (state.statement digest draw stage).1 := by
  cases stage with
  | insertingReport actor incidentId reportType key version previousHash =>
    exact writes_insertReport sound allocated
  | insertingRedacted actor draftId draft rules version previousHash =>
    exact writes_insertRedacted sound allocated
  | insertingDraft actor incidentId sourceReportId key =>
    rw [ComplianceDatabase.statement, ComplianceDatabase.insertDraft]
    split
    · exact .nothing rfl
    split <;> exact .nothing rfl
  | insertingRule actor draftId spec =>
    rw [ComplianceDatabase.statement, ComplianceDatabase.insertRule]
    split <;> exact .nothing rfl
  | deletingRule actor draftId ruleId =>
    rw [ComplianceDatabase.statement, ComplianceDatabase.deleteRule]
    split <;> exact .nothing rfl
  | insertingAuthorization actor incidentId reportId purposeCode recipientType key =>
    rw [ComplianceDatabase.statement, ComplianceDatabase.insertAuthorization]
    split
    · exact .nothing rfl
    split <;> exact .nothing rfl
  | insertingManifest actor authorizationId authorization key packageVersion previousHash =>
    rw [ComplianceDatabase.statement, ComplianceDatabase.insertManifest]
    split
    · exact .nothing rfl
    split
    · exact .nothing rfl
    split <;> exact .nothing rfl
  | _ => exact .nothing rfl

theorem allocated_of_follows (follows : stage.Follows next)
    (reports : ∀ actor incidentId reportType key,
      stage ≠ .allocatingReport actor incidentId reportType key)
    (redacts : ∀ actor draftId draft rules, stage ≠ .allocatingRedacted actor draftId draft rules) :
    next.Allocated state := by
  cases next with
  | insertingReport => exact absurd follows (reports _ _ _ _)
  | insertingRedacted => exact absurd follows (redacts _ _ _ _)
  | _ => trivial

theorem allocated_statement (sound : ChainSound digest state) :
    (state.statement digest draw stage).2.Allocated (state.statement digest draw stage).1 := by
  have follows := follows_statement state digest draw stage
  cases stage with
  | allocatingReport actor incidentId reportType key =>
    exact allocated_nextVersion sound incidentId reportType
  | allocatingRedacted actor draftId draft rules =>
    rw [ComplianceDatabase.statement, ComplianceDatabase.allocatingRedactedStage]
    cases isReport : state.snapshots.find? draft.sourceReportId with
    | none => trivial
    | some report =>
      exact ⟨report, isReport, allocated_nextVersion sound report.incidentId report.reportType⟩
  | _ =>
    exact allocated_of_follows follows (fun _ _ _ _ same => by cases same)
      fun _ _ _ _ same => by cases same

theorem allocated_afterThrow (stage : ComplianceStage) : stage.afterThrow.Allocated state := by
  cases stage <;> trivial

theorem allocated_afterDeath (stage : ComplianceStage) : stage.afterDeath.Allocated state := by
  cases stage <;> trivial

theorem chainKept_choice (call : Nat) {choice : ComplianceChoice} (sound : ChainSound digest state)
    (allocated : stage.Allocated state) :
    Writes digest state ((complianceProgram digest).statement state call stage choice).1 ∧
      ((complianceProgram digest).statement state call stage choice).2.Allocated
        ((complianceProgram digest).statement state call stage choice).1 := by
  cases choice with
  | runs draw => exact ⟨writes_statement sound allocated, allocated_statement sound⟩
  | throws => exact ⟨.nothing rfl, allocated_afterThrow stage⟩
  | dies => exact ⟨.nothing rfl, allocated_afterDeath stage⟩

def chainAssertions (digest : Text → String) : Assertions ComplianceDatabase ComplianceStage where
  invariant := ChainSound digest
  assertion state _ standing := ∀ stage, standing = some stage → stage.Allocated state

theorem chain_sound (digest : Text → String) :
    (chainAssertions digest).Sound (complianceProgram digest) fun _ _ => True where
  enter := by
    intro system call request _ _ _ stage entered
    obtain rfl := Option.some.inj entered
    exact allocated_of_follows (follows_enter system.shared .dead request) nofun nofun
  statement := by
    intro system call stage choice holds _ found
    obtain ⟨writes, allocated⟩ :=
      chainKept_choice call holds.invariant (holds.at_stage found stage rfl)
    refine ⟨writes.sound holds.invariant, ?_⟩
    intro next same
    obtain rfl := Option.some.inj same
    exact allocated
  undisturbed := by
    intro system call stage choice other holds _ found _ standing there
    obtain ⟨writes, _⟩ := chainKept_choice call holds.invariant (holds.at_stage found stage rfl)
    exact (holds.assertion other standing there).grows writes.grows
  occur := by
    intro system event holds _
    have writes : Writes digest system.shared
        ((complianceProgram digest).occur system.shared event) := by
      cases event with
      | scope incidentId scope => exact .nothing rfl
    exact ⟨writes.sound holds.invariant, fun call stage there =>
      (holds.assertion call stage there).grows writes.grows⟩

structure ChainComplete (digest : Text → String) (state : ComplianceDatabase)
    (incidentId : String) (reportType : ComplianceReportType) : Prop where
  numbered : (state.storedRows incidentId reportType).map (·.version) =
    List.range' 1 (state.storedRows incidentId reportType).length
  linked : none :: (state.storedRows incidentId reportType).map (fun row => some row.snapshotHash) =
    (state.storedRows incidentId reportType).map (·.previousSnapshotHash) ++
      [lastHash none (state.storedRows incidentId reportType)]
  verified : state.storedRows incidentId reportType ≠ [] → ∀ viewer : IncidentActorContext,
    canCyberbullying viewer.role .review = true →
    state.verifyReportChain digest viewer incidentId reportType = .ok .verified

theorem chainRows_eq (sound : ChainSound digest state) (incidentId : String)
    (reportType : ComplianceReportType) :
    state.chainRows incidentId reportType = state.storedRows incidentId reportType := by
  unfold ComplianceDatabase.chainRows ComplianceDatabase.storedRows
  have versions := versions_stored sound incidentId reportType
  have ascending : (state.chainSnapshots incidentId reportType).Pairwise fun first second =>
      first.version ≤ second.version := by
    have sorted : ((state.chainSnapshots incidentId reportType).map (·.version)).Pairwise
        (· ≤ ·) := by
      rw [versions]
      exact List.pairwise_le_range'
    exact List.pairwise_map.mp sorted
  rw [List.Pairwise.insertionSort_eq ascending]

theorem chainComplete (sound : ChainSound digest state) (incidentId : String)
    (reportType : ComplianceReportType) : ChainComplete digest state incidentId reportType := by
  have verified := sound.verified incidentId reportType
  constructor
  case numbered => exact versions_of_verified verified
  case linked => exact links_of_verified verified
  case verified =>
    intro nonempty viewer allowed
    unfold ComplianceDatabase.verifyReportChain
    rw [allowed, chainRows_eq sound]
    unfold verifyComplianceRows
    have filled : (state.storedRows incidentId reportType).isEmpty = false :=
      List.isEmpty_eq_false_iff.mpr nonempty
    rw [filled, if_neg Bool.false_ne_true, verified]
    rfl

theorem chainSound_empty (noSnapshots : state.snapshots = Table.empty) :
    ChainSound digest state := by
  constructor
  case verified =>
    intro incidentId reportType
    unfold ComplianceDatabase.storedRows ComplianceDatabase.chainSnapshots
    rw [noSnapshots]
    rfl
  case clean =>
    intro id snapshot found
    rw [noSnapshots] at found
    cases found

/-- Every chain is complete in every state of every run, and two lists of rows that are verified
and end in one hash have the same payloads, if all of them are plain. -/
theorem complianceChain_binds (injective : Function.Injective digest) :
    (∀ (initial : ComplianceDatabase)
        (actions : List (Action ComplianceRequest ComplianceChoice ComplianceEvent)),
      initial.snapshots = Table.empty →
      ∀ reached ∈ Runs.states (complianceProgram digest).step (System.initial initial) actions,
        ∀ incidentId reportType, ChainComplete digest reached.shared incidentId reportType) ∧
    ∀ first second : List ComplianceChainRow,
      (∀ row ∈ first, PlainPayload row.snapshotPayload) →
      (∀ row ∈ second, PlainPayload row.snapshotPayload) →
      verifyComplianceRows digest first = some .verified →
      verifyComplianceRows digest second = some .verified → first.length = second.length →
      first.getLast?.map (·.snapshotHash) = second.getLast?.map (·.snapshotHash) →
      List.Forall₂ SamePayload first second := by
  constructor
  · intro initial actions noSnapshots reached member incidentId reportType
    have holds : (chainAssertions digest).Hold (System.initial initial) :=
      Assertions.Hold.initial (chainSound_empty noSnapshots) fun _ _ absent => by cases absent
    exact chainComplete ((chain_sound digest).states holds (Runs.meets_true actions) reached
      member).invariant incidentId reportType
  · intro first second firstPlain secondPlain firstVerified secondVerified length lastHash
    unfold verifyComplianceRows at firstVerified secondVerified
    split at firstVerified
    · cases firstVerified
    split at secondVerified
    · cases secondVerified
    exact (chain_binds injective firstVerified secondVerified length lastHash firstPlain
      secondPlain).1

theorem complianceChain_binds_text :
    (∀ (initial : ComplianceDatabase)
        (actions : List (Action ComplianceRequest ComplianceChoice ComplianceEvent)),
      initial.snapshots = Table.empty →
      ∀ reached ∈ Runs.states (complianceProgram String.ofList).step (System.initial initial)
          actions,
        ∀ incidentId reportType,
          ChainComplete String.ofList reached.shared incidentId reportType) ∧
    ∀ first second : List ComplianceChainRow,
      (∀ row ∈ first, PlainPayload row.snapshotPayload) →
      (∀ row ∈ second, PlainPayload row.snapshotPayload) →
      verifyComplianceRows String.ofList first = some .verified →
      verifyComplianceRows String.ofList second = some .verified → first.length = second.length →
      first.getLast?.map (·.snapshotHash) = second.getLast?.map (·.snapshotHash) →
      List.Forall₂ SamePayload first second :=
  complianceChain_binds @String.ofList_injective

/-! A field that has the name of the prototype is not hashed. -/

def reportPayload (further : List (String × JsonValue)) : JsonValue :=
  .obj ([("incident", .obj []), ("reportMetadata", .obj [])] ++ further)

def forgedField : List (String × JsonValue) := [("__proto__", .obj [("category", .str "insult")])]

def forgedRow (further : List (String × JsonValue)) : ComplianceChainRow where
  version := 1
  schemaVersion := complianceSchemaVersion
  snapshotHash := (computeComplianceHashHex String.ofList (reportPayload []) none).getD ""
  previousSnapshotHash := none
  snapshotPayload := reportPayload further

theorem forged_runs :
    verifyComplianceRows String.ofList [forgedRow []] = some .verified ∧
      verifyComplianceRows String.ofList [forgedRow forgedField] = some .verified ∧
      (reportPayload []).sorted.print ≠ (reportPayload forgedField).sorted.print := by
  decide +kernel

/-- A payload with such a field is verified under the hash of the payload without it. -/
theorem forged_payload_verified :
    ¬ ∀ first second : List ComplianceChainRow,
      verifyComplianceRows String.ofList first = some .verified →
      verifyComplianceRows String.ofList second = some .verified → first.length = second.length →
      first.getLast?.map (·.snapshotHash) = second.getLast?.map (·.snapshotHash) →
      List.Forall₂ SamePayload first second := by
  intro binds
  obtain ⟨plainVerified, forgedVerified, different⟩ := forged_runs
  have same := binds [forgedRow []] [forgedRow forgedField] plainVerified forgedVerified rfl rfl
  cases same with
  | cons samePayload _ => exact different (congrArg Json.print samePayload)

end Tamanor.Db
