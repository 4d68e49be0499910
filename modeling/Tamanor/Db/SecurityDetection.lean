import Tamanor.Core.BusinessContacts
import Tamanor.Core.SecurityDetection
import Tamanor.Library.Interleaving

/-! The ledger of account-takeover detections of a tenant (`security-detection.ts`): ingestions
and reviews, as calls whose statements interleave. What a transaction has written is locked and
unseen until it commits, so that its writes stand in its last statement; one that has failed lets
no further statement of its transaction run. -/

set_option autoImplicit false

namespace Tamanor.Db

open Tamanor.Core Library

/-- Whether the unique index on active detections covers a status. -/
def activeDetectionStatus (status : SecurityDetectionStatus) : Bool :=
  [SecurityDetectionStatus.opened, .acknowledged, .confirmed].contains status

structure DetectionCandidate where
  subjectType : String
  subjectId : String
  brandId : Option String
  kind : String
  severity : String
  confidence : Nat
  source : String
  dedupeKey : String
deriving DecidableEq

structure SecurityDetection where
  subjectType : String
  subjectId : String
  brandId : Option String
  kind : String
  severity : String
  status : SecurityDetectionStatus
  confidence : Nat
  source : String
  dedupeKey : Option String
  reasonCode : String
  occurrenceCount : Nat
  lastObservedAt : Option Int
  detectedAt : Int
  detectedByEngine : Option String
  reviewedByUserId : Option String
  reviewedAt : Option Int
  resolutionNote : Option String
  resolvedAt : Option Int

structure DetectionAudit where
  event : String
  actorUserId : Option String
  targetId : String

structure DetectionDatabase where
  detections : Table String SecurityDetection
  audits : List DetectionAudit

/-! The requests and the stages of their calls. -/

inductive DetectionRequest where
  | ingest (candidate : DetectionCandidate) (engineVersion : Option String) (now : Int)
  | review (id : String) (target : SecurityDetectionStatus) (reviewerUserId : String)
      (note : Option String) (now : Int)

inductive DetectionError where
  | notAtoKind | transactionAborted | database
deriving DecidableEq

inductive IngestOutcome where
  | created | merged
deriving DecidableEq

inductive DetectionAnswer where
  | ingested (outcome : IngestOutcome) (id : String) (occurrenceCount : Nat)
  | moved (source target : SecurityDetectionStatus)
  | notFound
  | refused (error : DetectionTransitionError)
  | threw (error : DetectionError)
deriving DecidableEq

inductive DetectionStage where
  | finding (candidate : DetectionCandidate) (engineVersion : Option String) (now : Int)
  | merging (candidate : DetectionCandidate) (id : String) (occurrenceCount : Nat) (now : Int)
  | creating (candidate : DetectionCandidate) (engineVersion : Option String) (now : Int)
  | mergingAgain
  | reviewing (id : String) (target : SecurityDetectionStatus) (reviewerUserId : String)
      (note : Option String) (now : Int)
  | writing (id : String) (source target : SecurityDetectionStatus) (reviewerUserId : String)
      (note : Option String) (now : Int)
  | ended (answer : DetectionAnswer)
  | dead
deriving DecidableEq

/-- A statement runs, with the id that it would draw, throws, or its process dies before it. -/
inductive DetectionChoice where
  | runs (id : String)
  | throws
  | dies

def enterDetection (_ : DetectionDatabase) : DetectionRequest → DetectionStage
  | .ingest candidate engineVersion now =>
    if isAtoDetectionKind candidate.kind then .finding candidate engineVersion now
    else .ended (.threw .notAtoKind)
  | .review id target reviewerUserId note now => .reviewing id target reviewerUserId note now

def SecurityDetection.isActiveOf (detection : SecurityDetection) (dedupeKey : String) : Bool :=
  detection.dedupeKey == some dedupeKey && activeDetectionStatus detection.status

def DetectionCandidate.detection (candidate : DetectionCandidate) (engineVersion : Option String)
    (now : Int) : SecurityDetection where
  subjectType := candidate.subjectType
  subjectId := candidate.subjectId
  brandId := candidate.brandId
  kind := candidate.kind
  severity := candidate.severity
  status := .opened
  confidence := candidate.confidence
  source := candidate.source
  dedupeKey := some candidate.dedupeKey
  reasonCode := candidate.kind
  occurrenceCount := 1
  lastObservedAt := some now
  detectedAt := now
  detectedByEngine := engineVersion
  reviewedByUserId := none
  reviewedAt := none
  resolutionNote := none
  resolvedAt := none

def SecurityDetection.reviewed (detection : SecurityDetection) (target : SecurityDetectionStatus)
    (reviewerUserId : String) (note : Option String) (now : Int) : SecurityDetection :=
  { detection with
    status := target
    reviewedByUserId := some reviewerUserId
    reviewedAt := some now
    resolutionNote :=
      match note.filter (· ≠ "") with
      | some note => some (String.ofList (sliceUnits 500 note.toList))
      | none => detection.resolutionNote
    resolvedAt := if target = .resolved then some now else detection.resolvedAt }

namespace DetectionDatabase

variable (state : DetectionDatabase)

def findActive (dedupeKey : String) : Option (String × SecurityDetection) :=
  state.detections.rows.find? fun row => row.2.isActiveOf dedupeKey

def findingStage (candidate : DetectionCandidate) (engineVersion : Option String) (now : Int) :
    DetectionStage :=
  match state.findActive candidate.dedupeKey with
  | some (id, existing) => .merging candidate id existing.occurrenceCount now
  | none => .creating candidate engineVersion now

/-- The update finds the detection by its id alone, and the answer counts from what was read. -/
def merge (id : String) (occurrenceCount : Nat) (now : Int) : DetectionDatabase × DetectionStage :=
  ({ state with
      detections := state.detections.modify id fun row =>
        { row with occurrenceCount := row.occurrenceCount + 1, lastObservedAt := some now } },
    .ended (.ingested .merged id (occurrenceCount + 1)))

/-- An insertion that the unique index refuses has failed, and its transaction with it. -/
def create (candidate : DetectionCandidate) (engineVersion : Option String) (now : Int)
    (id : String) : DetectionDatabase × DetectionStage :=
  if (state.findActive candidate.dedupeKey).isSome then (state, .mergingAgain)
  else if (state.detections.find? id).isSome then (state, .ended (.threw .database))
  else
    ({ state with
        detections := state.detections.insert id (candidate.detection engineVersion now)
        audits := state.audits ++ [⟨"security.detection.opened", none, id⟩] },
      .ended (.ingested .created id 1))

def reviewingStage (id : String) (target : SecurityDetectionStatus) (reviewerUserId : String)
    (note : Option String) (now : Int) : DetectionStage :=
  match state.detections.find? id with
  | none => .ended .notFound
  | some current =>
    match applyDetectionTransition current.status target with
    | .error error => .ended (.refused error)
    | .ok () => .writing id current.status target reviewerUserId note now

/-- The update is guarded by the status that was read; its count is not looked at. -/
def writeReview (id : String) (source target : SecurityDetectionStatus) (reviewerUserId : String)
    (note : Option String) (now : Int) : DetectionDatabase × DetectionStage :=
  ({ state with
      detections := state.detections.modify id fun row =>
        if row.status = source then row.reviewed target reviewerUserId note now else row
      audits := state.audits ++
        [⟨detectionTransitionAuditEvent target, some reviewerUserId, id⟩] },
    .ended (.moved source target))

def statement (drawn : String) : DetectionStage → DetectionDatabase × DetectionStage
  | .finding candidate engineVersion now => (state, state.findingStage candidate engineVersion now)
  | .merging _ id occurrenceCount now => state.merge id occurrenceCount now
  | .creating candidate engineVersion now => state.create candidate engineVersion now drawn
  -- the search of the second merge runs in the transaction that has failed
  | .mergingAgain => (state, .ended (.threw .transactionAborted))
  | .reviewing id target reviewerUserId note now =>
    (state, state.reviewingStage id target reviewerUserId note now)
  | .writing id source target reviewerUserId note now =>
    state.writeReview id source target reviewerUserId note now
  | .ended answer => (state, .ended answer)
  | .dead => (state, .dead)

end DetectionDatabase

def DetectionStage.afterThrow : DetectionStage → DetectionStage
  | .ended answer => .ended answer
  | .dead => .dead
  | _ => .ended (.threw .database)

def DetectionStage.afterDeath : DetectionStage → DetectionStage
  | .ended answer => .ended answer
  | _ => .dead

def detectionProgram :
    Interleaving.Program DetectionDatabase DetectionRequest DetectionStage DetectionChoice
      Empty where
  enter := enterDetection
  statement := fun state _ stage choice =>
    match choice with
    | .runs id => state.statement id stage
    | .throws => (state, stage.afterThrow)
    | .dies => (state, stage.afterDeath)
  occur := fun state _ => state

end Tamanor.Db
