import Tamanor.Core.CyberbullyingComplianceProperties
import Tamanor.Db.CyberbullyingRedaction

/-! What a verified export manifest vouches for. Its own hash binds the hashes that it holds, but
nothing is read again of what they are the hashes of. -/

set_option autoImplicit false

namespace Tamanor.Db

open Tamanor.Core Library

variable {digest : Text → String} {actor viewer : IncidentActorContext}
  {authorizationId manifestId : String} {authorization : ExportAuthorization}
  {report : ComplianceSnapshot} {key : Option String} {packageVersion : Nat}
  {previousManifestHash : Option String} {preparedAt : Int} {manifest tampered : ExportManifest}
  {altered : ComplianceDatabase}

def approvedHash (digest : Text → String) (authorization : ExportAuthorization)
    (authorizationId reportHash : String) : String :=
  digest (canonicalStringify (buildAuthorizationHashInput
    (({ authorization with status := .approved } : ExportAuthorization).facts authorizationId
      reportHash)))

def ComplianceDatabase.precedingHash (state : ComplianceDatabase) (manifest : ExportManifest) :
    Option String :=
  ((state.packageManifests manifest.incidentId manifest.reportId).find? fun other =>
    other.packageVersion + 1 == manifest.packageVersion).map (·.manifestHash)

structure ManifestVouches (digest : Text → String) (state : ComplianceDatabase)
    (manifest : ExportManifest) : Prop where
  report : ∃ report, state.snapshots.find? manifest.reportId = some report ∧
    computeComplianceHashHex digest report.snapshotPayload report.previousSnapshotHash =
      some manifest.reportSnapshotHash
  authorization : ∃ authorization,
    state.authorizations.find? manifest.authorizationId = some authorization ∧
      manifest.authorizationHash =
        approvedHash digest authorization manifest.authorizationId manifest.reportSnapshotHash
  preceding : manifest.previousManifestHash = state.precedingHash manifest

structure PreparedManifest (digest : Text → String) (actor : IncidentActorContext)
    (authorizationId : String) (authorization : ExportAuthorization) (report : ComplianceSnapshot)
    (key : Option String) (packageVersion : Nat) (previousManifestHash : Option String)
    (preparedAt : Int) (manifest : ExportManifest) : Prop where
  built : exportManifest digest actor authorizationId authorization report key packageVersion
    previousManifestHash preparedAt = some manifest
  verified : ComplianceDatabase.reportFailure digest report = none
  approved : authorization.status = .approved
  distinct : report.snapshotPayload.distinct

/-- The row of a manifest with the hash and the references that it was prepared with. -/
structure StoredManifest (altered : ComplianceDatabase) (manifestId : String)
    (manifest tampered : ExportManifest) : Prop where
  found : altered.manifests.find? manifestId = some tampered
  manifestHash : tampered.manifestHash = manifest.manifestHash
  reportId : tampered.reportId = manifest.reportId
  authorizationId : tampered.authorizationId = manifest.authorizationId

structure SourcesUnaltered (altered : ComplianceDatabase) (authorization : ExportAuthorization)
    (report : ComplianceSnapshot) (manifest tampered : ExportManifest) : Prop where
  sameReport : ∃ row, altered.snapshots.find? manifest.reportId = some row ∧
    (buildComplianceHashInput row.snapshotPayload row.previousSnapshotHash).map
        canonicalStringify =
      (buildComplianceHashInput report.snapshotPayload report.previousSnapshotHash).map
        canonicalStringify
  sameAuthorization : ∃ row, altered.authorizations.find? manifest.authorizationId = some row ∧
    ({ row with status := .approved } : ExportAuthorization).facts manifest.authorizationId
        report.snapshotHash =
      authorization.facts manifest.authorizationId report.snapshotHash
  samePreceding : altered.precedingHash tampered = manifest.previousManifestHash

theorem copy_of_printedCopy {fields others : List (String × JsonValue)}
    (same : printedCopy (.obj fields) = printedCopy (.obj others)) (name : String)
    (value other : JsonValue) (own : isOwnField name = true)
    (only : ∀ found, (name, found) ∈ others → found = other) (member : (name, value) ∈ fields) :
    printedCopy other = printedCopy value := by
  obtain ⟨found, isFound, sameCopy⟩ := mem_of_printedCopy_eq name value same member own
  rw [← only found isFound, sameCopy]

theorem text_of_printedCopy {fields others : List (String × JsonValue)}
    (same : printedCopy (.obj fields) = printedCopy (.obj others)) (name first second : String)
    (own : isOwnField name = true)
    (only : ∀ found, (name, found) ∈ others → found = .str second)
    (member : (name, .str first) ∈ fields) : second = first := by
  have copies := copy_of_printedCopy same name (.str first) (.str second) own only member
  cases copies
  rfl

theorem authorizationFacts_injective {first second : AuthorizationFacts}
    (same : canonicalStringify (buildAuthorizationHashInput first) =
      canonicalStringify (buildAuthorizationHashInput second)) : second = first := by
  have copies := printedCopy_eq same
  unfold buildAuthorizationHashInput at copies
  obtain ⟨authorizationId, reportId, reportHash, purposeCode, recipientType, requestedBy,
    approvedBy, requestedAt, approvedAt, expiresAt, status⟩ := first
  obtain ⟨otherId, otherReport, otherHash, otherPurpose, otherRecipient, otherRequester,
    otherApprover, otherRequestedAt, otherApprovedAt, otherExpiry, otherStatus⟩ := second
  dsimp only at copies
  obtain rfl := text_of_printedCopy copies "authorizationId" authorizationId otherId
    (by decide) (by simp) (by simp)
  obtain rfl := text_of_printedCopy copies "reportId" reportId otherReport
    (by decide) (by simp) (by simp)
  obtain rfl := text_of_printedCopy copies "reportHash" reportHash otherHash
    (by decide) (by simp) (by simp)
  obtain rfl := text_of_printedCopy copies "purposeCode" purposeCode otherPurpose
    (by decide) (by simp) (by simp)
  obtain rfl := text_of_printedCopy copies "recipientType" recipientType otherRecipient
    (by decide) (by simp) (by simp)
  obtain rfl := text_of_printedCopy copies "requestedByUserId" requestedBy otherRequester
    (by decide) (by simp) (by simp)
  obtain rfl := text_of_printedCopy copies "requestedAt" requestedAt otherRequestedAt
    (by decide) (by simp) (by simp)
  obtain rfl := text_of_printedCopy copies "expiresAt" expiresAt otherExpiry
    (by decide) (by simp) (by simp)
  obtain rfl := text_of_printedCopy copies "status" status otherStatus
    (by decide) (by simp) (by simp)
  obtain rfl := textOrNull_injective (copy_of_printedCopy copies "approvedByUserId"
    (textOrNull approvedBy) (textOrNull otherApprover) (by decide) (by simp) (by simp))
  obtain rfl := textOrNull_injective (copy_of_printedCopy copies "approvedAt"
    (textOrNull approvedAt) (textOrNull otherApprovedAt) (by decide) (by simp) (by simp))
  rfl

theorem manifestFacts_bind {first second : ManifestFacts}
    (same : canonicalStringify (buildManifestHashInput first) =
      canonicalStringify (buildManifestHashInput second)) :
    second.reportHash = first.reportHash ∧ second.authorizationHash = first.authorizationHash ∧
      second.previousManifestHash = first.previousManifestHash := by
  have copies := printedCopy_eq same
  unfold buildManifestHashInput at copies
  have reportHash := text_of_printedCopy copies "reportHash" first.reportHash second.reportHash
    (by decide) (by simp [mem_property]) (by simp)
  have authorizationHash := text_of_printedCopy copies "authorizationHash"
    first.authorizationHash second.authorizationHash (by decide) (by simp [mem_property]) (by simp)
  have previousHash := copy_of_printedCopy copies "previousManifestHash"
    (textOrNull first.previousManifestHash) (textOrNull second.previousManifestHash) (by decide)
    (by simp [mem_property]) (by simp)
  exact ⟨reportHash, authorizationHash, textOrNull_injective previousHash⟩

theorem verified_of_verifyManifest
    (verified : altered.verifyManifest digest viewer manifestId = .ok .verified)
    (found : altered.manifests.find? manifestId = some tampered) :
    ∃ identity, digest (canonicalStringify (buildManifestHashInput
      ⟨identity, tampered.reportSnapshotHash, tampered.authorizationHash,
        tampered.redactionRuleSetHash, tampered.purposeCode, tampered.recipientType,
        toISOString tampered.preparedAt, tampered.packageVersion, tampered.previousManifestHash,
        tampered.manifestPayload⟩)) = tampered.manifestHash := by
  unfold ComplianceDatabase.verifyManifest at verified
  rw [found] at verified
  dsimp only at verified
  split at verified
  · cases verified
  split at verified
  · cases verified
  split at verified
  · cases verified
  split at verified
  · cases verified
  split at verified
  · cases verified
  split at verified
  · cases verified
  next identity _ =>
    split at verified
    next same => exact ⟨identity, same⟩
    · cases verified

theorem hash_of_reportFailure (verified : ComplianceDatabase.reportFailure digest report = none) :
    computeComplianceHashHex digest report.snapshotPayload report.previousSnapshotHash =
      some report.snapshotHash := by
  unfold ComplianceDatabase.reportFailure at verified
  split at verified
  · cases verified
  split at verified
  · cases verified
  next status isStatus =>
    split at verified
    · cases verified
    next isVerified =>
      rw [not_not.mp isVerified] at isStatus
      exact verified_of_verifyPayload isStatus

theorem exportManifest_spec
    (built : exportManifest digest actor authorizationId authorization report key packageVersion
      previousManifestHash preparedAt = some manifest) :
    ∃ payload, manifestPayload actor authorizationId authorization report packageVersion
        preparedAt = some payload ∧ manifest.manifestPayload = payload.column ∧
      manifest.reportId = authorization.reportId ∧ manifest.authorizationId = authorizationId ∧
      manifest.reportSnapshotHash = report.snapshotHash ∧
      manifest.schemaVersion = complianceSchemaVersion ∧
      manifest.authorizationHash = digest (canonicalStringify (buildAuthorizationHashInput
        (authorization.facts authorizationId report.snapshotHash))) ∧
      manifest.manifestHash = digest (canonicalStringify (buildManifestHashInput
        ⟨some (.str (packageId authorization.incidentId authorization.reportId packageVersion)),
          manifest.reportSnapshotHash, manifest.authorizationHash, manifest.redactionRuleSetHash,
          manifest.purposeCode, manifest.recipientType, toISOString manifest.preparedAt,
          manifest.packageVersion, manifest.previousManifestHash, payload⟩)) := by
  obtain ⟨payload, isPayload, rfl⟩ := Option.map_eq_some_iff.mp built
  exact ⟨payload, isPayload, rfl, rfl, rfl, rfl, rfl, rfl, rfl⟩

theorem vouches_iff_of_stored (injective : Function.Injective digest)
    (prepared : PreparedManifest digest actor authorizationId authorization report key
      packageVersion previousManifestHash preparedAt manifest)
    (stored : StoredManifest altered manifestId manifest tampered)
    (verified : altered.verifyManifest digest viewer manifestId = .ok .verified) :
    ManifestVouches digest altered tampered ↔
      SourcesUnaltered altered authorization report manifest tampered := by
  obtain ⟨payload, _, _, _, isAuthorization, reportHash, _, authorizationHash, manifestHash⟩ :=
    exportManifest_spec prepared.built
  obtain ⟨identity, recomputed⟩ := verified_of_verifyManifest verified stored.found
  rw [stored.manifestHash, manifestHash] at recomputed
  obtain ⟨sameReport, sameAuthorization, samePrevious⟩ := manifestFacts_bind (injective recomputed)
  dsimp only at sameReport sameAuthorization samePrevious
  have hashes := hash_of_reportFailure prepared.verified
  have approvedFacts : authorization.facts manifest.authorizationId report.snapshotHash =
      authorization.facts authorizationId report.snapshotHash := by
    rw [isAuthorization]
  constructor
  · intro vouches
    obtain ⟨row, isRow, rowHash⟩ := vouches.report
    obtain ⟨other, isOther, otherHash⟩ := vouches.authorization
    refine ⟨⟨row, stored.reportId ▸ isRow, ?_⟩, ⟨other, stored.authorizationId ▸ isOther, ?_⟩, ?_⟩
    · rw [← sameReport, reportHash, ← hashes] at rowHash
      unfold computeComplianceHashHex at rowHash
      have maps : ∀ input : Option JsonValue,
          (input.map fun value => digest (canonicalStringify value)) =
            (input.map canonicalStringify).map digest := by
        intro input
        rw [Option.map_map]
        rfl
      rw [maps, maps] at rowHash
      exact Option.map_injective injective rowHash
    · rw [← sameAuthorization, authorizationHash, ← sameReport, reportHash,
        stored.authorizationId] at otherHash
      rw [approvedFacts]
      exact authorizationFacts_injective (injective otherHash)
    · rw [← vouches.preceding]
      exact samePrevious.symm
  · intro sources
    obtain ⟨row, isRow, rowSame⟩ := sources.sameReport
    obtain ⟨other, isOther, otherSame⟩ := sources.sameAuthorization
    refine ⟨⟨row, stored.reportId.symm ▸ isRow, ?_⟩,
      ⟨other, stored.authorizationId.symm ▸ isOther, ?_⟩, ?_⟩
    · rw [← sameReport, reportHash, ← hashes]
      unfold computeComplianceHashHex
      have mapped := congrArg (Option.map digest) rowSame
      rw [Option.map_map, Option.map_map] at mapped
      exact mapped
    · rw [← sameAuthorization, authorizationHash, ← sameReport, reportHash,
        stored.authorizationId]
      unfold approvedHash
      rw [otherSame, approvedFacts]
    · rw [sources.samePreceding]
      exact samePrevious.symm

/-! A prepared manifest that nobody alters. -/

theorem clean_sectionLength {payload : JsonValue} {name : String} {length : Option JsonValue}
    (distinct : payload.distinct) (isLength : sectionLength payload name = some length) :
    ∀ value, length = some value → value.distinct := by
  unfold sectionLength at isLength
  rintro value rfl
  split at isLength
  · cases isLength
  · cases isLength
  · cases isLength
    trivial
  · cases isLength
    trivial
  next section_ isSection =>
    exact Json.distinct_field? (Json.distinct_field? distinct isSection) (Option.some.inj isLength)

theorem distinct_readProperty {value read : Option JsonValue} {name : String}
    (distinct : ∀ object, value = some object → object.distinct)
    (reads : readProperty value name = some read) :
    ∀ object, read = some object → object.distinct := by
  obtain ⟨object, isObject, rfl⟩ := readProperty_some reads
  exact fun found isFound => Json.distinct_field? (distinct object isObject) isFound

theorem distinct_property {value : Option JsonValue} (name : String)
    (distinct : ∀ object, value = some object → object.distinct) :
    ∀ field ∈ property name value, field.2.distinct :=
  fun field member => distinct field.2 (mem_property.mp member).2

theorem distinct_of_names {fields : List (String × JsonValue)} (names : List String)
    (sublist : (fields.map Prod.fst).Sublist names)
    (different : names.Nodup) (distinct : ∀ field ∈ fields, field.2.distinct) :
    (Json.obj fields).distinct :=
  ⟨different.sublist sublist, Json.distinctFields_iff.mpr distinct⟩

theorem manifestPayload_spec {payload : JsonValue}
    (isPayload : manifestPayload actor authorizationId authorization report packageVersion
      preparedAt = some payload) (distinct : report.snapshotPayload.distinct) :
    payload.distinct ∧ readProperty (some payload) "packageId" = some (some (.str
      (packageId authorization.incidentId authorization.reportId packageVersion))) := by
  unfold manifestPayload at isPayload
  obtain ⟨evidenceItems, isEvidence, isPayload⟩ := Option.bind_eq_some_iff.mp isPayload
  obtain ⟨custodyEvents, isCustody, isPayload⟩ := Option.bind_eq_some_iff.mp isPayload
  obtain ⟨chronologyEvents, isChronology, isPayload⟩ := Option.bind_eq_some_iff.mp isPayload
  obtain ⟨integrity, readsIntegrity, isPayload⟩ := Option.bind_eq_some_iff.mp isPayload
  obtain ⟨coverage, readsCoverage, isPayload⟩ := Option.bind_eq_some_iff.mp isPayload
  obtain ⟨verified, readsVerified, isPayload⟩ := Option.bind_eq_some_iff.mp isPayload
  obtain ⟨failed, readsFailed, isPayload⟩ := Option.bind_eq_some_iff.mp isPayload
  obtain rfl := Option.some.inj isPayload
  have clean : ∀ object, some report.snapshotPayload = some object → object.distinct := by
    rintro object ⟨⟩
    exact distinct
  have cleanIntegrity := distinct_readProperty clean readsIntegrity
  have summary : (Json.obj (property "evidenceHashCoverage" coverage ++
      property "evidenceIntegrityVerified" verified ++
      property "evidenceIntegrityFailed" failed)).distinct := by
    refine distinct_of_names ["evidenceHashCoverage", "evidenceIntegrityVerified",
      "evidenceIntegrityFailed"] ?_ (by decide +kernel) ?_
    · rw [List.map_append, List.map_append]
      exact ((property_names _ _).append (property_names _ _)).append (property_names _ _)
    · intro field member
      simp only [List.mem_append] at member
      rcases member with (member | member) | member
      · exact distinct_property _ (distinct_readProperty cleanIntegrity readsCoverage) _ member
      · exact distinct_property _ (distinct_readProperty cleanIntegrity readsVerified) _ member
      · exact distinct_property _ (distinct_readProperty cleanIntegrity readsFailed) _ member
  refine ⟨?_, rfl⟩
  refine distinct_of_names ["packageId", "packageVersion", "schemaVersion", "sourceReportId",
    "sourceReportHash", "redactionState", "redactionRuleSetHash", "authorizationId",
    "authorizationPurpose", "recipientType", "authorizationExpiry", "preparedAt",
    "preparedByUserId", "reportSchemaVersion", "includedSections", "excludedSections",
    "evidenceItemCount", "custodyEventCount", "chronologyEventCount", "integritySummary",
    "verificationResult"] ?_ (by decide +kernel) ?_
  · simp only [List.map_append]
    exact ((((List.Sublist.refl _).append (property_names _ _)).append
      (property_names _ _)).append (property_names _ _)).append (List.Sublist.refl _)
  · intro field member
    simp only [List.mem_append] at member
    rcases member with (((member | member) | member) | member) | member
    · have sections : (.arr (includedSections.map .str) : JsonValue).distinct := by
        refine Json.distinctItems_iff.mpr fun item isItem => ?_
        obtain ⟨name, _, rfl⟩ := List.mem_map.mp isItem
        trivial
      have ruleSet : (textOrNull report.redactionRuleSetHash).distinct := by
        cases report.redactionRuleSetHash <;> trivial
      simp only [List.mem_cons, List.not_mem_nil, or_false] at member
      rcases member with rfl | rfl | rfl | rfl | rfl | rfl | rfl | rfl | rfl | rfl | rfl | rfl |
        rfl | rfl | rfl | rfl
      all_goals trivial
    · exact distinct_property _ (clean_sectionLength distinct isEvidence) _ member
    · exact distinct_property _ (clean_sectionLength distinct isCustody) _ member
    · exact distinct_property _ (clean_sectionLength distinct isChronology) _ member
    · simp only [List.mem_cons, List.not_mem_nil, or_false] at member
      rcases member with rfl | rfl
      · exact summary
      · trivial

theorem manifestText_column (facts : ManifestFacts) (distinct : facts.manifestPayload.distinct) :
    canonicalStringify (buildManifestHashInput
        { facts with manifestPayload := facts.manifestPayload.column }) =
      canonicalStringify (buildManifestHashInput facts) := by
  have shape : ∀ value, (buildManifestHashInput { facts with manifestPayload := value }) =
      .obj (property "manifestIdentity" facts.manifestIdentity ++
        [("reportHash", .str facts.reportHash),
          ("authorizationHash", .str facts.authorizationHash),
          ("redactionRuleSetHash", textOrNull facts.redactionRuleSetHash),
          ("purposeCode", .str facts.purposeCode), ("recipientType", .str facts.recipientType),
          ("preparedAt", .str facts.preparedAt),
          ("packageVersion", .num (.ofNat facts.packageVersion)),
          ("previousManifestHash", textOrNull facts.previousManifestHash)] ++
        ("manifestPayload", value) :: []) := by
    intro value
    rw [List.append_assoc]
    rfl
  rw [shape, canonicalStringify_column "manifestPayload" distinct, ← shape]

theorem verifies_of_untampered
    (prepared : PreparedManifest digest actor authorizationId authorization report key
      packageVersion previousManifestHash preparedAt manifest)
    (found : altered.manifests.find? manifestId = some manifest)
    {row : ComplianceSnapshot} (isRow : altered.snapshots.find? manifest.reportId = some row)
    (sameHash : row.snapshotHash = report.snapshotHash)
    (allowed : mayRequestExport viewer.role = true)
    (inScope : altered.scopeFailure viewer manifest.incidentId = none) :
    altered.verifyManifest digest viewer manifestId = .ok .verified := by
  obtain ⟨payload, isPayload, stored, _, _, reportHash, schema, _, manifestHash⟩ :=
    exportManifest_spec prepared.built
  obtain ⟨distinct, identity⟩ := manifestPayload_spec isPayload prepared.distinct
  have storedIdentity : readProperty (some manifest.manifestPayload) "packageId" =
      some (some (.str (packageId authorization.incidentId authorization.reportId
        packageVersion))) := by
    obtain ⟨object, isObject, isField⟩ := readProperty_some identity
    cases isObject
    have field := Json.field?_column distinct "packageId"
    rw [isField] at field
    rw [stored]
    cases payload with
    | obj fields => exact congrArg some field
    | _ => cases isField
  have sameText := manifestText_column
    ⟨some (.str (packageId authorization.incidentId authorization.reportId packageVersion)),
      manifest.reportSnapshotHash, manifest.authorizationHash, manifest.redactionRuleSetHash,
      manifest.purposeCode, manifest.recipientType, toISOString manifest.preparedAt,
      manifest.packageVersion, manifest.previousManifestHash, payload⟩ distinct
  dsimp only at sameText
  rw [← stored] at sameText
  unfold ComplianceDatabase.verifyManifest
  rw [allowed, found]
  dsimp only
  rw [inScope, isRow, storedIdentity]
  dsimp only
  rw [if_neg (not_not.mpr schema), if_neg (not_not.mpr (sameHash.trans reportHash.symm)), sameText,
    ← manifestHash, if_pos rfl]
  rfl

theorem approved_of_mayPrepare {readAt : Int} {givenKey : Option String}
    (mayPrepare : ComplianceDatabase.authorizationFailure actor authorization readAt
      (.prepare givenKey) = none) : authorization.status = .approved := by
  unfold ComplianceDatabase.authorizationFailure at mayPrepare
  dsimp only at mayPrepare
  split at mayPrepare
  · cases mayPrepare
  next approved => exact not_not.mp approved

theorem verified_of_allocates {before : ComplianceDatabase} {stage : ComplianceStage}
    (allocates : before.allocatingManifestStage digest actor authorizationId authorization key =
      stage) (isInserting : ∀ answer, stage ≠ .ended answer) :
    ∃ report, before.snapshots.find? authorization.reportId = some report ∧
      ComplianceDatabase.reportFailure digest report = none := by
  unfold ComplianceDatabase.allocatingManifestStage at allocates
  split at allocates
  · exact absurd allocates.symm (isInserting _)
  split at allocates
  · exact absurd allocates.symm (isInserting _)
  next report isReport =>
    split at allocates
    · exact absurd allocates.symm (isInserting _)
    next verified => exact ⟨report, isReport, verified⟩

theorem insertManifest_spec {state next : ComplianceDatabase} {draw : ComplianceDraw}
    (prepares : state.insertManifest digest actor authorizationId authorization key packageVersion
      previousManifestHash draw = (next, .ended (.done manifestId)))
    (isReport : state.snapshots.find? authorization.reportId = some report) :
    ∃ manifest, next.manifests.find? manifestId = some manifest ∧
      exportManifest digest actor authorizationId authorization report key packageVersion
        previousManifestHash draw.now = some manifest := by
  unfold ComplianceDatabase.insertManifest at prepares
  rw [isReport] at prepares
  dsimp only at prepares
  split at prepares
  · cases prepares
  next manifest isManifest =>
    split at prepares
    · cases prepares
    next fresh =>
      obtain ⟨rfl, sameId⟩ := Prod.mk.inj prepares
      cases sameId
      rw [Bool.or_eq_true, not_or] at fresh
      exact ⟨manifest, Table.find?_insert_self (Option.not_isSome_iff_eq_none.mp fresh.2),
        isManifest⟩

/-- A verified manifest that is stored as it was prepared vouches for its report, its
authorization and the manifest before it exactly if these are what they were; and a manifest that
nobody alters is verified. -/
theorem vouches_iff_sourcesUnaltered (injective : Function.Injective digest)
    {before state next : ComplianceDatabase} {readAt : Int} {draw : ComplianceDraw}
    {givenKey : Option String}
    (mayPrepare : ComplianceDatabase.authorizationFailure actor authorization readAt
      (.prepare givenKey) = none)
    (allocates : before.allocatingManifestStage digest actor authorizationId authorization key =
      .insertingManifest actor authorizationId authorization key packageVersion
        previousManifestHash)
    (isReport : state.snapshots.find? authorization.reportId = some report)
    (sameReport : before.snapshots.find? authorization.reportId = some report)
    (distinct : report.snapshotPayload.distinct)
    (prepares : state.insertManifest digest actor authorizationId authorization key packageVersion
      previousManifestHash draw = (next, .ended (.done manifestId))) :
    ∃ manifest, next.manifests.find? manifestId = some manifest ∧
      (∀ altered viewer tampered, StoredManifest altered manifestId manifest tampered →
        altered.verifyManifest digest viewer manifestId = .ok .verified →
        (ManifestVouches digest altered tampered ↔
          SourcesUnaltered altered authorization report manifest tampered)) ∧
      ∀ (altered : ComplianceDatabase) (viewer : IncidentActorContext) (row : ComplianceSnapshot),
        altered.manifests.find? manifestId = some manifest →
        altered.snapshots.find? manifest.reportId = some row →
        row.snapshotHash = report.snapshotHash → mayRequestExport viewer.role = true →
        altered.scopeFailure viewer manifest.incidentId = none →
        altered.verifyManifest digest viewer manifestId = .ok .verified := by
  obtain ⟨manifest, found, built⟩ := insertManifest_spec prepares isReport
  obtain ⟨checked, isChecked, verified⟩ :=
    verified_of_allocates allocates fun answer same => by cases same
  obtain rfl := Option.some.inj (isChecked.symm.trans sameReport)
  have prepared : PreparedManifest digest actor authorizationId authorization checked key
      packageVersion previousManifestHash draw.now manifest :=
    ⟨built, verified, approved_of_mayPrepare mayPrepare, distinct⟩
  refine ⟨manifest, found, ?_, ?_⟩
  · intro altered viewer tampered stored isVerified
    exact vouches_iff_of_stored injective prepared stored isVerified
  · intro altered viewer row isStored isRow sameHash allowed inScope
    exact verifies_of_untampered prepared isStored isRow sameHash allowed inScope

/-! A report of which the category has been altered after it was exported. -/

section

variable (category : String)

def samplePayload : JsonValue :=
  .obj [("chronology", .arr []), ("custodySummary", .arr []), ("evidenceInventory", .arr []),
    ("incident", .obj [("category", .str category)]), ("integrity", .obj []),
    ("reportMetadata", .obj [])]

def sampleReport : ComplianceSnapshot where
  incidentId := "incident"
  reportType := .caseSummary
  version := 1
  schemaVersion := complianceSchemaVersion
  redactionState := .redacted
  generatedByUserId := "approver"
  snapshotHash := ((computeComplianceHashHex String.ofList (samplePayload "threat") none).getD "")
  previousSnapshotHash := none
  snapshotPayload := samplePayload category
  idempotencyKey := none
  sourceReportId := none
  redactionDraftId := none
  redactionRuleSetHash := none
  approvedByUserId := some "approver"

def sampleAuthorization : ExportAuthorization where
  incidentId := "incident"
  reportId := "report"
  status := .approved
  purposeCode := "LEGAL_REVIEW"
  recipientType := "LEGAL_COUNSEL"
  requestedByUserId := "reviewer"
  approvedByUserId := some "approver"
  requestedAt := 0
  approvedAt := some 1
  expiresAt := 604800000
  idempotencyKey := none

def sampleCompliance (manifests : Table String ExportManifest) : ComplianceDatabase where
  scopes := fun _ => some ⟨none, []⟩
  snapshots := Table.empty.insert "report" (sampleReport category)
  drafts := Table.empty
  rules := Table.empty
  authorizations := Table.empty.insert "authorization" sampleAuthorization
  manifests := manifests
  history := []

def sampleExporter : IncidentActorContext := ⟨"tenant", "exporter", .owner⟩

def sampleSection : CleanJson := ⟨.null, null_isClean⟩

def sampleDraw (id : String) (now : Int) : ComplianceDraw where
  id := id
  now := now
  sections :=
    ⟨"", "open", "high", "threat", none, "", none, 0, 0, 0, sampleSection, sampleSection,
      sampleSection, sampleSection, sampleSection, sampleSection, sampleSection, sampleSection,
      sampleSection⟩

def samplePrepared : ComplianceDatabase × ComplianceStage :=
  (sampleCompliance "threat" Table.empty).insertManifest String.ofList sampleExporter
    "authorization" sampleAuthorization none 1 none (sampleDraw "manifest" 2)

theorem sample_names : ["chronology", "custodySummary", "evidenceInventory", "incident",
    "integrity", "reportMetadata"].Nodup := by
  decide +kernel

theorem distinct_samplePayload : (samplePayload category).distinct :=
  ⟨sample_names, trivial, trivial, trivial, ⟨List.nodup_singleton _, trivial, trivial⟩,
    ⟨List.nodup_nil, trivial⟩, ⟨List.nodup_nil, trivial⟩, trivial⟩

/-- The check, the preparation and the hash of the report, and that another category is printed
otherwise. -/
theorem sample_runs :
    (sampleCompliance "threat" Table.empty).allocatingManifestStage String.ofList sampleExporter
        "authorization" sampleAuthorization none =
      .insertingManifest sampleExporter "authorization" sampleAuthorization none 1 none ∧
    samplePrepared.2 = .ended (.done "manifest") ∧
    (computeComplianceHashHex String.ofList (samplePayload "threat") none).isSome = true ∧
    (printedCopy (samplePayload "insult")).print ≠ (printedCopy (samplePayload "threat")).print := by
  decide +kernel

theorem samplePrepared_done : samplePrepared = (samplePrepared.1, .ended (.done "manifest")) :=
  Prod.ext rfl sample_runs.2.1

theorem sample_mayPrepare :
    ComplianceDatabase.authorizationFailure sampleExporter sampleAuthorization 2 (.prepare none) =
      none := rfl

theorem vouches_iff_sourcesUnaltered_sample :
    ∃ manifest, samplePrepared.1.manifests.find? "manifest" = some manifest ∧
      (∀ altered viewer tampered, StoredManifest altered "manifest" manifest tampered →
        altered.verifyManifest String.ofList viewer "manifest" = .ok .verified →
        (ManifestVouches String.ofList altered tampered ↔
          SourcesUnaltered altered sampleAuthorization (sampleReport "threat") manifest
            tampered)) ∧
      ∀ (altered : ComplianceDatabase) (viewer : IncidentActorContext) (row : ComplianceSnapshot),
        altered.manifests.find? "manifest" = some manifest →
        altered.snapshots.find? manifest.reportId = some row →
        row.snapshotHash = (sampleReport "threat").snapshotHash →
        mayRequestExport viewer.role = true →
        altered.scopeFailure viewer manifest.incidentId = none →
        altered.verifyManifest String.ofList viewer "manifest" = .ok .verified :=
  vouches_iff_sourcesUnaltered @String.ofList_injective sample_mayPrepare sample_runs.1 rfl rfl
    (distinct_samplePayload "threat") samplePrepared_done

theorem samplePayload_hash : computeComplianceHashHex String.ofList (samplePayload "threat") none =
    some (sampleReport "threat").snapshotHash := by
  cases isHash : computeComplianceHashHex String.ofList (samplePayload "threat") none with
  | none =>
    have defined := sample_runs.2.2.1
    rw [isHash] at defined
    cases defined
  | some hash =>
    unfold sampleReport
    dsimp only
    rw [isHash, Option.getD_some]

/-- The category of the report is another one than was hashed, and its manifest is verified. -/
theorem verified_of_altered_report :
    ¬ ∀ (state : ComplianceDatabase) (viewer : IncidentActorContext) (manifestId : String)
        (manifest : ExportManifest), state.manifests.find? manifestId = some manifest →
      state.verifyManifest String.ofList viewer manifestId = .ok .verified →
        ManifestVouches String.ofList state manifest := by
  intro vouches
  have stored : (sampleCompliance "threat" Table.empty).snapshots.find?
      sampleAuthorization.reportId = some (sampleReport "threat") := rfl
  obtain ⟨manifest, found, built⟩ := insertManifest_spec samplePrepared_done stored
  obtain ⟨report, isReport, verified⟩ :=
    verified_of_allocates sample_runs.1 fun answer same => by cases same
  cases isReport
  obtain ⟨_, _, _, reportId, _, reportHash, _⟩ := exportManifest_spec built
  have prepared : PreparedManifest String.ofList sampleExporter "authorization"
      sampleAuthorization (sampleReport "threat") none 1 none 2 manifest :=
    ⟨built, verified, rfl, distinct_samplePayload "threat"⟩
  have isRow : (sampleCompliance "insult" samplePrepared.1.manifests).snapshots.find?
      manifest.reportId = some (sampleReport "insult") := by
    rw [reportId]
    rfl
  have isVerified : (sampleCompliance "insult" samplePrepared.1.manifests).verifyManifest
      String.ofList sampleExporter "manifest" = .ok .verified :=
    verifies_of_untampered prepared found isRow rfl rfl rfl
  obtain ⟨⟨row, isFound, hashes⟩, _, _⟩ := vouches
    (sampleCompliance "insult" samplePrepared.1.manifests) sampleExporter "manifest" manifest found
    isVerified
  rw [isRow] at isFound
  cases isFound
  rw [reportHash] at hashes
  obtain ⟨same, _⟩ := hash_binds @String.ofList_injective hashes samplePayload_hash
  exact sample_runs.2.2.2 (congrArg Json.print same)

end

end Tamanor.Db
