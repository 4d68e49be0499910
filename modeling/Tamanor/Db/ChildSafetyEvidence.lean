import Tamanor.Core.CyberbullyingRedaction
import Tamanor.Db.DeterministicZip
import Tamanor.Library.CivilDate

/-! The export of an incident's evidence (`child-safety-evidence.ts`): the snapshot of the rows and
of the stored objects, and the package that is built from it. -/

set_option autoImplicit false

namespace Tamanor.Library.Json

def line (indent : Nat) : Text := '\n' :: List.replicate indent ' '

mutual

/-- `JSON.stringify(value, null, 2)`, inside of a value that is indented. -/
def printIndented (indent : Nat) : JsonValue → Text
  | .arr items =>
    if items.isEmpty then "[]".toList
    else '[' :: (printIndentedItems (indent + 2) true items ++ (line indent ++ [']']))
  | .obj fields =>
    if fields.isEmpty then ['\x7b', '\x7d']
    else '\x7b' :: (printIndentedFields (indent + 2) true fields ++ (line indent ++ ['\x7d']))
  | value => value.print

def printIndentedItems (indent : Nat) (first : Bool) : List JsonValue → Text
  | [] => []
  | item :: rest =>
    comma first ++ (line indent ++ (printIndented indent item ++
      printIndentedItems indent false rest))

def printIndentedFields (indent : Nat) (first : Bool) : List (String × JsonValue) → Text
  | [] => []
  | (name, value) :: rest =>
    comma first ++ (line indent ++ (quote name ++ ':' :: ' ' :: (printIndented indent value ++
      printIndentedFields indent false rest)))

end

end Tamanor.Library.Json

namespace Tamanor.Db

open Library

structure EvidenceIncident where
  id : String
  tenantId : String
  status : String
  severity : String
  urgency : String
  riskFamily : String
  signalCount : Nat
  openedAt : Int

structure ChildSafetyEvidence where
  id : String
  tenantId : String
  incidentId : String
  evidenceType : String
  sourceType : String
  label : Option String
  storageKey : Option String
  externalUrl : Option String
  bodyText : Option String
  mimeType : Option String
  sizeBytes : Option Nat
  contentHash : String
  hashAlgorithm : String
  integrityStatus : String
  chainPosition : Nat
  uploaderUserId : Option String
  sealed : Bool
  capturedAt : Int

structure EvidenceCustodyEvent where
  tenantId : String
  evidenceId : String
  eventType : String
  actorUserId : Option String
  actorRole : Option String
  reason : Option String
  createdAt : Int

structure EvidenceDb where
  incidents : List EvidenceIncident
  evidence : List ChildSafetyEvidence
  custodyEvents : List EvidenceCustodyEvent
  ids : (evidence.map (·.id)).Nodup
  chainPositions : (evidence.map fun row => (row.incidentId, row.chainPosition)).Nodup

def isHexDigit (char : Char) : Bool := char.isDigit || (decide ('a' ≤ char) && decide (char ≤ 'f'))

/-- `KEY_RE`. -/
def isStorageKey (key : String) : Bool :=
  let text := key.toList
  decide (text.length = 51) && (text.take 2).all isHexDigit && text[2]? == some '/' &&
    (text.drop 3).all isHexDigit

/-- The files below the root, by their paths. -/
abbrev EvidenceStore := String → Option (List UInt8)

def readEvidenceObject (store : EvidenceStore) (storageKey : String) : Option (List UInt8) :=
  if isStorageKey storageKey then store storageKey else none

def mimeExtension : Option String → String
  | some "image/png" => ".png"
  | some "image/jpeg" => ".jpg"
  | some "image/gif" => ".gif"
  | some "image/webp" => ".webp"
  | some "application/pdf" => ".pdf"
  | some "text/plain" => ".txt"
  | _ => ".bin"

def numberedName (chainPosition : Nat) (id extension : String) : String :=
  "evidence-" ++ padDigits 4 chainPosition ++ "-" ++ id ++ extension

def evidenceExportFilename (evidence : ChildSafetyEvidence) : String :=
  numberedName evidence.chainPosition evidence.id (mimeExtension evidence.mimeType)

namespace ChildSafetyEvidence

def storedKey (row : ChildSafetyEvidence) : Option String := row.storageKey.filter (· ≠ "")

def fileName (row : ChildSafetyEvidence) : Option String :=
  match row.storedKey with
  | some _ => some ("files/" ++ evidenceExportFilename row)
  | none => row.bodyText.map fun _ => "files/" ++ numberedName row.chainPosition row.id ".txt"

def file (store : EvidenceStore) (row : ChildSafetyEvidence) : Option (List UInt8) :=
  match row.storedKey with
  | some key => readEvidenceObject store key
  | none => row.bodyText.map fun text => Base64.utf8Bytes text.toList

end ChildSafetyEvidence

structure EvidenceSnapshotItem where
  row : ChildSafetyEvidence
  file : Option (List UInt8)
  fileName : Option String

def snapshotItem (store : EvidenceStore) (row : ChildSafetyEvidence) : EvidenceSnapshotItem :=
  ⟨row, row.file store, row.fileName⟩

structure EvidencePackageSnapshot where
  incident : EvidenceIncident
  items : List EvidenceSnapshotItem
  custodyByEvidence : List (String × List EvidenceCustodyEvent)

/-- `object[name] = value`. The name of the prototype is no field of the object itself. -/
def assignOwn {α : Type} (fields : List (String × α)) (name : String) (value : α) :
    List (String × α) :=
  if name = "__proto__" then fields
  else if name ∈ fields.map Prod.fst then
    fields.map fun field => if field.1 = name then (name, value) else field
  else fields ++ [(name, value)]

inductive EvidenceExportError where
  | forbidden | notFound | noEvidence | outOfRange
deriving DecidableEq

namespace EvidenceDb

/-- The rows that are asked for; without ids, or with an empty list of them, all of the incident. -/
def listed (db : EvidenceDb) (tenantId incidentId : String) (evidenceIds : Option (List String)) :
    List ChildSafetyEvidence :=
  let requested (id : String) : Bool :=
    match evidenceIds with
    | none | some [] => true
    | some ids => ids.contains id
  (db.evidence.filter fun row =>
    row.tenantId == tenantId && row.incidentId == incidentId && requested row.id).insertionSort
      fun first second => first.chainPosition ≤ second.chainPosition

def custodyOf (db : EvidenceDb) (tenantId evidenceId : String) : List EvidenceCustodyEvent :=
  (db.custodyEvents.filter fun event =>
    event.tenantId == tenantId && event.evidenceId == evidenceId).insertionSort
      fun first second => first.createdAt ≤ second.createdAt

def exportSnapshot (db : EvidenceDb) (store : EvidenceStore) (mayManage : Bool)
    (tenantId incidentId : String) (evidenceIds : Option (List String)) :
    Except EvidenceExportError EvidencePackageSnapshot :=
  if !mayManage then .error .forbidden
  else
    match db.incidents.find? fun row => row.id == incidentId && row.tenantId == tenantId with
    | none => .error .notFound
    | some incident =>
      let rows := db.listed tenantId incidentId evidenceIds
      if rows.isEmpty then .error .noEvidence
      else .ok
        { incident
          items := rows.map (snapshotItem store)
          custodyByEvidence := rows.foldl (fun fields row =>
            assignOwn fields row.id (db.custodyOf tenantId row.id)) [] }

end EvidenceDb

def nullable {α : Type} (toJson : α → JsonValue) : Option α → JsonValue
  | none => .null
  | some value => toJson value

def manifestFields (item : EvidenceSnapshotItem) : JsonValue :=
  .obj [("chainPosition", .num (.ofNat item.row.chainPosition)), ("id", .str item.row.id),
    ("evidenceType", .str item.row.evidenceType), ("sourceType", .str item.row.sourceType),
    ("label", nullable .str item.row.label), ("mimeType", nullable .str item.row.mimeType),
    ("sizeBytes", nullable (fun size => .num (.ofNat size)) item.row.sizeBytes),
    ("contentHash", .str item.row.contentHash), ("hashAlgorithm", .str item.row.hashAlgorithm),
    ("integrityStatus", .str item.row.integrityStatus), ("sealed", .bool item.row.sealed),
    ("uploaderUserId", nullable .str item.row.uploaderUserId),
    ("externalUrl", nullable .str item.row.externalUrl),
    ("capturedAt", .str (toISOString item.row.capturedAt)),
    ("file", nullable .str item.fileName)]

def metadataFields (incident : EvidenceIncident) (evidenceCount : Nat) : JsonValue :=
  .obj [("incident", .obj [("id", .str incident.id), ("status", .str incident.status),
      ("severity", .str incident.severity), ("urgency", .str incident.urgency),
      ("riskFamily", .str incident.riskFamily),
      ("signalCount", .num (.ofNat incident.signalCount)),
      ("openedAt", .str (toISOString incident.openedAt))]),
    ("evidenceCount", .num (.ofNat evidenceCount)), ("hashAlgorithm", .str "sha256")]

def custodyFields (event : EvidenceCustodyEvent) : JsonValue :=
  .obj [("eventType", .str event.eventType), ("actorUserId", nullable .str event.actorUserId),
    ("actorRole", nullable .str event.actorRole), ("reason", nullable .str event.reason),
    ("createdAt", .str (toISOString event.createdAt))]

def stableText (value : JsonValue) : List UInt8 := Base64.utf8Bytes (value.sorted.printIndented 0)

/-- A line of `hashes.txt`: the hash and what it is the hash of. -/
def hashLine (item : EvidenceSnapshotItem) : String :=
  item.row.contentHash ++ "  " ++
    (item.fileName.getD (item.row.externalUrl.getD item.row.id))

namespace EvidencePackageSnapshot

def manifest (snapshot : EvidencePackageSnapshot) : List EvidenceSnapshotItem :=
  snapshot.items.insertionSort fun first second =>
    first.row.chainPosition ≤ second.row.chainPosition

def fileEntry (item : EvidenceSnapshotItem) : Option ZipEntry :=
  match item.file, item.fileName with
  | some data, some name => if name = "" then none else some ⟨name.toList, data⟩
  | _, _ => none

def entries (snapshot : EvidencePackageSnapshot) : List ZipEntry :=
  let items := snapshot.manifest
  [⟨"metadata.json".toList, stableText (metadataFields snapshot.incident items.length)⟩,
    ⟨"manifest.json".toList, stableText (.arr (items.map manifestFields))⟩,
    ⟨"hashes.txt".toList,
      Base64.utf8Bytes ("\n".intercalate (items.map hashLine) ++ "\n").toList⟩,
    ⟨"custody-log.json".toList, stableText (.obj (snapshot.custodyByEvidence.map fun field =>
      (field.1, .arr (field.2.map custodyFields))))⟩] ++ items.filterMap fileEntry

end EvidencePackageSnapshot

def buildEvidencePackage (snapshot : EvidencePackageSnapshot) : Option (List UInt8) :=
  buildDeterministicZip snapshot.entries

structure EvidenceExport where
  filename : String
  bytes : List UInt8
  count : Nat

def exportChildSafetyEvidencePackage (db : EvidenceDb) (store : EvidenceStore) (mayManage : Bool)
    (tenantId incidentId : String) (evidenceIds : Option (List String)) :
    Except EvidenceExportError EvidenceExport := do
  let snapshot ← db.exportSnapshot store mayManage tenantId incidentId evidenceIds
  match buildEvidencePackage snapshot with
  | none => .error .outOfRange
  | some bytes =>
    .ok ⟨"evidence-package-" ++ incidentId ++ ".zip", bytes, snapshot.items.length⟩

/-! What is asked of a package, and of the rows and the store behind it. -/

structure SelfConsistent (sha256 : List UInt8 → String) (snapshot : EvidencePackageSnapshot) :
    Prop where
  distinct : (snapshot.entries.map (·.name)).Nodup
  named : ∀ item ∈ snapshot.manifest, ∀ name ∈ item.fileName,
    snapshot.entries.countP (fun entry => entry.name == name.toList) = 1
  hashed : ∀ item ∈ snapshot.manifest, ∀ entry ∈ snapshot.entries,
    item.fileName.map String.toList = some entry.name →
      item.row.integrityStatus = "failed" ∨ sha256 entry.data = item.row.contentHash
  custody : ∀ id, id ∈ snapshot.custodyByEvidence.map Prod.fst ↔
    id ∈ snapshot.manifest.map (·.row.id)

/-- The object of the row is in the store as it was hashed, or has been found to be damaged, and
the id is a name that an object can have a field of. -/
structure Exportable (sha256 : List UInt8 → String) (store : EvidenceStore)
    (row : ChildSafetyEvidence) : Prop where
  id : row.id ≠ "__proto__"
  stored : row.fileName.isSome = true → ∃ data, row.file store = some data ∧
    (row.integrityStatus = "failed" ∨ sha256 data = row.contentHash)

section
variable {sha256 : List UInt8 → String} {store : EvidenceStore} {row other : ChildSafetyEvidence}
  {name : String} {db : EvidenceDb} {tenantId incidentId : String}
  {evidenceIds : Option (List String)} {snapshot : EvidencePackageSnapshot}

theorem padDigits_toList (width number : Nat) :
    (padDigits width number).toList =
      List.replicate (width - (toString number).length) '0' ++ Nat.toDigits 10 number := by
  rw [padDigits, String.toList_append, String.toList_ofList]
  exact congrArg (_ ++ ·) (String.toList_ofList)

theorem padDigits_clean (width number : Nat) : '-' ∉ (padDigits width number).toList := by
  rw [padDigits_toList, List.mem_append, not_or]
  constructor
  · intro member
    exact absurd (List.eq_of_mem_replicate member) (by decide)
  · intro member
    exact absurd (Nat.isDigit_of_mem_toDigits (by decide) (by decide) member) (by decide)

theorem padDigits_injective (width : Nat) : Function.Injective (padDigits width) := by
  intro first second same
  have read (number : Nat) : Nat.ofDigitChars 10 (padDigits width number).toList 0 = number := by
    rw [padDigits_toList, Nat.ofDigitChars_append, Nat.ofDigitChars_replicate_zero, Nat.mul_zero,
      Nat.ofDigitChars_ten_toDigits]
  rw [← read first, same, read second]

theorem numberedName_position {first second : Nat} {id otherId extension otherExtension : String}
    (same : "files/" ++ numberedName first id extension =
      "files/" ++ numberedName second otherId otherExtension) : first = second := by
  have texts := congrArg String.toList same
  simp only [numberedName, String.toList_append, List.append_assoc] at texts
  have digits := List.append_cancel_left (List.append_cancel_left texts)
  have cut := Text.separator_append_inj (padDigits_clean 4 first) (padDigits_clean 4 second) digits
  exact padDigits_injective 4 (String.toList_injective cut.1)

section

variable (named : row.fileName = some name)
include named

theorem fileName_eq :
    ∃ extension, name = "files/" ++ numberedName row.chainPosition row.id extension := by
  unfold ChildSafetyEvidence.fileName at named
  split at named
  · exact ⟨_, (Option.some.inj named).symm⟩
  · obtain ⟨_, -, rfl⟩ := Option.map_eq_some_iff.1 named
    exact ⟨_, rfl⟩

theorem fileName_position (otherNamed : other.fileName = some name) :
    row.chainPosition = other.chainPosition := by
  obtain ⟨_, rfl⟩ := fileName_eq named
  obtain ⟨_, same⟩ := fileName_eq otherNamed
  exact numberedName_position same

theorem fileName_head : name.toList.head? = some 'f' := by
  obtain ⟨_, rfl⟩ := fileName_eq named
  simp only [numberedName, String.toList_append]
  rfl

end

open EvidencePackageSnapshot

theorem fileEntry_eq (named : row.fileName = some name) :
    fileEntry (snapshotItem store row) = (row.file store).map (⟨name.toList, ·⟩) := by
  have nonempty : name ≠ "" := by
    rintro rfl
    have head := fileName_head named
    cases head
  unfold fileEntry snapshotItem
  rw [named]
  cases row.file store with
  | none => rfl
  | some data => exact if_neg nonempty

theorem of_fileEntry {entry : ZipEntry}
    (included : fileEntry (snapshotItem store row) = some entry) :
    ∃ name, row.fileName = some name ∧ entry.name = name.toList ∧
      row.file store = some entry.data := by
  cases named : row.fileName with
  | none =>
    have nothing : fileEntry (snapshotItem store row) = none := by
      unfold fileEntry snapshotItem
      rw [named]
      cases row.file store <;> rfl
    rw [nothing] at included
    cases included
  | some name =>
    rw [fileEntry_eq named] at included
    obtain ⟨data, found, rfl⟩ := Option.map_eq_some_iff.1 included
    exact ⟨name, rfl, rfl, found⟩

theorem pairwise_listed (db : EvidenceDb) (tenantId incidentId : String)
    (evidenceIds : Option (List String)) :
    (db.listed tenantId incidentId evidenceIds).Pairwise
      fun row other => row.chainPosition ≠ other.chainPosition := by
  unfold EvidenceDb.listed
  refine ((List.perm_insertionSort _ _).pairwise_iff fun different => different.symm).2 ?_
  have positions := List.pairwise_map.1 db.chainPositions
  refine List.pairwise_filter.2
    (positions.imp fun {row other} different chosen otherChosen same => ?_)
  simp only [Bool.and_eq_true, beq_iff_eq] at chosen otherChosen
  exact different (Prod.ext (chosen.1.2.trans otherChosen.1.2.symm) same)

variable {mayManage : Bool} {rows : List ChildSafetyEvidence}

theorem exportSnapshot_ok
    (exports : db.exportSnapshot store mayManage tenantId incidentId evidenceIds = .ok snapshot) :
    snapshot.items = (db.listed tenantId incidentId evidenceIds).map (snapshotItem store) ∧
      snapshot.custodyByEvidence = (db.listed tenantId incidentId evidenceIds).foldl
        (fun fields row => assignOwn fields row.id (db.custodyOf tenantId row.id)) [] := by
  unfold EvidenceDb.exportSnapshot at exports
  split at exports
  · cases exports
  · split at exports
    · cases exports
    · dsimp only at exports
      split at exports
      · cases exports
      · cases exports
        exact ⟨rfl, rfl⟩

theorem mem_manifest {item : EvidenceSnapshotItem}
    (items : snapshot.items = rows.map (snapshotItem store)) :
    item ∈ snapshot.manifest ↔ ∃ row ∈ rows, snapshotItem store row = item := by
  rw [manifest, (List.perm_insertionSort _ _).mem_iff, items, List.mem_map]

theorem mem_manifest_ids {id : String} (items : snapshot.items = rows.map (snapshotItem store)) :
    id ∈ snapshot.manifest.map (·.row.id) ↔ id ∈ rows.map (·.id) := by
  simp only [List.mem_map, mem_manifest items]
  constructor
  · intro chosen
    obtain ⟨_, ⟨row, listed, rfl⟩, rfl⟩ := chosen
    exact ⟨row, listed, rfl⟩
  · intro chosen
    obtain ⟨row, listed, rfl⟩ := chosen
    exact ⟨_, ⟨row, listed, rfl⟩, rfl⟩

def textNames : List Text :=
  ["metadata.json".toList, "manifest.json".toList, "hashes.txt".toList, "custody-log.json".toList]

theorem names_entries :
    snapshot.entries.map (·.name) =
      textNames ++ (snapshot.manifest.filterMap fileEntry).map (·.name) := by
  simp only [entries, List.map_append]
  rfl

theorem names_distinct (items : snapshot.items = rows.map (snapshotItem store))
    (distinct : rows.Pairwise fun row other => row.chainPosition ≠ other.chainPosition) :
    (snapshot.entries.map (·.name)).Nodup := by
  rw [names_entries, List.nodup_append]
  have files : ((snapshot.manifest.filterMap fileEntry).map (·.name)).Nodup := by
    have sorted := ((List.perm_insertionSort (fun first second : EvidenceSnapshotItem =>
      first.row.chainPosition ≤ second.row.chainPosition) snapshot.items).filterMap fileEntry).map
        (·.name)
    refine sorted.nodup_iff.2 ?_
    rw [items, List.filterMap_map]
    refine List.pairwise_map.2 (List.pairwise_filterMap.2 (distinct.imp ?_))
    intro row other different entry included otherEntry otherIncluded same
    obtain ⟨name, named, isName, -⟩ := of_fileEntry included
    obtain ⟨otherName, otherNamed, isOther, -⟩ := of_fileEntry otherIncluded
    have names : otherName = name :=
      String.toList_injective (isOther.symm.trans (same.symm.trans isName))
    exact different (fileName_position named (names ▸ otherNamed))
  refine ⟨by decide, files, ?_⟩
  rintro text member name file rfl
  have plain : ∀ text ∈ textNames, text.head? ≠ some 'f' := by decide
  obtain ⟨entry, included, rfl⟩ := List.mem_map.1 file
  obtain ⟨item, listed, isEntry⟩ := List.mem_filterMap.1 included
  obtain ⟨row, -, rfl⟩ := (mem_manifest items).1 listed
  obtain ⟨name, named, isName, -⟩ := of_fileEntry isEntry
  exact plain _ member (isName ▸ fileName_head named)

theorem listed_unique (listed : row ∈ db.listed tenantId incidentId evidenceIds)
    (otherListed : other ∈ db.listed tenantId incidentId evidenceIds)
    (named : row.fileName = some name) (otherNamed : other.fileName = some name) : row = other :=
  List.inj_on_of_nodup_map
    (List.pairwise_map.2 (pairwise_listed db tenantId incidentId evidenceIds))
    listed otherListed (fileName_position named otherNamed)

theorem mem_entries {entry : ZipEntry} (items : snapshot.items = rows.map (snapshotItem store))
    (named : row.fileName = some name) (isName : entry.name = name.toList) :
    entry ∈ snapshot.entries ↔ ∃ owner ∈ rows, owner.fileName = some name ∧
      owner.file store = some entry.data := by
  have plain : ∀ text ∈ textNames, text.head? ≠ some 'f' := by decide
  constructor
  · intro member
    rcases List.mem_append.1 member with text | file
    · have isText : entry.name ∈ textNames := List.mem_map_of_mem (f := ZipEntry.name) text
      exact absurd (isName ▸ fileName_head named) (plain _ isText)
    · obtain ⟨item, listed, isEntry⟩ := List.mem_filterMap.1 file
      obtain ⟨owner, ownerListed, rfl⟩ := (mem_manifest items).1 listed
      obtain ⟨ownName, ownNamed, isOwn, found⟩ := of_fileEntry isEntry
      obtain rfl := String.toList_injective (isOwn.symm.trans isName)
      exact ⟨owner, ownerListed, ownNamed, found⟩
  · intro listed
    obtain ⟨owner, ownerListed, ownNamed, found⟩ := listed
    refine List.mem_append_right _ (List.mem_filterMap.2
      ⟨snapshotItem store owner, (mem_manifest items).2 ⟨owner, ownerListed, rfl⟩, ?_⟩)
    rw [fileEntry_eq ownNamed, found, ← isName]
    rfl

theorem mem_assignOwn {α : Type} {fields : List (String × α)} {value : α} (other : String) :
    other ∈ (assignOwn fields name value).map Prod.fst ↔
      other ∈ fields.map Prod.fst ∨ name ≠ "__proto__" ∧ other = name := by
  unfold assignOwn
  split
  next proto => simp [proto]
  next own =>
    split
    next taken =>
      have names : (fields.map fun field => if field.1 = name then (name, value) else field).map
          Prod.fst = fields.map Prod.fst := by
        rw [List.map_map]
        refine List.map_congr_left fun field _ => ?_
        dsimp only [Function.comp]
        split
        next same => exact same.symm
        · rfl
      rw [names]
      constructor
      · exact .inl
      · rintro (member | ⟨-, rfl⟩)
        · exact member
        · exact taken
    · simp [own]

/-- By induction on the rows. -/
theorem mem_custody (events : String → List EvidenceCustodyEvent) (rows : List ChildSafetyEvidence)
    (fields : List (String × List EvidenceCustodyEvent)) (id : String) :
    id ∈ (rows.foldl (fun fields row => assignOwn fields row.id (events row.id)) fields).map
        Prod.fst ↔
      id ∈ fields.map Prod.fst ∨ id ≠ "__proto__" ∧ id ∈ rows.map (·.id) := by
  induction rows generalizing fields with
  | nil => simp
  | cons row rest ih =>
    rw [List.foldl_cons, ih, mem_assignOwn, List.map_cons, List.mem_cons]
    constructor
    · rintro ((earlier | ⟨own, rfl⟩) | ⟨own, later⟩)
      · exact .inl earlier
      · exact .inr ⟨own, .inl rfl⟩
      · exact .inr ⟨own, .inr later⟩
    · rintro (earlier | ⟨own, rfl | later⟩)
      · exact .inl (.inl earlier)
      · exact .inl (.inr ⟨own, rfl⟩)
      · exact .inr ⟨own, later⟩

theorem export_ok {exported : EvidenceExport}
    (exports : exportChildSafetyEvidencePackage db store mayManage tenantId incidentId evidenceIds =
      .ok exported) :
    ∃ snapshot, db.exportSnapshot store mayManage tenantId incidentId evidenceIds = .ok snapshot ∧
      buildDeterministicZip snapshot.entries = some exported.bytes ∧
      exported.count = snapshot.items.length := by
  unfold exportChildSafetyEvidencePackage at exports
  cases taken : db.exportSnapshot store mayManage tenantId incidentId evidenceIds with
  | error error =>
    rw [taken] at exports
    cases exports
  | ok snapshot =>
    rw [taken] at exports
    dsimp only [bind, Except.bind] at exports
    split at exports
    · cases exports
    next bytes built =>
      obtain rfl := Except.ok.inj exports
      exact ⟨snapshot, rfl, built, rfl⟩

theorem export_of_fits
    (taken : db.exportSnapshot store mayManage tenantId incidentId evidenceIds = .ok snapshot)
    (fits : ZipFits snapshot.entries) : ∃ exported,
      exportChildSafetyEvidencePackage db store mayManage tenantId incidentId evidenceIds =
        .ok exported := by
  simp only [exportChildSafetyEvidencePackage, taken, bind, Except.bind, buildEvidencePackage,
    buildDeterministicZip_eq fits]
  exact ⟨_, rfl⟩

/-- Every export that succeeds is an archive in which a reader finds the entries of the snapshot,
no name twice, and under the name of a listed row the object of its key or its text. -/
theorem readZip_export {mayManage : Bool} {exported : EvidenceExport}
    (exports : exportChildSafetyEvidencePackage db store mayManage tenantId incidentId evidenceIds =
      .ok exported) :
    ∃ snapshot members,
      db.exportSnapshot store mayManage tenantId incidentId evidenceIds = .ok snapshot ∧
      StoredZip.readZip exported.bytes = some members ∧
      members.map (fun member => (member.name, member.data)) =
        snapshot.entries.map (fun entry => (Base64.utf8Bytes entry.name, entry.data)) ∧
      (snapshot.entries.map (·.name)).Nodup ∧
      ∀ row ∈ db.listed tenantId incidentId evidenceIds, ∀ name ∈ row.fileName, ∀ data,
        row.file store = some data ↔
          ∃ member ∈ members, member.name = Base64.utf8Bytes name.toList ∧ member.data = data := by
  obtain ⟨snapshot, taken, built, -⟩ := export_ok exports
  obtain ⟨members, reads, same⟩ := readZip_of_build built
  obtain ⟨items, -⟩ := exportSnapshot_ok taken
  refine ⟨snapshot, members, taken, reads, same,
    names_distinct items (pairwise_listed db tenantId incidentId evidenceIds), ?_⟩
  intro row listed name named data
  constructor
  · intro found
    have entry : (⟨name.toList, data⟩ : ZipEntry) ∈ snapshot.entries :=
      (mem_entries items named rfl).2 ⟨row, listed, named, found⟩
    have read := List.mem_map_of_mem
      (f := fun entry : ZipEntry => (Base64.utf8Bytes entry.name, entry.data)) entry
    rw [← same] at read
    obtain ⟨member, present, pair⟩ := List.mem_map.1 read
    exact ⟨member, present, congrArg Prod.fst pair, congrArg Prod.snd pair⟩
  · intro read
    obtain ⟨member, present, isName, rfl⟩ := read
    have entry := List.mem_map_of_mem
      (f := fun member : StoredZip.Member => (member.name, member.data)) present
    rw [same] at entry
    obtain ⟨entry, inside, pair⟩ := List.mem_map.1 entry
    -- The bytes of a name determine the name.
    have bytes : Base64.utf8Bytes entry.name = Base64.utf8Bytes name.toList :=
      (congrArg Prod.fst pair).trans isName
    have isEntry : entry.name = name.toList := by
      rw [← Base64.utf8Text_utf8Bytes entry.name, bytes, Base64.utf8Text_utf8Bytes]
    obtain ⟨owner, ownerListed, ownerNamed, found⟩ := (mem_entries items named isEntry).1 inside
    obtain rfl := listed_unique listed ownerListed named ownerNamed
    exact found.trans (congrArg some (congrArg Prod.snd pair))

/-- A package is consistent with itself exactly if the object of every listed item is in the store
and unchanged, or known to be damaged, and no id is the name of the prototype. -/
theorem selfConsistent_iff {mayManage : Bool}
    (exports : db.exportSnapshot store mayManage tenantId incidentId evidenceIds = .ok snapshot) :
    SelfConsistent sha256 snapshot ↔
      ∀ row ∈ db.listed tenantId incidentId evidenceIds, Exportable sha256 store row := by
  obtain ⟨items, custody⟩ := exportSnapshot_ok exports
  have names := names_distinct items (pairwise_listed db tenantId incidentId evidenceIds)
  have log (id : String) : id ∈ snapshot.custodyByEvidence.map Prod.fst ↔
      id ≠ "__proto__" ∧ id ∈ (db.listed tenantId incidentId evidenceIds).map (·.id) := by
    rw [custody, mem_custody]
    simp
  constructor
  · intro consistent row listed
    have manifested : snapshotItem store row ∈ snapshot.manifest :=
      (mem_manifest items).2 ⟨row, listed, rfl⟩
    refine ⟨?_, fun isNamed => ?_⟩
    · have logged := (consistent.custody row.id).2 ((mem_manifest_ids items).2
        (List.mem_map_of_mem (f := ChildSafetyEvidence.id) listed))
      exact ((log row.id).1 logged).1
    · obtain ⟨name, named⟩ := Option.isSome_iff_exists.1 isNamed
      have once := consistent.named _ manifested name named
      obtain ⟨entry, member, isName⟩ := List.countP_pos_iff.1 (by rw [once]; exact one_pos)
      have isName : entry.name = name.toList := eq_of_beq isName
      obtain ⟨other, otherListed, otherNamed, found⟩ := (mem_entries items named isName).1 member
      obtain rfl := listed_unique listed otherListed named otherNamed
      refine ⟨entry.data, found, consistent.hashed _ manifested entry member ?_⟩
      change row.fileName.map String.toList = _
      rw [named, isName]
      rfl
  · intro exportable
    refine ⟨names, ?_, ?_, ?_⟩
    · intro item manifested name named
      obtain ⟨row, listed, rfl⟩ := (mem_manifest items).1 manifested
      have named : row.fileName = some name := named
      obtain ⟨data, found, -⟩ := (exportable row listed).stored (by rw [named]; rfl)
      have member : (⟨name.toList, data⟩ : ZipEntry) ∈ snapshot.entries :=
        (mem_entries items named rfl).2 ⟨row, listed, named, found⟩
      have counted : (snapshot.entries.map (·.name)).count name.toList = 1 :=
        List.count_eq_one_of_mem names (List.mem_map_of_mem (f := ZipEntry.name) member)
      rw [List.count, List.countP_map] at counted
      exact counted
    · intro item manifested entry member isEntry
      obtain ⟨row, listed, rfl⟩ := (mem_manifest items).1 manifested
      obtain ⟨name, named, isName⟩ := Option.map_eq_some_iff.1 isEntry
      have named : row.fileName = some name := named
      obtain ⟨other, otherListed, otherNamed, found⟩ :=
        (mem_entries items named isName.symm).1 member
      obtain rfl := listed_unique listed otherListed named otherNamed
      obtain ⟨data, stored, kept⟩ := (exportable row listed).stored (by rw [named]; rfl)
      obtain rfl := Option.some.inj (found.symm.trans stored)
      exact kept
    · intro id
      rw [log, mem_manifest_ids items, and_iff_right_iff_imp]
      intro member
      obtain ⟨row, listed, rfl⟩ := List.mem_map.1 member
      exact (exportable row listed).id

end

/-- An item that is stored under a key, with the hash that `sha256sum` prints of the letter `a`. -/
def letterEvidence (storageKey bodyText : Option String) : ChildSafetyEvidence where
  id := "e1"
  tenantId := "t1"
  incidentId := "i1"
  evidenceType := "uploaded_file"
  sourceType := "reviewer_upload"
  label := none
  storageKey := storageKey
  externalUrl := none
  bodyText := bodyText
  mimeType := some "text/plain"
  sizeBytes := some 1
  contentHash := "ca978112ca1bbdcafac231b39a23dc4da786eff8147c4e72b9807785afee48bb"
  hashAlgorithm := "sha256"
  integrityStatus := "verified"
  chainPosition := 1
  uploaderUserId := none
  sealed := false
  capturedAt := 0

def letterDb (row : ChildSafetyEvidence) : EvidenceDb where
  incidents := [⟨"i1", "t1", "open", "high", "urgent", "grooming", 1, 0⟩]
  evidence := [row]
  custodyEvents := []
  ids := List.nodup_singleton _
  chainPositions := List.nodup_singleton _

/-- The digest of the letter `a`, and no other one. -/
def letterHash (bytes : List UInt8) : String :=
  if bytes = [0x61] then "ca978112ca1bbdcafac231b39a23dc4da786eff8147c4e72b9807785afee48bb" else ""

def letterSnapshot (store : EvidenceStore) (row : ChildSafetyEvidence) :
    EvidencePackageSnapshot where
  incident := ⟨"i1", "t1", "open", "high", "urgent", "grooming", 1, 0⟩
  items := [snapshotItem store row]
  custodyByEvidence := [("e1", [])]

theorem selfConsistent_iff_text :
    SelfConsistent letterHash (letterSnapshot (fun _ => none) (letterEvidence none (some "a"))) ↔
      ∀ row ∈ (letterDb (letterEvidence none (some "a"))).listed "t1" "i1" none,
        Exportable letterHash (fun _ => none) row :=
  @selfConsistent_iff letterHash (fun _ => none) (letterDb (letterEvidence none (some "a")))
    "t1" "i1" none _ true rfl

/-- The object is gone: the manifest names a file that is not in the package, as verified. -/
theorem not_selfConsistent_missing :
    ∃ snapshot, (letterDb (letterEvidence
        (some "00/000000000000000000000000000000000000000000000000") none)).exportSnapshot
          (fun _ => none) true "t1" "i1" none = .ok snapshot ∧
      ¬ SelfConsistent letterHash snapshot := by
  refine ⟨letterSnapshot (fun _ => none) (letterEvidence
    (some "00/000000000000000000000000000000000000000000000000") none), rfl, fun consistent => ?_⟩
  have once := consistent.named _ List.mem_cons_self "files/evidence-0001-e1.txt" (by decide)
  revert once
  decide

theorem readZip_export_text :
    ∃ exported members, exportChildSafetyEvidencePackage (letterDb (letterEvidence none (some "a")))
        (fun _ => none) true "t1" "i1" none = .ok exported ∧
      StoredZip.readZip exported.bytes = some members ∧
      ∃ member ∈ members, member.name = Base64.utf8Bytes "files/evidence-0001-e1.txt".toList ∧
        member.data = [0x61] := by
  have fits : ZipFits (letterSnapshot (fun _ => none) (letterEvidence none (some "a"))).entries :=
    ⟨by decide, by decide +kernel, by decide +kernel, by decide +kernel⟩
  have taken : (letterDb (letterEvidence none (some "a"))).exportSnapshot (fun _ => none) true
      "t1" "i1" none = .ok (letterSnapshot (fun _ => none) (letterEvidence none (some "a"))) := rfl
  obtain ⟨exported, exports⟩ := export_of_fits taken fits
  obtain ⟨_, members, -, reads, -, -, files⟩ := readZip_export exports
  exact ⟨exported, members, exports, reads,
    (files _ (List.mem_singleton_self _) "files/evidence-0001-e1.txt" (by decide) [0x61]).1 rfl⟩

end Tamanor.Db
