import Tamanor.Core.BusinessContacts
import Tamanor.Library.Runs

/-! Contacts and their notes (`business-contacts-repo.ts`), and the operations that change
them. An operation is a transaction of several statements; any number of clients run them
at once, all in the workspace of one tenant. -/

set_option autoImplicit false

namespace Tamanor.Db

open Tamanor.Core Library

structure BusinessContact where
  id : String
  connectionId : Option String
  provider : BusinessProvider
  sourcePlatform : BusinessContactSource
  externalLeadId : Option String
  dedupeKey : String
  fullName : Option String
  email : Option String
  phone : Option String
  company : Option String
  messageSummary : Option String
  campaignId : Option String
  campaignName : Option String
  adId : Option String
  adName : Option String
  formId : Option String
  formName : Option String
  receivedAt : Int
  status : BusinessContactStatus
  lifecycleState : BusinessContactLifecycle
  anonymizedAt : Option Int
  anonymizationReason : Option ContactAnonymizationReason
  assignedUserId : Option String
  consentValue : Option Bool
  consentReference : Option String
  consentVersion : Option String
  createdAt : Int
  updatedAt : Int

structure BusinessContactNote where
  id : String
  contactId : String
  authorUserId : String
  body : Option String
  createdAt : Int
  redactedAt : Option Int

structure BusinessContactInput where
  provider : BusinessProvider
  sourcePlatform : BusinessContactSource
  connectionId : Option String
  externalLeadId : Option String
  contentFingerprint : Option String
  fullName : Option String
  email : Option String
  phone : Option String
  company : Option String
  messageSummary : Option String
  campaignId : Option String
  campaignName : Option String
  adId : Option String
  adName : Option String
  formId : Option String
  formName : Option String
  receivedAt : Int
  consentValue : Option Bool
  consentReference : Option String
  consentVersion : Option String

def BusinessContactInput.dedupeSeed (input : BusinessContactInput) : String :=
  businessContactDedupeSeed input.provider input.sourcePlatform input.externalLeadId input.formId
    input.contentFingerprint

def BusinessContactInput.contact (input : BusinessContactInput) (sha256 : String → String)
    (id : String) (clock : Int) : BusinessContact where
  id := id
  connectionId := input.connectionId
  provider := input.provider
  sourcePlatform := input.sourcePlatform
  externalLeadId := clamp input.externalLeadId 200
  dedupeKey := sha256 input.dedupeSeed
  fullName := clamp input.fullName 200
  email := clamp input.email 320
  phone := clamp input.phone 60
  company := clamp input.company 200
  messageSummary := clamp input.messageSummary 1000
  campaignId := clamp input.campaignId 200
  campaignName := clamp input.campaignName 200
  adId := clamp input.adId 200
  adName := clamp input.adName 200
  formId := clamp input.formId 200
  formName := clamp input.formName 200
  receivedAt := input.receivedAt
  status := .new
  lifecycleState := .active
  anonymizedAt := none
  anonymizationReason := none
  assignedUserId := none
  consentValue := input.consentValue
  consentReference := clamp input.consentReference 200
  consentVersion := clamp input.consentVersion 60
  createdAt := clock
  updatedAt := clock

/-! The operations, with the random ids that they would draw. -/

inductive ContactOperation where
  | setStatus (id : String) (target : BusinessContactStatus)
  | assign (id : String) (assigneeUserId : Option String)
  | addNote (contactId authorUserId rawBody noteId : String)
  | bulkSetStatus (ids : List String) (target : BusinessContactStatus)
  | bulkAssign (ids : List String) (assigneeUserId : Option String)
  | setLifecycle (id : String) (target : BusinessContactLifecycle)
  | anonymize (id : String) (reason : Option ContactAnonymizationReason) (now : Int)

/-- The statement by which an operation other than the anonymization writes. -/
inductive ContactWrite where
  | status (ids : List String) (target : BusinessContactStatus)
  | lifecycle (id : String) (target : BusinessContactLifecycle)
  | assignee (ids : List String) (assigneeUserId : Option String)
  | note (created : BusinessContactNote)

inductive ContactStage where
  | called (operation : ContactOperation)
  | assigneeChecked (operation : ContactOperation)
  | writing (write : ContactWrite)
  | locked (id : String) (previousLifecycle : BusinessContactLifecycle)
      (reason : Option ContactAnonymizationReason) (now : Int)

def maxBulkContactIds : Nat := 100

/-- What is committed, the stage of each client, and the clients that hold a contact
`FOR UPDATE`. `anonymizations` are the contacts whose anonymization has committed. -/
structure ContactSystem where
  contacts : List BusinessContact
  notes : List BusinessContactNote
  members : List String
  sessions : Nat → Option ContactStage
  locks : String → Option Nat
  anonymizations : List String

def ContactSystem.opened (members : List String) : ContactSystem where
  contacts := []
  notes := []
  members := members
  sessions _ := none
  locks _ := none
  anonymizations := []

namespace ContactWrite

/-- The contacts that a write has to lock, the one of a new note by its foreign key. -/
def targets : ContactWrite → List String
  | .status ids _ => ids
  | .lifecycle id _ => [id]
  | .assignee ids _ => ids
  | .note created => [created.contactId]

def applyTo (write : ContactWrite) (clock : Int) (contact : BusinessContact) : BusinessContact :=
  match write with
  | .status ids target =>
    if ids.contains contact.id then { contact with status := target, updatedAt := clock }
    else contact
  | .lifecycle id target =>
    if contact.id == id then { contact with lifecycleState := target, updatedAt := clock }
    else contact
  | .assignee ids assigneeUserId =>
    if ids.contains contact.id then
      { contact with assignedUserId := assigneeUserId, updatedAt := clock }
    else contact
  | .note _ => contact

def added : ContactWrite → List BusinessContactNote
  | .note created => [created]
  | _ => []

end ContactWrite

/-- What `anonymizeBusinessContact` leaves of a contact. -/
def BusinessContact.anonymize (contact : BusinessContact) (reason : Option ContactAnonymizationReason)
    (now clock : Int) : BusinessContact :=
  { contact with
    fullName := none
    email := none
    phone := none
    company := none
    messageSummary := none
    consentReference := none
    consentVersion := none
    assignedUserId := none
    externalLeadId := none
    lifecycleState := .anonymized
    anonymizedAt := some now
    anonymizationReason := reason
    updatedAt := clock }

def BusinessContactNote.redact (note : BusinessContactNote) (now : Int) : BusinessContactNote :=
  if note.body.isSome then { note with body := none, redactedAt := some now } else note

namespace ContactSystem

variable (system : ContactSystem)

variable (client : Nat)

def setSession (stage : Option ContactStage) : ContactSystem :=
  { system with sessions := Function.update system.sessions client stage }

def close : ContactSystem :=
  { system.setSession client none with
    locks := fun id => if system.locks id = some client then none else system.locks id }

def find? (system : ContactSystem) (id : String) : Option BusinessContact :=
  system.contacts.find? fun contact => contact.id == id

def assigneeAllowed : Option String → Bool
  | none => true
  | some userId => userId == "" || system.members.contains userId

def goOn (write : Option ContactWrite) : ContactSystem :=
  match write with
  | none => system.close client
  | some write => system.setSession client (some (.writing write))

/-- The statement before the write: the query that decides whether there is one. -/
def statusWrite? (id : String) (target : BusinessContactStatus) : Option ContactWrite :=
  match system.find? id with
  | none => none
  | some contact =>
    if contact.status = target then none
    else if canTransitionContactStatus contact.status target then some (.status [id] target)
    else none

def bulkStatusWrite? (ids : List String) (target : BusinessContactStatus) : Option ContactWrite :=
  let written := (ids.take maxBulkContactIds).filter fun id =>
    (system.statusWrite? id target).isSome
  if written = [] then none else some (.status written target)

def lifecycleWrite? (id : String) (target : BusinessContactLifecycle) : Option ContactWrite :=
  if target = .anonymized then none
  else
    match system.find? id with
    | none => none
    | some contact =>
      if contact.lifecycleState = target then none
      else if canTransitionContactLifecycle contact.lifecycleState target then
        some (.lifecycle id target)
      else none

def noteWrite? (contactId authorUserId rawBody noteId : String) (clock : Int) :
    Option ContactWrite :=
  let id := trimmed (some contactId)
  if id = "" then none
  else
    match validateContactNoteBody rawBody with
    | .ok body =>
      match system.find? id with
      | none => none
      | some _ => some (.note ⟨noteId, id, authorUserId, some body, clock, none⟩)
    | _ => none

def bulkAssignWrite? (ids : List String) (assigneeUserId : Option String) : Option ContactWrite :=
  let changed := (ids.take maxBulkContactIds).filter fun id => (system.find? id).isSome
  if changed = [] then none else some (.assignee changed assigneeUserId)

def waits (write : ContactWrite) : Bool :=
  write.targets.any fun id => (system.locks id).isSome

def write (system : ContactSystem) (client : Nat) (write : ContactWrite) (clock : Int) :
    ContactSystem :=
  { system.close client with
    contacts := system.contacts.map (write.applyTo clock)
    notes := system.notes ++ write.added }

def anonymize (system : ContactSystem) (client : Nat) (id : String)
    (reason : Option ContactAnonymizationReason) (now clock : Int) : ContactSystem :=
  { system.close client with
    contacts := system.contacts.map fun contact =>
      if contact.id == id then contact.anonymize reason now clock else contact
    notes := system.notes.map fun note => if note.contactId == id then note.redact now else note
    anonymizations := id :: system.anonymizations }

def call (operation : ContactOperation) (clock : Int) : ContactSystem :=
  match operation with
  | .setStatus id target => system.goOn client (system.statusWrite? id target)
  | .bulkSetStatus ids target => system.goOn client (system.bulkStatusWrite? ids target)
  | .setLifecycle id target => system.goOn client (system.lifecycleWrite? id target)
  | .addNote contactId authorUserId rawBody noteId =>
    system.goOn client (system.noteWrite? contactId authorUserId rawBody noteId clock)
  | .assign _ assigneeUserId | .bulkAssign _ assigneeUserId =>
    if system.assigneeAllowed assigneeUserId then
      system.setSession client (some (.assigneeChecked operation))
    else system.close client
  | .anonymize id reason now =>
    match system.locks id with
    | some _ => system
    | none =>
      match system.find? id with
      | none => system.close client
      | some contact =>
        { system.setSession client (some (.locked id contact.lifecycleState reason now)) with
          locks := Function.update system.locks id (some client) }

def advance (clock : Int) : ContactSystem :=
  match system.sessions client with
  | none => system
  | some (.called operation) => system.call client operation clock
  | some (.assigneeChecked operation) =>
    match operation with
    | .assign id assigneeUserId => system.goOn client (some (.assignee [id] assigneeUserId))
    | .bulkAssign ids assigneeUserId =>
      system.goOn client (system.bulkAssignWrite? ids assigneeUserId)
    | _ => system
  | some (.writing write) =>
    if system.waits write then system else system.write client write clock
  | some (.locked id previousLifecycle reason now) =>
    if previousLifecycle = .anonymized then
      { system.close client with anonymizations := id :: system.anonymizations }
    else system.anonymize client id reason now clock

/-- `createMany` with `skipDuplicates`: a key that is taken inserts nothing. -/
def ingest (sha256 : String → String) (input : BusinessContactInput) (id : String) (clock : Int) :
    ContactSystem :=
  let contact := input.contact sha256 id clock
  if system.contacts.any fun other =>
      other.id == contact.id || other.dedupeKey == contact.dedupeKey then system
  else { system with contacts := system.contacts ++ [contact] }

end ContactSystem

inductive ContactStep where
  | start (client : Nat) (operation : ContactOperation)
  | advance (client : Nat) (clock : Int)
  | crash (client : Nat)
  | ingest (input : BusinessContactInput) (id : String) (clock : Int)
  | setMembers (members : List String)

def ContactSystem.step (sha256 : String → String) (system : ContactSystem) :
    ContactStep → ContactSystem
  | .start client operation =>
    match system.sessions client with
    | some _ => system
    | none => system.setSession client (some (.called operation))
  | .advance client clock => system.advance client clock
  | .crash client => system.close client
  | .ingest input id clock => system.ingest sha256 input id clock
  | .setMembers members => { system with members }

end Tamanor.Db
