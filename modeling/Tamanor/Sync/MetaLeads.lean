import Tamanor.Db.BusinessContactsRepo
import Tamanor.Library.Table

/-! The ingestion of Meta lead ads (`meta-leads.ts`): every leadgen change of a webhook event
is resolved to an account, fetched, normalized and stored as a contact. Each awaited step may
throw, and the handler of a change writes an ingestion event itself. -/

set_option autoImplicit false

namespace Tamanor.Sync

open Tamanor.Core Db Library

structure MetaLeadgenChange where
  pageId : String
  leadgenId : String
  formId : Option String
  adId : Option String
  createdTime : Option String

structure MetaLeadField where
  name : Option String
  values : Option (List String)

structure MetaGraphLead where
  createdTime : Option String
  adId : Option String
  adName : Option String
  formId : Option String
  campaignId : Option String
  campaignName : Option String
  fieldData : List MetaLeadField

/-- The functions of the runtime that the ingestion calls: `sha256` in hexadecimal, the lower
case of a text, and the time of a date text, if it is one. -/
structure LeadRuntime where
  sha256 : String → String
  toLowerCase : String → String
  parseDate : String → Option Int

def str (value : Option String) (max : Nat) : Option String :=
  value.filter fun text =>
    decide (0 < text.length) && decide ((Text.codeUnits text.toList).length ≤ max)

def fieldValue (runtime : LeadRuntime) (names : List String) : List MetaLeadField → Option String
  | [] => none
  | field :: rest =>
    let named := field.name.any fun name =>
      decide (name ≠ "") && names.contains (runtime.toLowerCase name)
    match if named then (field.values.getD []).find? (fun value => decide (value ≠ "")) else none with
    | some value => some (String.ofList (sliceUnits 320 value.toList))
    | none => fieldValue runtime names rest

def joinedName (first last : Option String) : Option String :=
  let joined := String.ofList
    (Text.trim ((" ".intercalate ([first, last].filterMap fun name => name)).toList))
  if joined = "" then none else some joined

variable (runtime : LeadRuntime)

def normalizeMetaLead (lead : MetaGraphLead) (change : MetaLeadgenChange)
    (connectionId : Option String) (now : Int) : BusinessContactInput where
  provider := .metaPlatforms
  sourcePlatform := .facebook
  connectionId := connectionId
  externalLeadId := some change.leadgenId
  contentFingerprint := none
  fullName := (fieldValue runtime ["full_name"] lead.fieldData).or
    (joinedName (fieldValue runtime ["first_name"] lead.fieldData)
      (fieldValue runtime ["last_name"] lead.fieldData))
  email := fieldValue runtime ["email"] lead.fieldData
  phone := fieldValue runtime ["phone_number", "phone"] lead.fieldData
  company := fieldValue runtime ["company_name", "company"] lead.fieldData
  messageSummary := none
  campaignId := str lead.campaignId 200
  campaignName := str lead.campaignName 200
  adId := (str lead.adId 200).or change.adId
  adName := str lead.adName 200
  formId := (str lead.formId 200).or change.formId
  formName := none
  receivedAt := ((change.createdTime.or lead.createdTime).bind runtime.parseDate).getD now
  consentValue := none
  consentReference := none
  consentVersion := none

/-! What is stored. A contact stands under its tenant and its dedupe key, which are unique. -/

inductive BusinessIngestionResult where
  | accepted | duplicate | rejected

structure BusinessIngestionEvent where
  tenantId : String
  provider : BusinessProvider
  providerEventId : Option String
  payloadHash : String
  signatureVerified : Bool
  result : BusinessIngestionResult
  errorCode : Option String
  receivedAt : Int
  processedAt : Option Int
  contactId : Option String

structure LeadStore where
  contacts : Table (String × String) BusinessContact
  events : List BusinessIngestionEvent

structure MetaLeadAccount where
  id : String
  tenantId : String
  externalId : String

inductive LeadError where
  | vaultDecrypt
  | vaultCredentialUnusable (reason : String)
  | other

def LeadError.code : LeadError → String
  | .vaultDecrypt => "vault_decrypt_failed"
  | .vaultCredentialUnusable reason => "vault_" ++ reason
  | .other => "error"

/-- How each awaited step ends for one change: with a value, or by throwing. `record` is the
event written inside the try block, `handlerRecord` the one that its handler writes. -/
structure LeadOutcomes where
  token : Except LeadError (Option String)
  lead : Except LeadError MetaGraphLead
  connection : Except LeadError (Option String)
  contact : Except LeadError Unit
  record : Except LeadError Unit
  handlerRecord : Except LeadError Unit
  newId : String
  now : Int

inductive LeadVerdict where
  | ingested | duplicate | rejected | fetchFailure

structure MetaLeadgenIngestResult where
  ingested : Nat
  duplicates : Nat
  rejected : Nat
  fetchFailures : Nat

def MetaLeadgenIngestResult.zero : MetaLeadgenIngestResult := ⟨0, 0, 0, 0⟩

def MetaLeadgenIngestResult.count (result : MetaLeadgenIngestResult) :
    LeadVerdict → MetaLeadgenIngestResult
  | .ingested => { result with ingested := result.ingested + 1 }
  | .duplicate => { result with duplicates := result.duplicates + 1 }
  | .rejected => { result with rejected := result.rejected + 1 }
  | .fetchFailure => { result with fetchFailures := result.fetchFailures + 1 }

def MetaLeadgenIngestResult.total (result : MetaLeadgenIngestResult) : Nat :=
  result.ingested + result.duplicates + result.rejected + result.fetchFailures

def payloadHash (change : MetaLeadgenChange) : String :=
  runtime.sha256 ("meta:leadgen:" ++ change.leadgenId)

variable (store : LeadStore)

/-- `recordBusinessIngestionEvent`: the row, or what the insertion throws. -/
def LeadStore.recordEvent (outcome : Except LeadError Unit) (event : BusinessIngestionEvent) :
    LeadStore × Except LeadError Unit :=
  match outcome with
  | .ok () =>
    let row := { event with
      providerEventId := clamp event.providerEventId 200
      payloadHash := String.ofList (sliceUnits 128 event.payloadHash.toList)
      errorCode := clamp event.errorCode 80 }
    ({ store with events := store.events ++ [row] }, .ok ())
  | .error error => (store, .error error)

def LeadStore.reject (runtime : LeadRuntime) (account : MetaLeadAccount)
    (change : MetaLeadgenChange) (now : Int) (record : Except LeadError Unit) (errorCode : String)
    (verdict : LeadVerdict) : LeadStore × Except LeadError LeadVerdict :=
  let (recorded, outcome) := store.recordEvent record
    ⟨account.tenantId, .metaPlatforms, some change.leadgenId, payloadHash runtime change, true, .rejected,
      some errorCode, now, none, none⟩
  (recorded, outcome.map fun _ => verdict)

def contactKey (tenantId : String) (input : BusinessContactInput) :
    String × String := (tenantId, runtime.sha256 input.dedupeSeed)

/-- The contact is inserted unless its key is taken; the event is a statement of its own. -/
def LeadStore.ingestBusinessContact (runtime : LeadRuntime) (account : MetaLeadAccount)
    (change : MetaLeadgenChange) (outcomes : LeadOutcomes) (input : BusinessContactInput) :
    LeadStore × Except LeadError LeadVerdict :=
  match outcomes.contact with
  | .error error => (store, .error error)
  | .ok () =>
    let key := contactKey runtime account.tenantId input
    let created := (store.contacts.find? key).isNone
    let contacts := store.contacts.insert key
      (input.contact runtime.sha256 outcomes.newId outcomes.now)
    let (recorded, outcome) := { store with contacts := contacts }.recordEvent outcomes.record
      ⟨account.tenantId, input.provider, some change.leadgenId, payloadHash runtime change, true,
        if created then .accepted else .duplicate, none, input.receivedAt, some outcomes.now,
        (contacts.find? key).map BusinessContact.id⟩
    (recorded, outcome.map fun _ => if created then .ingested else .duplicate)

def LeadStore.attempt (runtime : LeadRuntime) (account : MetaLeadAccount)
    (change : MetaLeadgenChange) (outcomes : LeadOutcomes) :
    LeadStore × Except LeadError LeadVerdict :=
  match outcomes.token with
  | .error error => (store, .error error)
  | .ok none =>
    store.reject runtime account change outcomes.now outcomes.record "no_credential" .rejected
  | .ok (some _) =>
    match outcomes.lead with
    | .error _ =>
      store.reject runtime account change outcomes.now outcomes.record "fetch_failed"
        .fetchFailure
    | .ok lead =>
      match outcomes.connection with
      | .error error => (store, .error error)
      | .ok connectionId =>
        store.ingestBusinessContact runtime account change outcomes
          (normalizeMetaLead runtime lead change connectionId outcomes.now)

def LeadStore.ingestChange (runtime : LeadRuntime) (account : MetaLeadAccount)
    (change : MetaLeadgenChange) (outcomes : LeadOutcomes) :
    LeadStore × Except LeadError LeadVerdict :=
  match store.attempt runtime account change outcomes with
  | (attempted, .ok verdict) => (attempted, .ok verdict)
  | (attempted, .error error) =>
    attempted.reject runtime account change outcomes.now outcomes.handlerRecord error.code
      .rejected

/-! The loop. Later accounts of a page replace earlier ones, as in the map by page. -/

variable (accounts : List MetaLeadAccount)

def accountOfPage (pageId : String) : Option MetaLeadAccount :=
  accounts.reverse.find? fun account => account.externalId == pageId

/-- A call in progress, or one that an exception has ended. -/
structure LeadBatch where
  store : LeadStore
  result : MetaLeadgenIngestResult
  thrown : Bool

def LeadBatch.start : LeadBatch := ⟨store, .zero, false⟩

def LeadBatch.ingest (batch : LeadBatch) (lead : MetaLeadgenChange × LeadOutcomes) : LeadBatch :=
  if batch.thrown then batch
  else
    match accountOfPage accounts lead.1.pageId with
    | none => { batch with result := batch.result.count .rejected }
    | some account =>
      match batch.store.ingestChange runtime account lead.1 lead.2 with
      | (store, .ok verdict) => ⟨store, batch.result.count verdict, false⟩
      | (store, .error _) => ⟨store, batch.result, true⟩

/-- What is stored when the call ends, and what it returns, if it returns. -/
def ingestMetaLeadgenChanges (store : LeadStore) (leads : List (MetaLeadgenChange × LeadOutcomes)) :
    LeadStore × Option MetaLeadgenIngestResult :=
  let batch := Runs.run (LeadBatch.ingest runtime accounts) (LeadBatch.start store) leads
  (batch.store, if batch.thrown then none else some batch.result)

end Tamanor.Sync
