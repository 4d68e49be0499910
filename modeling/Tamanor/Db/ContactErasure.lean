import Mathlib.Data.List.Nodup
import Tamanor.Db.BusinessContactsRepo

/-! What an anonymization leaves behind, and which operations disturb it. -/

set_option autoImplicit false

namespace Tamanor.Db

open Tamanor.Core Library

structure BusinessContact.Erased (contact : BusinessContact) : Prop where
  lifecycleState : contact.lifecycleState = .anonymized
  fullName : contact.fullName = none
  email : contact.email = none
  phone : contact.phone = none
  company : contact.company = none
  messageSummary : contact.messageSummary = none
  consentReference : contact.consentReference = none
  consentVersion : contact.consentVersion = none
  externalLeadId : contact.externalLeadId = none
  assignedUserId : contact.assignedUserId = none

/-- Every contact whose anonymization has committed is a tombstone, and its notes are empty. -/
structure ContactSystem.AnonymizationTerminal (system : ContactSystem) : Prop where
  stored : ∀ id ∈ system.anonymizations, ∃ contact ∈ system.contacts, contact.id = id
  contacts : ∀ id ∈ system.anonymizations, ∀ contact ∈ system.contacts, contact.id = id →
    contact.Erased
  notes : ∀ id ∈ system.anonymizations, ∀ note ∈ system.notes, note.contactId = id →
    note.body = none

/-- A write that leaves the tombstones among `anonymized` as they are. -/
def ContactWrite.sparesTombstones (anonymized : List String) : ContactWrite → Prop
  | .status _ _ | .assignee _ none => True
  | .lifecycle id _ => id ∉ anonymized
  | .assignee ids (some _) => ∀ id ∈ ids, id ∉ anonymized
  | .note created => created.contactId ∉ anonymized

/-- No lifecycle change, no assignee and no note is written to a contact whose anonymization
has committed. -/
def SparesTombstones (system : ContactSystem) : ContactStep → Prop
  | .advance client _ => ∀ write, system.sessions client = some (.writing write) →
      system.waits write = false → write.sparesTombstones system.anonymizations
  | _ => True

def ContactWrite.Sound : ContactWrite → Prop
  | .status _ _ | .assignee _ _ => True
  | .lifecycle _ target => target ≠ .anonymized
  | .note created => created.body.isSome = true

def ContactSystem.StageSound (system : ContactSystem) (client : Nat) : ContactStage → Prop
  | .called _ | .assigneeChecked _ => True
  | .writing write => write.Sound
  | .locked id previousLifecycle _ _ =>
    system.locks id = some client ∧ ∃ contact ∈ system.contacts, contact.id = id ∧
      contact.lifecycleState = previousLifecycle

/-- Ids are unique, only an anonymization makes a contact anonymized, and contacts stay. -/
structure ContactSystem.Sound (system : ContactSystem) : Prop where
  ids : (system.contacts.map BusinessContact.id).Nodup
  anonymized : ∀ contact ∈ system.contacts, contact.lifecycleState = .anonymized →
    contact.id ∈ system.anonymizations
  stored : ∀ id ∈ system.anonymizations, ∃ contact ∈ system.contacts, contact.id = id
  stages : ∀ {client stage}, system.sessions client = some stage → system.StageSound client stage

variable {system after : ContactSystem} {client : Nat} {stage : ContactStage} {clock now : Int}
  {contact : BusinessContact} {reason : Option ContactAnonymizationReason}

theorem ContactSystem.StageSound.transfer (sound : system.StageSound client stage)
    (locks : ∀ {id}, system.locks id = some client → after.locks id = some client)
    (contacts : ∀ {contact}, contact ∈ system.contacts → system.locks contact.id = some client →
      ∃ later ∈ after.contacts, later.id = contact.id ∧
        later.lifecycleState = contact.lifecycleState) : after.StageSound client stage := by
  cases stage with
  | called | assigneeChecked => trivial
  | writing write => exact sound
  | locked id previousLifecycle reason now =>
    obtain ⟨held, contact, stored, same, lifecycle⟩ := sound
    subst same
    obtain ⟨later, laterStored, laterSame, laterLifecycle⟩ := contacts stored held
    exact ⟨locks held, later, laterStored, laterSame, laterLifecycle.trans lifecycle⟩

theorem ContactSystem.close_sessions {other : Nat}
    (found : (system.close client).sessions other = some stage) :
    other ≠ client ∧ system.sessions other = some stage := by
  by_cases same : other = client
  · subst same
    simp [ContactSystem.close, ContactSystem.setSession] at found
  · simp only [ContactSystem.close, ContactSystem.setSession, Function.update_of_ne same] at found
    exact ⟨same, found⟩

theorem ContactSystem.close_locks {other : Nat} {id : String} (different : other ≠ client)
    (held : system.locks id = some other) : (system.close client).locks id = some other := by
  have kept : system.locks id ≠ some client := by
    rw [held]
    intro same
    exact different (Option.some.inj same)
  simp only [ContactSystem.close]
  rw [if_neg kept, held]

theorem ContactSystem.Sound.setSession (sound : system.Sound)
    (stageSound : system.StageSound client stage) :
    (system.setSession client (some stage)).Sound where
  ids := sound.ids
  anonymized := sound.anonymized
  stored := sound.stored
  stages := by
    intro other stored found
    by_cases same : other = client
    · subst same
      simp only [ContactSystem.setSession, Function.update_self] at found
      cases found
      exact stageSound.transfer (fun held => held) fun member _ => ⟨_, member, rfl, rfl⟩
    · simp only [ContactSystem.setSession, Function.update_of_ne same] at found
      exact (sound.stages found).transfer (fun held => held) fun member _ => ⟨_, member, rfl, rfl⟩

theorem ContactSystem.Sound.close (sound : system.Sound) : (system.close client).Sound where
  ids := sound.ids
  anonymized := sound.anonymized
  stored := sound.stored
  stages := by
    intro other stage found
    obtain ⟨different, found⟩ := ContactSystem.close_sessions found
    exact (sound.stages found).transfer (ContactSystem.close_locks different)
      fun member _ => ⟨_, member, rfl, rfl⟩

theorem ContactSystem.Sound.goOn (sound : system.Sound) {write : Option ContactWrite}
    (writeSound : ∀ chosen, write = some chosen → chosen.Sound) :
    (system.goOn client write).Sound := by
  cases write with
  | none => exact sound.close
  | some chosen => exact sound.setSession (writeSound chosen rfl)

theorem statusWrite?_sound {id : String} {target : BusinessContactStatus} :
    ∀ chosen, system.statusWrite? id target = some chosen → chosen.Sound := by
  intro chosen found
  unfold ContactSystem.statusWrite? at found
  split at found
  · cases found
  · split at found
    · cases found
    · split at found
      · cases found
        trivial
      · cases found

theorem bulkStatusWrite?_sound {ids : List String} {target : BusinessContactStatus} :
    ∀ chosen, system.bulkStatusWrite? ids target = some chosen → chosen.Sound := by
  intro chosen found
  simp only [ContactSystem.bulkStatusWrite?, Option.ite_none_left_eq_some, Option.some.injEq] at found
  rw [← found.2]
  trivial

theorem bulkAssignWrite?_sound {ids : List String} {assigneeUserId : Option String} :
    ∀ chosen, system.bulkAssignWrite? ids assigneeUserId = some chosen → chosen.Sound := by
  intro chosen found
  simp only [ContactSystem.bulkAssignWrite?, Option.ite_none_left_eq_some, Option.some.injEq] at found
  rw [← found.2]
  trivial

theorem lifecycleWrite?_sound {id : String} {target : BusinessContactLifecycle} :
    ∀ chosen, system.lifecycleWrite? id target = some chosen → chosen.Sound := by
  intro chosen found
  unfold ContactSystem.lifecycleWrite? at found
  split at found
  · cases found
  next other =>
    split at found
    · cases found
    · split at found
      · cases found
      · split at found
        · cases found
          exact other
        · cases found

theorem noteWrite?_sound {contactId authorUserId rawBody noteId : String} :
    ∀ chosen, system.noteWrite? contactId authorUserId rawBody noteId clock = some chosen →
      chosen.Sound := by
  intro chosen found
  simp only [ContactSystem.noteWrite?] at found
  split at found
  · cases found
  · split at found
    · split at found
      · cases found
      · cases found
        rfl
    · cases found

theorem find?_stored {id : String} (found : system.find? id = some contact) :
    contact ∈ system.contacts ∧ contact.id = id := by
  have hit := List.find?_some found
  exact ⟨List.mem_of_find?_eq_some found, by simpa using hit⟩

theorem ContactSystem.Sound.call (sound : system.Sound) (operation : ContactOperation)
    (clock : Int) : (system.call client operation clock).Sound := by
  cases operation with
  | setStatus => exact sound.goOn statusWrite?_sound
  | bulkSetStatus => exact sound.goOn bulkStatusWrite?_sound
  | setLifecycle => exact sound.goOn lifecycleWrite?_sound
  | addNote => exact sound.goOn noteWrite?_sound
  | assign | bulkAssign =>
    simp only [ContactSystem.call]
    split
    · exact sound.setSession trivial
    · exact sound.close
  | anonymize id reason now =>
    simp only [ContactSystem.call]
    split
    · exact sound
    next free =>
      split
      · exact sound.close
      next contact found =>
        obtain ⟨member, same⟩ := find?_stored found
        refine ⟨sound.ids, sound.anonymized, sound.stored, ?_⟩
        intro other stage stored
        by_cases here : other = client
        · subst here
          simp only [ContactSystem.setSession, Function.update_self] at stored
          cases stored
          exact ⟨Function.update_self .., contact, member, same, rfl⟩
        · simp only [ContactSystem.setSession, Function.update_of_ne here] at stored
          refine (sound.stages stored).transfer ?_ fun member _ => ⟨_, member, rfl, rfl⟩
          intro held mine
          have elsewhere : held ≠ id := by
            rintro rfl
            rw [free] at mine
            cases mine
          exact (Function.update_of_ne elsewhere _ _).trans mine

theorem ContactWrite.applyTo_id (write : ContactWrite) (clock : Int) (contact : BusinessContact) :
    (write.applyTo clock contact).id = contact.id := by
  cases write <;> simp only [ContactWrite.applyTo]
  all_goals split <;> rfl

theorem ContactWrite.applyTo_other {write : ContactWrite} (other : contact.id ∉ write.targets)
    (clock : Int) : write.applyTo clock contact = contact := by
  cases write with
  | status ids target => simp [ContactWrite.applyTo, show contact.id ∉ ids from other]
  | assignee ids user => simp [ContactWrite.applyTo, show contact.id ∉ ids from other]
  | lifecycle id target =>
    have different : contact.id ≠ id := fun same => other (List.mem_singleton.mpr same)
    simp [ContactWrite.applyTo, different]
  | note => rfl

theorem ContactWrite.Sound.lifecycle {write : ContactWrite} (sound : write.Sound)
    (anonymized : (write.applyTo clock contact).lifecycleState = .anonymized) :
    contact.lifecycleState = .anonymized := by
  cases write with
  | lifecycle id target =>
    simp only [ContactWrite.applyTo] at anonymized
    split at anonymized
    · exact absurd anonymized sound
    · exact anonymized
  | note => exact anonymized
  | status | assignee =>
    simp only [ContactWrite.applyTo] at anonymized
    split at anonymized <;> exact anonymized

theorem ContactSystem.Sound.write (sound : system.Sound) {write : ContactWrite}
    (writeSound : write.Sound) (free : system.waits write = false) (clock : Int) :
    (system.write client write clock).Sound where
  ids := by
    have same : (system.contacts.map (write.applyTo clock)).map BusinessContact.id =
        system.contacts.map BusinessContact.id := by
      rw [List.map_map]
      exact List.map_congr_left fun contact _ => write.applyTo_id clock contact
    exact same ▸ sound.ids
  anonymized := by
    intro contact member anonymized
    obtain ⟨earlier, stored, rfl⟩ := List.mem_map.mp member
    rw [write.applyTo_id]
    exact sound.anonymized earlier stored (writeSound.lifecycle anonymized)
  stored := by
    intro id member
    obtain ⟨contact, stored, same⟩ := sound.stored id member
    exact ⟨_, List.mem_map_of_mem stored, (write.applyTo_id clock contact).trans same⟩
  stages := by
    intro other stage found
    obtain ⟨different, found⟩ := ContactSystem.close_sessions found
    refine (sound.stages found).transfer (ContactSystem.close_locks different) ?_
    intro contact member held
    have untouched : contact.id ∉ write.targets := by
      intro target
      have unlocked := List.any_eq_false.mp free contact.id target
      simp [held] at unlocked
    exact ⟨_, List.mem_map_of_mem member, by rw [write.applyTo_other untouched],
      by rw [write.applyTo_other untouched]⟩

theorem anonymize_id {id : String} (contact : BusinessContact) :
    (if contact.id == id then contact.anonymize reason now clock else contact).id = contact.id := by
  split <;> rfl

theorem ContactSystem.Sound.anonymize (sound : system.Sound) {id : String}
    {previous : BusinessContactLifecycle}
    (found : system.sessions client = some (.locked id previous reason now)) (clock : Int) :
    (system.anonymize client id reason now clock).Sound where
  ids := by
    have same : (system.contacts.map fun contact =>
        if contact.id == id then contact.anonymize reason now clock else contact).map
          BusinessContact.id = system.contacts.map BusinessContact.id := by
      rw [List.map_map]
      exact List.map_congr_left fun contact _ => anonymize_id contact
    exact same ▸ sound.ids
  anonymized := by
    intro contact member anonymized
    obtain ⟨earlier, stored, rfl⟩ := List.mem_map.mp member
    rw [anonymize_id]
    by_cases hit : earlier.id = id
    · rw [hit]
      exact List.mem_cons_self
    · simp only [beq_iff_eq, hit, if_false] at anonymized
      exact List.mem_cons_of_mem _ (sound.anonymized earlier stored anonymized)
  stored := by
    obtain ⟨-, contact, stored, same, -⟩ := sound.stages found
    intro other member
    rcases List.mem_cons.mp member with rfl | member
    · exact ⟨_, List.mem_map_of_mem stored, (anonymize_id contact).trans same⟩
    · obtain ⟨earlier, earlierStored, earlierSame⟩ := sound.stored other member
      exact ⟨_, List.mem_map_of_mem earlierStored, (anonymize_id earlier).trans earlierSame⟩
  stages := by
    obtain ⟨mine, -⟩ := sound.stages found
    intro other stage stored
    obtain ⟨different, stored⟩ := ContactSystem.close_sessions stored
    refine (sound.stages stored).transfer (ContactSystem.close_locks different) ?_
    intro contact member held
    have elsewhere : contact.id ≠ id := by
      rintro rfl
      rw [mine] at held
      exact different (Option.some.inj held).symm
    exact ⟨_, List.mem_map_of_mem member, by simp [elsewhere], by simp [elsewhere]⟩

theorem ContactSystem.Sound.advance (sound : system.Sound) (clock : Int) :
    (system.advance client clock).Sound := by
  unfold ContactSystem.advance
  cases found : system.sessions client with
  | none => exact sound
  | some stage =>
    cases stage with
    | called operation => exact sound.call operation clock
    | assigneeChecked operation =>
      cases operation with
      | assign id user => exact sound.goOn fun chosen same => by cases same; trivial
      | bulkAssign => exact sound.goOn bulkAssignWrite?_sound
      | setStatus | addNote | bulkSetStatus | setLifecycle | anonymize => exact sound
    | writing write =>
      dsimp only
      split
      · exact sound
      next free => exact sound.write (sound.stages found) (by simpa using free) clock
    | locked id previous reason now =>
      dsimp only
      split
      next already =>
        obtain ⟨-, contact, stored, same, lifecycle⟩ := sound.stages found
        have closed : (system.close client).Sound := sound.close
        refine ⟨closed.ids, fun other member anonymized =>
          List.mem_cons_of_mem _ (closed.anonymized other member anonymized), ?_, ?_⟩
        · intro other member
          rcases List.mem_cons.mp member with rfl | member
          · exact ⟨contact, stored, same⟩
          · exact closed.stored other member
        · intro other stage entered
          exact (closed.stages entered).transfer (fun held => held)
            fun member _ => ⟨_, member, rfl, rfl⟩
      next => exact sound.anonymize found clock

theorem ContactSystem.Sound.ingest (sound : system.Sound) (sha256 : String → String)
    (input : BusinessContactInput) (id : String) (clock : Int) :
    (system.ingest sha256 input id clock).Sound := by
  simp only [ContactSystem.ingest]
  split
  · exact sound
  next fresh =>
    simp only [List.any_eq_true, not_exists, not_and, Bool.not_eq_true, Bool.or_eq_false_iff,
      beq_eq_false_iff_ne] at fresh
    refine ⟨?_, ?_, ?_, ?_⟩
    · rw [List.map_append, List.map_singleton, List.nodup_append]
      refine ⟨sound.ids, List.nodup_singleton _, ?_⟩
      intro taken member added last same
      obtain ⟨contact, stored, rfl⟩ := List.mem_map.mp member
      rw [List.mem_singleton.mp last] at same
      exact (fresh contact stored).1 same
    · intro contact member anonymized
      rcases List.mem_append.mp member with old | new
      · exact sound.anonymized contact old anonymized
      · rw [List.mem_singleton.mp new] at anonymized
        cases anonymized
    · intro other member
      obtain ⟨contact, stored, same⟩ := sound.stored other member
      exact ⟨contact, List.mem_append_left _ stored, same⟩
    · intro client stage found
      exact (sound.stages found).transfer (fun held => held)
        fun member _ => ⟨_, List.mem_append_left _ member, rfl, rfl⟩

theorem ContactSystem.Sound.step (sound : system.Sound) (sha256 : String → String)
    (step : ContactStep) : (system.step sha256 step).Sound := by
  cases step with
  | start client operation =>
    simp only [ContactSystem.step]
    split
    · exact sound
    · exact sound.setSession trivial
  | advance client clock => exact sound.advance clock
  | crash client => exact sound.close
  | ingest input id clock => exact sound.ingest sha256 input id clock
  | setMembers members =>
    refine ⟨sound.ids, sound.anonymized, sound.stored, ?_⟩
    intro client stage found
    exact (sound.stages found).transfer (fun held => held) fun member _ => ⟨_, member, rfl, rfl⟩

theorem BusinessContact.anonymize_erased (contact : BusinessContact)
    (reason : Option ContactAnonymizationReason) (now clock : Int) :
    (contact.anonymize reason now clock).Erased := by
  constructor <;> rfl

theorem BusinessContact.Erased.applyTo (erased : contact.Erased) {anonymized : List String}
    (member : contact.id ∈ anonymized) {write : ContactWrite}
    (spares : write.sparesTombstones anonymized) (clock : Int) :
    (write.applyTo clock contact).Erased := by
  obtain ⟨lifecycle, name, email, phone, company, summary, reference, version, lead, assignee⟩ :=
    erased
  cases write with
  | note => exact ⟨lifecycle, name, email, phone, company, summary, reference, version, lead, assignee⟩
  | status ids target =>
    simp only [ContactWrite.applyTo]
    split
    all_goals
      exact ⟨lifecycle, name, email, phone, company, summary, reference, version, lead, assignee⟩
  | lifecycle id target =>
    have different : contact.id ≠ id := by
      rintro rfl
      exact spares member
    simp only [ContactWrite.applyTo, beq_iff_eq, different, if_false]
    exact ⟨lifecycle, name, email, phone, company, summary, reference, version, lead, assignee⟩
  | assignee ids user =>
    simp only [ContactWrite.applyTo]
    split
    next hit =>
      cases user with
      | none => exact ⟨lifecycle, name, email, phone, company, summary, reference, version, lead, rfl⟩
      | some userId => exact absurd member (spares contact.id (by simpa using hit))
    next =>
      exact ⟨lifecycle, name, email, phone, company, summary, reference, version, lead, assignee⟩

theorem ContactWrite.added_spared {write : ContactWrite} {anonymized : List String}
    (spares : write.sparesTombstones anonymized) {note : BusinessContactNote}
    (member : note ∈ write.added) : note.contactId ∉ anonymized := by
  cases write with
  | note created =>
    rw [List.mem_singleton.mp member]
    exact spares
  | status | lifecycle | assignee => cases member

theorem anonymizationTerminal_write (sound : system.Sound) (terminal : system.AnonymizationTerminal)
    {write : ContactWrite} (writeSound : write.Sound) (clock : Int) :
    (system.write client write clock).AnonymizationTerminal ↔
      write.sparesTombstones system.anonymizations := by
  constructor
  · intro later
    have erased : ∀ id ∈ system.anonymizations, ∃ contact ∈ system.contacts, contact.id = id ∧
        (write.applyTo clock contact).Erased := by
      intro id member
      obtain ⟨contact, stored, same⟩ := sound.stored id member
      refine ⟨contact, stored, same, later.contacts id member _ (List.mem_map_of_mem stored) ?_⟩
      exact (write.applyTo_id clock contact).trans same
    cases write with
    | status => trivial
    | lifecycle id target =>
      intro member
      obtain ⟨contact, stored, same, kept⟩ := erased id member
      have lifecycle := kept.lifecycleState
      simp only [ContactWrite.applyTo, same, beq_self_eq_true, if_true] at lifecycle
      exact writeSound lifecycle
    | assignee ids user =>
      cases user with
      | none => trivial
      | some userId =>
        intro id listed member
        obtain ⟨contact, stored, same, kept⟩ := erased id member
        have unassigned := kept.assignedUserId
        simp [ContactWrite.applyTo, same, listed] at unassigned
    | note created =>
      intro member
      have redacted := later.notes created.contactId member created
        (List.mem_append_right _ (List.mem_singleton_self created)) rfl
      have present : created.body.isSome = true := writeSound
      rw [redacted] at present
      cases present
  · intro spares
    refine ⟨?_, ?_, ?_⟩
    · intro id member
      obtain ⟨contact, stored, same⟩ := sound.stored id member
      exact ⟨_, List.mem_map_of_mem stored, (write.applyTo_id clock contact).trans same⟩
    · intro id member contact stored same
      obtain ⟨earlier, earlierStored, rfl⟩ := List.mem_map.mp stored
      rw [write.applyTo_id] at same
      exact (terminal.contacts id member earlier earlierStored same).applyTo (same ▸ member) spares
        clock
    · intro id member note stored same
      rcases List.mem_append.mp stored with old | new
      · exact terminal.notes id member note old same
      · exact absurd (same ▸ member) (ContactWrite.added_spared spares new)

theorem ContactSystem.AnonymizationTerminal.anonymize (terminal : system.AnonymizationTerminal)
    (sound : system.Sound) {id : String} {previous : BusinessContactLifecycle}
    (found : system.sessions client = some (.locked id previous reason now)) (clock : Int) :
    (system.anonymize client id reason now clock).AnonymizationTerminal where
  stored := (sound.anonymize found clock).stored
  contacts := by
    intro other member contact stored same
    obtain ⟨earlier, earlierStored, rfl⟩ := List.mem_map.mp stored
    rw [anonymize_id] at same
    by_cases hit : earlier.id = id
    · simp only [hit, beq_self_eq_true, if_true]
      exact earlier.anonymize_erased reason now clock
    · simp only [beq_iff_eq, hit, if_false]
      rcases List.mem_cons.mp member with here | member
      · exact absurd (same.trans here) hit
      · exact terminal.contacts other member earlier earlierStored same
  notes := by
    intro other member note stored same
    obtain ⟨earlier, earlierStored, rfl⟩ := List.mem_map.mp stored
    by_cases hit : earlier.contactId = id
    · simp only [hit, beq_self_eq_true, if_true, BusinessContactNote.redact]
      cases body : earlier.body <;> simp [body]
    · simp only [beq_iff_eq, hit, if_false] at same ⊢
      rcases List.mem_cons.mp member with here | member
      · exact absurd (same.trans here) hit
      · exact terminal.notes other member earlier earlierStored same

theorem ContactSystem.AnonymizationTerminal.repeated (terminal : system.AnonymizationTerminal)
    (sound : system.Sound) {id : String}
    (found : system.sessions client = some (.locked id .anonymized reason now)) :
    { system.close client with
      anonymizations := id :: system.anonymizations : ContactSystem }.AnonymizationTerminal := by
  obtain ⟨-, contact, stored, same, lifecycle⟩ := sound.stages found
  have listed : id ∈ system.anonymizations := same ▸ sound.anonymized contact stored lifecycle
  have widen : ∀ other ∈ id :: system.anonymizations, other ∈ system.anonymizations := by
    intro other member
    rcases List.mem_cons.mp member with rfl | member
    · exact listed
    · exact member
  exact ⟨fun other member => terminal.stored other (widen other member),
    fun other member => terminal.contacts other (widen other member),
    fun other member => terminal.notes other (widen other member)⟩

theorem ContactSystem.AnonymizationTerminal.goOn (terminal : system.AnonymizationTerminal)
    (write : Option ContactWrite) : (system.goOn client write).AnonymizationTerminal := by
  cases write with
  | none => exact ⟨terminal.stored, terminal.contacts, terminal.notes⟩
  | some chosen => exact ⟨terminal.stored, terminal.contacts, terminal.notes⟩

theorem ContactSystem.AnonymizationTerminal.call (terminal : system.AnonymizationTerminal)
    (operation : ContactOperation) (clock : Int) :
    (system.call client operation clock).AnonymizationTerminal := by
  cases operation with
  | setStatus | bulkSetStatus | setLifecycle | addNote => exact terminal.goOn _
  | assign | bulkAssign =>
    simp only [ContactSystem.call]
    split
    all_goals exact ⟨terminal.stored, terminal.contacts, terminal.notes⟩
  | anonymize id reason now =>
    simp only [ContactSystem.call]
    split
    · exact terminal
    · split
      all_goals exact ⟨terminal.stored, terminal.contacts, terminal.notes⟩

theorem anonymizationTerminal_advance (sound : system.Sound)
    (terminal : system.AnonymizationTerminal) (clock : Int) :
    (system.advance client clock).AnonymizationTerminal ↔
      SparesTombstones system (.advance client clock) := by
  simp only [SparesTombstones]
  unfold ContactSystem.advance
  cases found : system.sessions client with
  | none => exact iff_of_true terminal fun write other => by cases other
  | some stage =>
    cases stage with
    | called operation =>
      exact iff_of_true (terminal.call operation clock) fun write other => by cases other
    | assigneeChecked operation =>
      refine iff_of_true ?_ fun write other => by cases other
      cases operation with
      | assign => exact terminal.goOn _
      | bulkAssign => exact terminal.goOn _
      | setStatus | addNote | bulkSetStatus | setLifecycle | anonymize => exact terminal
    | locked id previous reason now =>
      refine iff_of_true ?_ fun write other => by cases other
      dsimp only
      split
      next already =>
        subst already
        exact terminal.repeated sound found
      next => exact terminal.anonymize sound found clock
    | writing write =>
      have writeSound : write.Sound := sound.stages found
      have single : (∀ other, some (ContactStage.writing write) = some (.writing other) →
          system.waits other = false → other.sparesTombstones system.anonymizations) ↔
          (system.waits write = false → write.sparesTombstones system.anonymizations) := by
        constructor
        · intro every
          exact every write rfl
        · rintro here other ⟨⟩
          exact here
      rw [single]
      dsimp only
      split
      next waiting => exact iff_of_true terminal fun free => by rw [waiting] at free; cases free
      next free =>
        rw [anonymizationTerminal_write sound terminal writeSound]
        simp [free]

theorem anonymizationTerminal_step (sha256 : String → String) (sound : system.Sound)
    (terminal : system.AnonymizationTerminal) (step : ContactStep) :
    (system.step sha256 step).AnonymizationTerminal ↔ SparesTombstones system step := by
  cases step with
  | start client operation =>
    refine iff_of_true ?_ trivial
    simp only [ContactSystem.step]
    split
    · exact terminal
    · exact ⟨terminal.stored, terminal.contacts, terminal.notes⟩
  | advance client clock => exact anonymizationTerminal_advance sound terminal clock
  | crash client => exact iff_of_true ⟨terminal.stored, terminal.contacts, terminal.notes⟩ trivial
  | ingest input id clock =>
    refine iff_of_true ?_ trivial
    have later := sound.ingest sha256 input id clock
    simp only [ContactSystem.step, ContactSystem.ingest] at later ⊢
    split
    · exact terminal
    next fresh =>
      simp only [List.any_eq_true, not_exists, not_and, Bool.not_eq_true, Bool.or_eq_false_iff,
        beq_eq_false_iff_ne] at fresh
      refine ⟨?_, ?_, terminal.notes⟩
      · intro taken member
        obtain ⟨contact, stored, same⟩ := terminal.stored taken member
        exact ⟨contact, List.mem_append_left _ stored, same⟩
      · intro taken member contact stored same
        rcases List.mem_append.mp stored with old | new
        · exact terminal.contacts taken member contact old same
        · obtain ⟨other, otherStored, otherSame⟩ := terminal.stored taken member
          rw [List.mem_singleton.mp new] at same
          exact absurd (otherSame.trans same.symm) (fresh other otherStored).1
  | setMembers members =>
    exact iff_of_true ⟨terminal.stored, terminal.contacts, terminal.notes⟩ trivial

theorem ContactSystem.Sound.opened (members : List String) :
    (ContactSystem.opened members).Sound where
  ids := List.nodup_nil
  anonymized := by simp [ContactSystem.opened]
  stored := by simp [ContactSystem.opened]
  stages := by
    intro client stage found
    cases found

/-- Anonymization is terminal in exactly the runs in which no lifecycle change, no assignee
and no note is written to a contact whose anonymization has committed. -/
theorem anonymizationTerminal_iff_sparesTombstones (sha256 : String → String)
    (members : List String) (steps : List ContactStep) :
    (∀ reached ∈ Runs.states (ContactSystem.step sha256) (.opened members) steps,
        reached.AnonymizationTerminal) ↔
      Runs.Meets (ContactSystem.step sha256) SparesTombstones (.opened members) steps := by
  have framed : ∀ {state : ContactSystem} {step : ContactStep}, state.Sound →
      (state.step sha256 step).Sound := fun {_ step} sound => sound.step sha256 step
  have initial : (ContactSystem.opened members).AnonymizationTerminal :=
    ⟨by simp [ContactSystem.opened], by simp [ContactSystem.opened], by simp [ContactSystem.opened]⟩
  exact Runs.forall_states_iff_meets framed
    (fun {_ step} sound terminal => anonymizationTerminal_step sha256 sound terminal step)
    (ContactSystem.Sound.opened members) initial

/-! A note that is added to an anonymized contact. -/

def tombstoneInput : BusinessContactInput where
  provider := .metaPlatforms
  sourcePlatform := .facebook
  connectionId := none
  externalLeadId := some "lead-1"
  contentFingerprint := none
  fullName := some "Ada"
  email := none
  phone := none
  company := none
  messageSummary := none
  campaignId := none
  campaignName := none
  adId := none
  adName := none
  formId := none
  formName := none
  receivedAt := 0
  consentValue := none
  consentReference := none
  consentVersion := none

def notedTombstone : List ContactStep :=
  [.ingest tombstoneInput "c1" 0, .start 0 (.anonymize "c1" none 1), .advance 0 1, .advance 0 1,
    .start 1 (.addNote "c1" "u" "call Ada" "n1"), .advance 1 2, .advance 1 2]

theorem not_anonymizationTerminal_of_note :
    ¬ ∀ reached ∈ Runs.states (ContactSystem.step id) (.opened []) notedTombstone,
        reached.AnonymizationTerminal := by
  intro every
  have terminal := every _ (Runs.run_mem_states notedTombstone)
  have noted : ∃ note ∈ (Runs.run (ContactSystem.step id) (.opened []) notedTombstone).notes,
      note.contactId = "c1" ∧ note.body ≠ none := by
    decide +kernel
  have listed : "c1" ∈ (Runs.run (ContactSystem.step id) (.opened [])
      notedTombstone).anonymizations := by
    decide +kernel
  obtain ⟨note, stored, same, readable⟩ := noted
  exact readable (terminal.notes "c1" listed note stored same)

end Tamanor.Db
