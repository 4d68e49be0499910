import Tamanor.Library.StoredZip

/-! The deterministic ZIP writer (`deterministic-zip.ts`), and what a reader finds in its
archives. -/

set_option autoImplicit false

namespace Tamanor.Db

open Library Library.CyclicRedundancy Library.StoredZip

structure ZipEntry where
  name : Text
  data : List UInt8

def crcTableEntry (n : Nat) : BitVec 32 :=
  (fun c : BitVec 32 => if c &&& 1#32 ≠ 0#32 then 0xedb88320#32 ^^^ (c >>> 1) else c >>> 1)^[8]
    (BitVec.ofNat 32 n)

def crcTable : Array (BitVec 32) := Array.ofFn fun n : Fin 256 => crcTableEntry n

def crcStep (c : BitVec 32) (byte : UInt8) : BitVec 32 :=
  crcTable.getD ((c ^^^ byte.toBitVec.setWidth 32) &&& 0xff#32).toNat 0#32 ^^^ (c >>> 8)

def crc32 (bytes : List UInt8) : Nat :=
  (bytes.foldl crcStep 0xffffffff#32 ^^^ 0xffffffff#32).toNat

/-! Buffers. A write that does not fit throws a `RangeError` (`none`). -/

def alloc (size : Nat) : List UInt8 := List.replicate size 0

/-- `writeUInt16LE` and `writeUInt32LE`, by their width. -/
def writeUIntLE (width value offset : Nat) (buffer : List UInt8) : Option (List UInt8) :=
  if value < 256 ^ width ∧ offset + width ≤ buffer.length then
    some (buffer.take offset ++ (littleEndian width value ++ buffer.drop (offset + width)))
  else none

/-- Writes in their order, each with its width, its value and its offset. -/
def writeAll (writes : List (Nat × Nat × Nat)) (buffer : List UInt8) : Option (List UInt8) :=
  writes.foldlM (fun buffer write => writeUIntLE write.1 write.2.1 write.2.2 buffer) buffer

def dosTime : Nat := 0

def dosDate : Nat := 0x21

structure ZipState where
  locals : List (List UInt8)
  centrals : List (List UInt8)
  offset : Nat

def localHeader (crc size nameLength : Nat) : Option (List UInt8) :=
  writeAll [(4, 0x04034b50, 0), (2, 20, 4), (2, 0, 6), (2, 0, 8), (2, dosTime, 10),
    (2, dosDate, 12), (4, crc, 14), (4, size, 18), (4, size, 22), (2, nameLength, 26), (2, 0, 28)]
    (alloc 30)

def centralHeader (crc size nameLength offset : Nat) : Option (List UInt8) :=
  writeAll [(4, 0x02014b50, 0), (2, 20, 4), (2, 20, 6), (2, 0, 8), (2, 0, 10), (2, dosTime, 12),
    (2, dosDate, 14), (4, crc, 16), (4, size, 20), (4, size, 24), (2, nameLength, 28), (2, 0, 30),
    (2, 0, 32), (2, 0, 34), (2, 0, 36), (4, 0, 38), (4, offset, 42)]
    (alloc 46)

def endRecord (entries centralSize centralStart : Nat) : Option (List UInt8) :=
  writeAll [(4, 0x06054b50, 0), (2, 0, 4), (2, 0, 6), (2, entries, 8), (2, entries, 10),
    (4, centralSize, 12), (4, centralStart, 16), (2, 0, 20)]
    (alloc 22)

def addEntry (state : ZipState) (entry : ZipEntry) : Option ZipState := do
  let nameBytes := Base64.utf8Bytes entry.name
  let crc := crc32 entry.data
  let size := entry.data.length
  let header ← localHeader crc size nameBytes.length
  let central ← centralHeader crc size nameBytes.length state.offset
  some
    { locals := state.locals ++ [header, nameBytes, entry.data]
      centrals := state.centrals ++ [central, nameBytes]
      offset := state.offset + (header.length + nameBytes.length + size) }

def buildDeterministicZip (entries : List ZipEntry) : Option (List UInt8) := do
  let state ← entries.foldlM addEntry ⟨[], [], 0⟩
  let centralBytes := state.centrals.flatten
  let eocd ← endRecord entries.length centralBytes.length state.offset
  some (state.locals ++ [centralBytes, eocd]).flatten

/-- The sizes, the offsets and the count fit their fields. -/
structure ZipFits (entries : List ZipEntry) : Prop where
  count : entries.length < 2 ^ 16
  names : ∀ entry ∈ entries, (Base64.utf8Bytes entry.name).length < 2 ^ 16
  files : (entries.map fun entry =>
    30 + (Base64.utf8Bytes entry.name).length + entry.data.length).sum < 2 ^ 32
  directory : (entries.map fun entry => 46 + (Base64.utf8Bytes entry.name).length).sum < 2 ^ 32

/-- The checksum is the bitwise one, and a reader finds the entries in their order, inside the
archive, with their checksums and with stamps that are the same at any time. -/
def CorrectArchive (entries : List ZipEntry) : Prop :=
  (∀ bytes, crc32 bytes = CyclicRedundancy.crc32 bytes) ∧
    ∃ archive members, buildDeterministicZip entries = some archive ∧
      readZip archive = some members ∧
      members.map (fun member => (member.fileName, member.data)) =
        entries.map (fun entry => (entry.name, entry.data)) ∧
      ∀ member ∈ members, member.crc = CyclicRedundancy.crc32 member.data ∧
        member.offset + (30 + member.name.length + member.data.length) ≤ archive.length ∧
        member.time = dosTime ∧ member.date = dosDate

theorem crcTableEntry_eq (n : Nat) :
    crcTableEntry n = (shift polynomial)^[8] (BitVec.ofNat 32 n) := by
  have step : (fun c : BitVec 32 =>
      if c &&& 1#32 ≠ 0#32 then 0xedb88320#32 ^^^ (c >>> 1) else c >>> 1) = shift polynomial := by
    funext c
    unfold shift
    rw [BitVec.and_one_eq_setWidth_ofBool_getLsbD]
    cases c.getLsbD 0 <;> rfl
  rw [crcTableEntry, step]

theorem crcTable_getD {n : Nat} (inside : n < 256) :
    crcTable.getD n 0#32 = (shift polynomial)^[8] (BitVec.ofNat 32 n) := by
  rw [← crcTableEntry_eq]
  simp [crcTable, inside]

theorem masks_byte : ∀ i < 32, (0xff#32).getLsbD i = decide (i < 8) := by decide

theorem crcStep_eq (c : BitVec 32) (byte : UInt8) :
    crcStep c byte = (bits 8 byte.toBitVec).foldl (feed polynomial) c := by
  have small (i : Nat) (large : 8 ≤ i) : (byte.toBitVec.setWidth 32).getLsbD i = false := by
    simp [BitVec.getLsbD_setWidth, BitVec.getLsbD_of_ge _ i large]
  have index : ((c ^^^ byte.toBitVec.setWidth 32) &&& 0xff#32).toNat < 256 := by
    rw [BitVec.toNat_and]
    exact Nat.lt_of_le_of_lt Nat.and_le_right (by decide)
  have shifted : byte.toBitVec.setWidth 32 >>> 8 = 0#32 := by
    refine BitVec.eq_of_getLsbD_eq fun i _ => ?_
    rw [BitVec.getLsbD_ushiftRight, small _ (by omega), BitVec.getLsbD_zero]
  rw [← bits_setWidth (by decide : 8 ≤ 32) byte.toBitVec 8, foldl_feed_bits small,
    iterate_shift_eq_table masks_byte]
  unfold crcStep
  rw [crcTable_getD index, BitVec.ofNat_toNat, BitVec.setWidth_eq, BitVec.ushiftRight_xor_distrib,
    shifted, BitVec.xor_zero]

theorem crc32_eq (bytes : List UInt8) : crc32 bytes = CyclicRedundancy.crc32 bytes := by
  unfold crc32 CyclicRedundancy.crc32
  rw [List.foldl_flatMap]
  congr 2
  refine congrFun (congrFun (congrArg List.foldl ?_) _) _
  funext c byte
  exact crcStep_eq c byte

def placed : Nat → List (Nat × Nat) → List (Nat × Nat × Nat)
  | _, [] => []
  | offset, field :: fields => (field.1, field.2, offset) :: placed (offset + field.1) fields

def widths (fields : List (Nat × Nat)) : Nat := (fields.map Prod.fst).sum

theorem writeAll_placed {fields : List (Nat × Nat)} (fits : Fits fields) (written : List UInt8) :
    writeAll (placed written.length fields) (written ++ alloc (widths fields)) =
      some (written ++ encode fields) := by
  induction fields generalizing written with
  | nil => simp [writeAll, placed, widths, alloc, encode]
  | cons field fields ih =>
    have fitting := fits field List.mem_cons_self
    have blank : alloc (widths (field :: fields)) = alloc field.1 ++ alloc (widths fields) := by
      simp [alloc, widths, List.replicate_append_replicate]
    have first : writeUIntLE field.1 field.2 written.length
        (written ++ alloc (widths (field :: fields))) =
          some (written ++ littleEndian field.1 field.2 ++ alloc (widths fields)) := by
      rw [blank]
      simp [writeUIntLE, fitting, alloc, ← Nat.add_assoc]
    have later := ih (fun other member => fits other (List.mem_cons_of_mem _ member))
      (written ++ littleEndian field.1 field.2)
    simp only [List.length_append, length_littleEndian] at later
    simpa [writeAll, placed, first, encode] using later

theorem writeAll_encode {fields : List (Nat × Nat)} (fits : Fits fields) :
    writeAll (placed 0 fields) (alloc (widths fields)) = some (encode fields) :=
  writeAll_placed fits []

def zipHeader (entry : ZipEntry) (offset : Nat) : Header where
  flags := 0
  method := 0
  time := dosTime
  date := dosDate
  crc := crc32 entry.data
  compressed := entry.data.length
  size := entry.data.length
  name := Base64.utf8Bytes entry.name
  disk := 0
  offset := offset

def zipFile (entry : ZipEntry) (offset : Nat) : Header × List UInt8 :=
  (zipHeader entry offset, entry.data)

def fileSize (entry : ZipEntry) : Nat :=
  30 + (Base64.utf8Bytes entry.name).length + entry.data.length

def layout : Nat → List ZipEntry → List (Header × List UInt8)
  | _, [] => []
  | offset, entry :: entries => zipFile entry offset :: layout (offset + fileSize entry) entries

theorem length_localRecord (entry : ZipEntry) (offset : Nat) :
    (localRecord (zipFile entry offset)).length = fileSize entry := by
  simp only [localRecord, encode, localFields, zipFile, zipHeader, fileSize, List.flatMap_cons,
    List.flatMap_nil, List.length_append, length_littleEndian, List.length_nil]
  omega

theorem length_centralRecord (entry : ZipEntry) (offset : Nat) :
    (centralRecord (zipFile entry offset)).length = 46 + (Base64.utf8Bytes entry.name).length := by
  simp only [centralRecord, encode, centralFields, zipFile, zipHeader, List.flatMap_cons,
    List.flatMap_nil, List.length_append, length_littleEndian, List.length_nil]

variable {entry : ZipEntry} {offset : Nat} {entries : List ZipEntry} {state : ZipState}

theorem stored_zipFile (name : (Base64.utf8Bytes entry.name).length < 2 ^ 16)
    (data : entry.data.length < 2 ^ 32) (place : offset < 2 ^ 32) :
    Stored (zipFile entry offset) where
  method := rfl
  disk := rfl
  compressed := rfl
  size := rfl
  crc := crc32_eq entry.data
  localFits := by
    have crc := crc32_lt entry.data
    rw [← crc32_eq] at crc
    simp only [Fits, localFields, zipFile, zipHeader, localSignature, dosTime, dosDate,
      List.forall_mem_cons, List.not_mem_nil, false_implies, implies_true, and_true]
    omega
  centralFits := by
    have crc := crc32_lt entry.data
    rw [← crc32_eq] at crc
    simp only [Fits, centralFields, zipFile, zipHeader, centralSignature, dosTime, dosDate,
      List.forall_mem_cons, List.not_mem_nil, false_implies, implies_true, and_true]
    omega

theorem laidOut_layout (names : ∀ entry ∈ entries, (Base64.utf8Bytes entry.name).length < 2 ^ 16)
    (files : offset + (entries.map fileSize).sum < 2 ^ 32) :
    LaidOut offset (layout offset entries) := by
  induction entries generalizing offset with
  | nil => trivial
  | cons entry entries ih =>
    rw [List.map_cons, List.sum_cons] at files
    refine ⟨rfl, stored_zipFile (names entry List.mem_cons_self) ?_ (by omega), ?_⟩
    · have whole : entry.data.length ≤ fileSize entry := Nat.le_add_left ..
      omega
    · rw [length_localRecord]
      exact ih (fun other member => names other (List.mem_cons_of_mem _ member)) (by omega)

section

variable (entries : List ZipEntry) (offset : Nat)

theorem length_layout : (layout offset entries).length = entries.length := by
  induction entries generalizing offset with
  | nil => rfl
  | cons entry entries ih => simp [layout, ih]

theorem length_localRecords :
    ((layout offset entries).flatMap localRecord).length = (entries.map fileSize).sum := by
  induction entries generalizing offset with
  | nil => rfl
  | cons entry entries ih =>
    rw [layout, List.flatMap_cons, List.length_append, ih, length_localRecord, List.map_cons,
      List.sum_cons]

theorem length_centralRecords :
    ((layout offset entries).flatMap centralRecord).length =
      (entries.map fun entry => 46 + (Base64.utf8Bytes entry.name).length).sum := by
  induction entries generalizing offset with
  | nil => rfl
  | cons entry entries ih =>
    rw [layout, List.flatMap_cons, List.length_append, ih, length_centralRecord, List.map_cons,
      List.sum_cons]

end

theorem localHeader_eq (fits : Fits (localFields (zipHeader entry offset))) :
    localHeader (crc32 entry.data) entry.data.length (Base64.utf8Bytes entry.name).length =
      some (encode (localFields (zipHeader entry offset))) := by
  have written := writeAll_encode fits
  simpa only [localHeader, placed, widths, localFields, zipHeader, localSignature, List.map_cons,
    List.map_nil, List.sum_cons, List.sum_nil, Nat.reduceAdd] using written

theorem centralHeader_eq (fits : Fits (centralFields (zipHeader entry offset))) :
    centralHeader (crc32 entry.data) entry.data.length (Base64.utf8Bytes entry.name).length
      offset = some (encode (centralFields (zipHeader entry offset))) := by
  have written := writeAll_encode fits
  simpa only [centralHeader, placed, widths, centralFields, zipHeader, centralSignature,
    List.map_cons, List.map_nil, List.sum_cons, List.sum_nil, Nat.reduceAdd] using written

theorem endRecord_eq {entries size start : Nat} (fits : Fits (endFields entries size start)) :
    endRecord entries size start = some (encode (endFields entries size start)) := by
  have written := writeAll_encode fits
  simpa only [endRecord, placed, widths, endFields, endSignature, List.map_cons, List.map_nil,
    List.sum_cons, List.sum_nil, Nat.reduceAdd] using written

theorem addEntry_eq (stored : Stored (zipFile entry state.offset)) :
    addEntry state entry =
      some
        { locals := state.locals ++
            [encode (localFields (zipHeader entry state.offset)), Base64.utf8Bytes entry.name,
              entry.data]
          centrals := state.centrals ++
            [encode (centralFields (zipHeader entry state.offset)), Base64.utf8Bytes entry.name]
          offset := state.offset + fileSize entry } := by
  have header : localHeader (crc32 entry.data) entry.data.length
      (Base64.utf8Bytes entry.name).length =
        some (encode (localFields (zipHeader entry state.offset))) :=
    localHeader_eq stored.localFits
  have central : centralHeader (crc32 entry.data) entry.data.length
      (Base64.utf8Bytes entry.name).length state.offset =
        some (encode (centralFields (zipHeader entry state.offset))) :=
    centralHeader_eq stored.centralFits
  have size : (encode (localFields (zipHeader entry state.offset))).length = 30 := by
    simp [encode, localFields]
  simp only [addEntry, header, central, Option.bind_eq_bind, Option.bind_some, size, fileSize]

theorem foldlM_addEntry (laid : LaidOut state.offset (layout state.offset entries)) :
    ∃ last, entries.foldlM addEntry state = some last ∧
      last.locals.flatten =
        state.locals.flatten ++ (layout state.offset entries).flatMap localRecord ∧
      last.centrals.flatten =
        state.centrals.flatten ++ (layout state.offset entries).flatMap centralRecord ∧
      last.offset = state.offset + (entries.map fileSize).sum := by
  induction entries generalizing state with
  | nil => exact ⟨state, rfl, by simp [layout], by simp [layout], rfl⟩
  | cons entry entries ih =>
    obtain ⟨-, stored, rest⟩ := laid
    rw [length_localRecord] at rest
    have step := addEntry_eq stored
    obtain ⟨last, done, locals, centrals, offset⟩ := @ih ⟨_, _, state.offset + fileSize entry⟩ rest
    refine ⟨last, ?_, ?_, ?_, ?_⟩
    · rw [List.foldlM_cons, step]
      exact done
    · simp [locals, layout, localRecord, zipFile, zipHeader]
    · simp [centrals, layout, centralRecord, zipFile, zipHeader]
    · simp [offset, Nat.add_assoc]

theorem fits_endFields (fits : ZipFits entries) :
    Fits (endFields (layout 0 entries).length ((layout 0 entries).flatMap centralRecord).length
      ((layout 0 entries).flatMap localRecord).length) := by
  have count := fits.count
  have files := fits.files
  have directory := fits.directory
  rw [length_layout, length_centralRecords, length_localRecords]
  simp only [Fits, endFields, List.forall_mem_cons]
  refine ⟨by decide, by decide, by decide, count, count, directory, files, by decide,
    List.forall_mem_nil _⟩

theorem buildDeterministicZip_eq (fits : ZipFits entries) :
    buildDeterministicZip entries = some (archive (layout 0 entries)) := by
  have laid : LaidOut 0 (layout 0 entries) :=
    laidOut_layout fits.names (by rw [Nat.zero_add]; exact fits.files)
  obtain ⟨last, done, locals, centrals, offset⟩ := @foldlM_addEntry entries ⟨[], [], 0⟩ laid
  have eocd := endRecord_eq (fits_endFields fits)
  rw [length_layout, length_localRecords] at eocd
  simp only [List.flatten_nil, List.nil_append, Nat.zero_add] at locals centrals offset
  simp only [buildDeterministicZip, done, Option.bind_eq_bind, Option.bind_some, centrals, offset,
    eocd, List.flatten_append, locals, archive, length_layout, length_localRecords,
    List.flatten_cons, List.flatten_nil, List.append_nil]

theorem map_fileName_layout (entries : List ZipEntry) (offset : Nat) :
    ((layout offset entries).map Member.of).map (fun member => (member.fileName, member.data)) =
      entries.map fun entry =>
        ((Base64.utf8Bytes entry.name).map ofCodePage437, entry.data) := by
  induction entries generalizing offset with
  | nil => rfl
  | cons entry entries ih =>
    have name : (Member.of (zipFile entry offset)).fileName =
        (Base64.utf8Bytes entry.name).map ofCodePage437 := by
      simp [Member.fileName, Member.of, zipFile, zipHeader]
    rw [layout, List.map_cons, List.map_cons, ih, List.map_cons, name]
    rfl

theorem mem_layout {member : Member} (present : member ∈ (layout offset entries).map Member.of) :
    member.crc = CyclicRedundancy.crc32 member.data ∧
      member.offset + (30 + member.name.length + member.data.length) ≤
        offset + (entries.map fileSize).sum ∧
      member.time = dosTime ∧ member.date = dosDate := by
  induction entries generalizing offset with
  | nil => cases present
  | cons entry entries ih =>
    rw [List.map_cons, List.sum_cons]
    rw [layout, List.map_cons] at present
    rcases List.mem_cons.1 present with rfl | present
    · refine ⟨crc32_eq entry.data, ?_, rfl, rfl⟩
      change offset + fileSize entry ≤ _
      omega
    · obtain ⟨crc, inside, stamps⟩ := ih present
      exact ⟨crc, by omega, stamps⟩

theorem map_fileName_layout_iff (entries : List ZipEntry) :
    ((layout 0 entries).map Member.of).map (fun member => (member.fileName, member.data)) =
        entries.map (fun entry => (entry.name, entry.data)) ↔
      ∀ entry ∈ entries, ∀ char ∈ entry.name, char.toNat < 128 := by
  rw [map_fileName_layout, List.map_inj_left]
  simp only [Prod.mk.injEq, and_true, map_ofCodePage437_utf8Bytes_iff]

theorem readZip_buildDeterministicZip (fits : ZipFits entries) :
    readZip (archive (layout 0 entries)) = some ((layout 0 entries).map .of) :=
  readZip_archive (laidOut_layout fits.names (by rw [Nat.zero_add]; exact fits.files))
    (fits_endFields fits)

theorem ascii_of_correctArchive (fits : ZipFits entries) (correct : CorrectArchive entries) :
    ∀ entry ∈ entries, ∀ char ∈ entry.name, char.toNat < 128 := by
  obtain ⟨-, archive, members, writes, reads, same, -⟩ := correct
  obtain rfl := Option.some.inj ((buildDeterministicZip_eq fits).symm.trans writes)
  obtain rfl := Option.some.inj ((readZip_buildDeterministicZip fits).symm.trans reads)
  exact (map_fileName_layout_iff entries).1 same

/-- An archive is correct exactly where all its names are ASCII: the checksums, the offsets and
the data always are, but the names are written as UTF-8 without the bit that says so. -/
theorem correctArchive_iff (entries : List ZipEntry) (fits : ZipFits entries) :
    CorrectArchive entries ↔ ∀ entry ∈ entries, ∀ char ∈ entry.name, char.toNat < 128 := by
  constructor
  · exact ascii_of_correctArchive fits
  · intro ascii
    refine ⟨crc32_eq, _, _, buildDeterministicZip_eq fits, readZip_buildDeterministicZip fits,
      (map_fileName_layout_iff entries).2 ascii, fun member present => ?_⟩
    obtain ⟨crc, inside, stamps⟩ := mem_layout present
    refine ⟨crc, Nat.le_trans inside ?_, stamps⟩
    rw [Nat.zero_add, ← length_localRecords entries 0]
    exact (List.prefix_append ..).length_le

theorem correctArchive_metadata : CorrectArchive [⟨"metadata.json".toList, [0x7b, 0x7d]⟩] := by
  have ascii : "metadata.json".toList.all (fun char => char.toNat < 128) = true := by decide
  refine (correctArchive_iff _ ⟨by decide, by decide, by decide, by decide⟩).2 ?_
  refine List.forall_mem_singleton.2 fun char present => ?_
  exact of_decide_eq_true (List.all_eq_true.1 ascii char present)

/-- The two bytes of the letter are read as two other characters. -/
theorem not_correctArchive_umlaut : ZipFits [⟨['ü'], []⟩] ∧ ¬ CorrectArchive [⟨['ü'], []⟩] := by
  have fits : ZipFits [⟨['ü'], []⟩] := ⟨by decide, by decide, by decide, by decide⟩
  refine ⟨fits, fun correct => ?_⟩
  have ascii := ascii_of_correctArchive fits correct _ List.mem_cons_self 'ü' List.mem_cons_self
  exact absurd ascii (by decide)

/-! A build that succeeds has written what fits. -/

theorem writeAll_ok {writes : List (Nat × Nat × Nat)} {buffer written : List UInt8}
    (done : writeAll writes buffer = some written) :
    (∀ write ∈ writes, write.2.1 < 256 ^ write.1) ∧ written.length = buffer.length := by
  induction writes generalizing buffer with
  | nil =>
    cases done
    exact ⟨List.forall_mem_nil _, rfl⟩
  | cons write rest ih =>
    rw [writeAll, List.foldlM_cons] at done
    obtain ⟨next, first, later⟩ := Option.bind_eq_some_iff.mp done
    obtain ⟨⟨fits, inside⟩, same⟩ := Option.ite_none_right_eq_some.mp first
    obtain ⟨restFits, length⟩ := ih later
    refine ⟨List.forall_mem_cons.mpr ⟨fits, restFits⟩, length.trans ?_⟩
    rw [← Option.some.inj same]
    simp only [List.length_append, List.length_take, List.length_drop, length_littleEndian]
    omega

theorem addEntry_ok {next : ZipState} (added : addEntry state entry = some next) :
    (Base64.utf8Bytes entry.name).length < 2 ^ 16 ∧
      next.offset = state.offset + fileSize entry ∧
      next.centrals.flatten.length =
        state.centrals.flatten.length + (46 + (Base64.utf8Bytes entry.name).length) := by
  obtain ⟨header, isHeader, added⟩ := Option.bind_eq_some_iff.mp added
  obtain ⟨central, isCentral, added⟩ := Option.bind_eq_some_iff.mp added
  obtain rfl := Option.some.inj added
  obtain ⟨fits, headerLength⟩ := writeAll_ok isHeader
  have centralLength := (writeAll_ok isCentral).2
  rw [alloc, List.length_replicate] at headerLength centralLength
  refine ⟨fits (2, _, 26) (by simp), ?_, ?_⟩
  · simp only [headerLength, fileSize]
  · simp [centralLength]

theorem foldlM_addEntry_ok {last : ZipState} (built : entries.foldlM addEntry state = some last) :
    (∀ entry ∈ entries, (Base64.utf8Bytes entry.name).length < 2 ^ 16) ∧
      last.offset = state.offset + (entries.map fileSize).sum ∧
      last.centrals.flatten.length = state.centrals.flatten.length +
        (entries.map fun entry => 46 + (Base64.utf8Bytes entry.name).length).sum := by
  induction entries generalizing state with
  | nil =>
    cases built
    exact ⟨List.forall_mem_nil _, rfl, rfl⟩
  | cons entry rest ih =>
    rw [List.foldlM_cons] at built
    obtain ⟨next, added, later⟩ := Option.bind_eq_some_iff.mp built
    obtain ⟨name, offset, central⟩ := addEntry_ok added
    obtain ⟨names, lastOffset, lastCentral⟩ := ih later
    refine ⟨List.forall_mem_cons.mpr ⟨name, names⟩, ?_, ?_⟩
    · rw [lastOffset, offset, List.map_cons, List.sum_cons, Nat.add_assoc]
    · rw [lastCentral, central, List.map_cons, List.sum_cons, Nat.add_assoc]

theorem zipFits_of_build {bytes : List UInt8} (built : buildDeterministicZip entries = some bytes) :
    ZipFits entries := by
  obtain ⟨last, done, built⟩ := Option.bind_eq_some_iff.mp built
  obtain ⟨eocd, isEnd, -⟩ := Option.bind_eq_some_iff.mp built
  obtain ⟨names, offset, directory⟩ := foldlM_addEntry_ok done
  have fits := (writeAll_ok isEnd).1
  have files : last.offset < 2 ^ 32 := fits (4, _, 16) (by simp)
  have central : last.centrals.flatten.length < 2 ^ 32 := fits (4, _, 12) (by simp)
  rw [offset, Nat.zero_add] at files
  rw [directory, List.flatten_nil, List.length_nil, Nat.zero_add] at central
  exact ⟨fits (2, _, 8) (by simp), names, files, central⟩

theorem map_name_layout (entries : List ZipEntry) (offset : Nat) :
    ((layout offset entries).map Member.of).map (fun member => (member.name, member.data)) =
      entries.map fun entry => (Base64.utf8Bytes entry.name, entry.data) := by
  induction entries generalizing offset with
  | nil => rfl
  | cons entry entries ih =>
    rw [layout, List.map_cons, List.map_cons, ih, List.map_cons]
    rfl

theorem readZip_of_build {bytes : List UInt8} (built : buildDeterministicZip entries = some bytes) :
    ∃ members, readZip bytes = some members ∧
      members.map (fun member => (member.name, member.data)) =
        entries.map fun entry => (Base64.utf8Bytes entry.name, entry.data) := by
  have fits := zipFits_of_build built
  obtain rfl := Option.some.inj ((buildDeterministicZip_eq fits).symm.trans built)
  exact ⟨_, readZip_buildDeterministicZip fits, map_name_layout entries 0⟩

end Tamanor.Db
