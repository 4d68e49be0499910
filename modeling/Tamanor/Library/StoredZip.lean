import Tamanor.Library.Base64
import Tamanor.Library.CyclicRedundancy

/-! Archives of stored files. A reader finds the record at the end, follows it to the directory
and the directory to the files; an archive that is laid out one file after the other is read
back. -/

set_option autoImplicit false

namespace Tamanor.Library.StoredZip

open CyclicRedundancy

/-! Little-endian records, as the widths of their fields and the values. -/

def littleEndian : Nat → Nat → List UInt8
  | 0, _ => []
  | width + 1, value => UInt8.ofNat value :: littleEndian width (value / 256)

def valueOf : List UInt8 → Nat
  | [] => 0
  | byte :: rest => byte.toNat + 256 * valueOf rest

def encode (fields : List (Nat × Nat)) : List UInt8 :=
  fields.flatMap fun field => littleEndian field.1 field.2

def chunk (count : Nat) (bytes : List UInt8) : Option (List UInt8 × List UInt8) :=
  if count ≤ bytes.length then some (bytes.take count, bytes.drop count) else none

def decode : List Nat → List UInt8 → Option (List Nat × List UInt8)
  | [], bytes => some ([], bytes)
  | width :: widths, bytes => do
    let (field, bytes) ← chunk width bytes
    let (values, bytes) ← decode widths bytes
    some (valueOf field :: values, bytes)

def Fits (fields : List (Nat × Nat)) : Prop :=
  ∀ field ∈ fields, field.2 < 256 ^ field.1

@[simp] theorem length_littleEndian (width value : Nat) :
    (littleEndian width value).length = width := by
  induction width generalizing value with
  | zero => rfl
  | succ width ih => simp [littleEndian, ih]

theorem valueOf_littleEndian {width value : Nat} (fits : value < 256 ^ width) :
    valueOf (littleEndian width value) = value := by
  induction width generalizing value with
  | zero =>
    have zero : value = 0 := by simpa using fits
    simp [littleEndian, valueOf, zero]
  | succ width ih =>
    have rest : value / 256 < 256 ^ width := by
      rw [Nat.div_lt_iff_lt_mul (by decide)]
      simpa [Nat.pow_succ] using fits
    simp only [littleEndian, valueOf, ih rest, UInt8.toNat_ofNat']
    omega

@[simp] theorem chunk_append (front rest : List UInt8) :
    chunk front.length (front ++ rest) = some (front, rest) := by
  simp [chunk]

theorem decode_encode {fields : List (Nat × Nat)} (fits : Fits fields) (rest : List UInt8) :
    decode (fields.map Prod.fst) (encode fields ++ rest) = some (fields.map Prod.snd, rest) := by
  induction fields with
  | nil => rfl
  | cons field fields ih =>
    have front := chunk_append (littleEndian field.1 field.2) (encode fields ++ rest)
    rw [length_littleEndian] at front
    have value := valueOf_littleEndian (fits field List.mem_cons_self)
    have later := ih fun other member => fits other (List.mem_cons_of_mem _ member)
    simp only [encode] at front later
    simp [decode, encode, front, later, value]

/-- The entry of a file in the directory, as far as a reader uses it. -/
structure Header where
  flags : Nat
  method : Nat
  time : Nat
  date : Nat
  crc : Nat
  compressed : Nat
  size : Nat
  name : List UInt8
  disk : Nat
  offset : Nat
deriving DecidableEq

structure Member where
  flags : Nat
  time : Nat
  date : Nat
  crc : Nat
  offset : Nat
  name : List UInt8
  data : List UInt8

def localSignature : Nat := 0x04034b50

def centralSignature : Nat := 0x02014b50

def endSignature : Nat := 0x06054b50

def localFields (header : Header) : List (Nat × Nat) :=
  [(4, localSignature), (2, 20), (2, header.flags), (2, header.method), (2, header.time),
    (2, header.date), (4, header.crc), (4, header.compressed), (4, header.size),
    (2, header.name.length), (2, 0)]

def centralFields (header : Header) : List (Nat × Nat) :=
  [(4, centralSignature), (2, 20), (2, 20), (2, header.flags), (2, header.method),
    (2, header.time), (2, header.date), (4, header.crc), (4, header.compressed),
    (4, header.size), (2, header.name.length), (2, 0), (2, 0), (2, header.disk), (2, 0), (4, 0),
    (4, header.offset)]

def endFields (entries size offset : Nat) : List (Nat × Nat) :=
  [(4, endSignature), (2, 0), (2, 0), (2, entries), (2, entries), (4, size), (4, offset), (2, 0)]

/-- A record at the end whose comment is what follows it. -/
structure EndRecord where
  disk : Nat
  startDisk : Nat
  diskEntries : Nat
  entries : Nat
  size : Nat
  offset : Nat

variable (bytes : List UInt8)

def readEnd : Option EndRecord :=
  match decode [4, 2, 2, 2, 2, 4, 4, 2] bytes with
  | some ([signature, disk, startDisk, diskEntries, entries, size, offset, comment], rest) =>
    if signature = endSignature ∧ rest.length = comment then
      some ⟨disk, startDisk, diskEntries, entries, size, offset⟩
    else none
  | _ => none

/-- The search goes backwards from the end, over every length that a comment can have. -/
def findEnd : Option (Nat × EndRecord) :=
  (List.range (65535 + 1)).findSome? fun comment =>
    if 22 + comment ≤ bytes.length then
      (readEnd (bytes.drop (bytes.length - 22 - comment))).map fun record =>
        (bytes.length - 22 - comment, record)
    else none

def readHeader : Option (Header × List UInt8) :=
  match decode [4, 2, 2, 2, 2, 2, 2, 4, 4, 4, 2, 2, 2, 2, 2, 4, 4] bytes with
  | some ([signature, _, _, flags, method, time, date, crc, compressed, size, name, extra, comment,
      disk, _, _, offset], rest) =>
    if signature = centralSignature then do
      let (name, rest) ← chunk name rest
      let (_, rest) ← chunk (extra + comment) rest
      some (⟨flags, method, time, date, crc, compressed, size, name, disk, offset⟩, rest)
    else none
  | _ => none

def readDirectory : Nat → List UInt8 → Option (List Header × List UInt8)
  | 0, bytes => some ([], bytes)
  | count + 1, bytes => do
    let (header, bytes) ← readHeader bytes
    let (headers, bytes) ← readDirectory count bytes
    some (header :: headers, bytes)

/-- The file that an entry of the directory points to: stored, described in the same way in both
places, and with the code that is said. -/
def readMember (header : Header) : Option Member :=
  match decode [4, 2, 2, 2, 2, 2, 4, 4, 4, 2, 2] (bytes.drop header.offset) with
  | some ([signature, _, flags, method, time, date, crc, compressed, size, name, extra], rest) =>
    if signature = localSignature ∧ flags = header.flags ∧ method = 0 ∧ header.method = 0 ∧
        crc = header.crc ∧ compressed = size ∧ header.compressed = size ∧ header.size = size ∧
        header.disk = 0 then do
      let (name, rest) ← chunk name rest
      let (_, rest) ← chunk extra rest
      let (data, _) ← chunk size rest
      if name = header.name ∧ crc32 data = crc then
        some ⟨flags, time, date, crc, header.offset, name, data⟩
      else none
    else none
  | _ => none

def readZip : Option (List Member) := do
  let (position, record) ← findEnd bytes
  if record.disk = 0 ∧ record.startDisk = 0 ∧ record.diskEntries = record.entries ∧
      record.offset + record.size ≤ position then
    let (directory, _) ← chunk record.size (bytes.drop record.offset)
    let (headers, rest) ← readDirectory record.entries directory
    if rest = [] then headers.mapM (readMember bytes) else none
  else none

def codePage437 : Text :=
  ("ÇüéâäàåçêëèïîìÄÅÉæÆôöòûùÿÖÜ¢£¥₧ƒáíóúñÑªº¿⌐¬½¼¡«»░▒▓│┤╡╢╖╕╣║╗╝╜╛┐" ++
    "└┴┬├─┼╞╟╚╔╩╦╠═╬╧╨╤╥╙╘╒╓╫╪┘┌█▄▌▐▀αßΓπΣσµτΦΘΩδ∞φε∩≡±≥≤⌠⌡÷≈°∙·√ⁿ²■\u00a0").toList

def ofCodePage437 (byte : UInt8) : Char :=
  if byte.toNat < 128 then Char.ofNat byte.toNat else codePage437.getD (byte.toNat - 128) '?'

def Member.fileName (member : Member) : Text :=
  if member.flags.testBit 11 then Base64.utf8Text member.name
  else member.name.map ofCodePage437

/-! Archives that are laid out one file after the other. -/

def localRecord (file : Header × List UInt8) : List UInt8 :=
  encode (localFields file.1) ++ (file.1.name ++ file.2)

def centralRecord (file : Header × List UInt8) : List UInt8 :=
  encode (centralFields file.1) ++ file.1.name

def archive (files : List (Header × List UInt8)) : List UInt8 :=
  files.flatMap localRecord ++ (files.flatMap centralRecord ++
    encode (endFields files.length (files.flatMap centralRecord).length
      (files.flatMap localRecord).length))

structure Stored (file : Header × List UInt8) : Prop where
  method : file.1.method = 0
  disk : file.1.disk = 0
  compressed : file.1.compressed = file.2.length
  size : file.1.size = file.2.length
  crc : file.1.crc = crc32 file.2
  localFits : Fits (localFields file.1)
  centralFits : Fits (centralFields file.1)

/-- The offsets are the places of the files, counted from a start. -/
def LaidOut : Nat → List (Header × List UInt8) → Prop
  | _, [] => True
  | start, file :: rest =>
    file.1.offset = start ∧ Stored file ∧ LaidOut (start + (localRecord file).length) rest

def Member.of (file : Header × List UInt8) : Member :=
  ⟨file.1.flags, file.1.time, file.1.date, file.1.crc, file.1.offset, file.1.name, file.2⟩

variable {file : Header × List UInt8} {files : List (Header × List UInt8)}

theorem readHeader_centralRecord (fits : Fits (centralFields file.1)) (rest : List UInt8) :
    readHeader (centralRecord file ++ rest) = some (file.1, rest) := by
  have fields := decode_encode fits (file.1.name ++ rest)
  have none := chunk_append [] rest
  simp only [centralFields, List.map_cons, List.map_nil] at fields
  simp only [List.length_nil, List.nil_append] at none
  simp [readHeader, centralRecord, centralFields, fields, none]

theorem readDirectory_centralRecords (fits : ∀ file ∈ files, Fits (centralFields file.1))
    (rest : List UInt8) :
    readDirectory files.length (files.flatMap centralRecord ++ rest) =
      some (files.map Prod.fst, rest) := by
  induction files with
  | nil => rfl
  | cons file files ih =>
    have first := readHeader_centralRecord (fits file List.mem_cons_self)
      (files.flatMap centralRecord ++ rest)
    have later := ih fun other member => fits other (List.mem_cons_of_mem _ member)
    simp [readDirectory, first, later]

theorem readMember_localRecord (stored : Stored file) (before after : List UInt8)
    (place : file.1.offset = before.length) :
    readMember (before ++ (localRecord file ++ after)) file.1 = some (.of file) := by
  obtain ⟨method, disk, compressed, size, crc, fits, -⟩ := stored
  have fields := decode_encode fits (file.1.name ++ (file.2 ++ after))
  have none := chunk_append [] (file.2 ++ after)
  have found : (before ++ (localRecord file ++ after)).drop file.1.offset =
      encode (localFields file.1) ++ (file.1.name ++ (file.2 ++ after)) := by
    simp [place, localRecord]
  simp only [localFields, List.map_cons, List.map_nil, method, compressed, size, crc] at fields
  simp only [List.length_nil, List.nil_append] at none
  unfold readMember
  rw [found]
  simp [localFields, fields, none, method, disk, compressed, size, crc, Member.of]

theorem readMembers_localRecords (before after : List UInt8) (laid : LaidOut before.length files) :
    (files.map Prod.fst).mapM (readMember (before ++ (files.flatMap localRecord ++ after))) =
      some (files.map .of) := by
  induction files generalizing before with
  | nil => rfl
  | cons file files ih =>
    obtain ⟨place, stored, rest⟩ := laid
    have first := readMember_localRecord stored before (files.flatMap localRecord ++ after) place
    have later := ih (before ++ localRecord file) (by simpa using rest)
    simp only [List.append_assoc] at later
    simp [first, later]

theorem LaidOut.fits {start : Nat} (laid : LaidOut start files) :
    ∀ file ∈ files, Fits (centralFields file.1) := by
  induction files generalizing start with
  | nil => exact nofun
  | cons first files ih =>
    intro file member
    obtain ⟨-, stored, rest⟩ := laid
    rcases List.mem_cons.1 member with rfl | member
    · exact stored.centralFits
    · exact ih rest file member

theorem readEnd_endFields {entries size offset : Nat}
    (fits : Fits (endFields entries size offset)) :
    readEnd (encode (endFields entries size offset)) =
      some ⟨0, 0, entries, entries, size, offset⟩ := by
  have fields := decode_encode fits []
  simp only [endFields, List.map_cons, List.map_nil, List.append_nil] at fields
  simp [readEnd, endFields, fields]

theorem findEnd_endFields {entries size offset : Nat} (fits : Fits (endFields entries size offset))
    (before : List UInt8) : findEnd (before ++ encode (endFields entries size offset)) =
      some (before.length, ⟨0, 0, entries, entries, size, offset⟩) := by
  have length : (encode (endFields entries size offset)).length = 22 := by
    simp [encode, endFields]
  unfold findEnd
  rw [List.range_succ_eq_map, List.findSome?_cons]
  simp [length, readEnd_endFields fits]

theorem readZip_archive (laid : LaidOut 0 files)
    (fits : Fits (endFields files.length (files.flatMap centralRecord).length
      (files.flatMap localRecord).length)) :
    readZip (archive files) = some (files.map .of) := by
  have found := findEnd_endFields fits (files.flatMap localRecord ++ files.flatMap centralRecord)
  have cut := chunk_append (files.flatMap centralRecord)
    (encode (endFields files.length (files.flatMap centralRecord).length
      (files.flatMap localRecord).length))
  have directory := readDirectory_centralRecords laid.fits []
  have members := readMembers_localRecords [] (files.flatMap centralRecord ++
    encode (endFields files.length (files.flatMap centralRecord).length
      (files.flatMap localRecord).length)) laid
  simp only [List.append_assoc, List.nil_append, List.append_nil] at found directory members
  simp only [readZip, archive, found, cut, directory, members, Option.bind_eq_bind,
    Option.bind_some, List.drop_left, List.length_append, Nat.le_refl, and_self, if_true]

theorem ofCodePage437_utf8EncodeChar {char : Char} (ascii : char.toNat < 128) :
    (String.utf8EncodeChar char).map ofCodePage437 = [char] := by
  have size : char.utf8Size = 1 := by
    rw [Char.utf8Size_eq_one_iff, UInt32.le_iff_toNat_le]
    change char.toNat ≤ 127
    omega
  have byte : char.val.toUInt8.toNat = char.toNat := by
    change char.toNat % 2 ^ 8 = char.toNat
    exact Nat.mod_eq_of_lt (Nat.lt_trans ascii (by decide))
  have read : ofCodePage437 char.val.toUInt8 = char := by
    unfold ofCodePage437
    rw [byte, if_pos ascii, Char.ofNat_toNat]
  rw [String.utf8EncodeChar_eq_singleton size, List.map_cons, read]
  rfl

theorem length_le_utf8Bytes (text : Text) : text.length ≤ (Base64.utf8Bytes text).length := by
  induction text with
  | nil => exact Nat.le_refl _
  | cons char text ih =>
    have size := char.utf8Size_pos
    simp only [Base64.utf8Bytes, List.flatMap_cons, List.length_append, List.length_cons,
      String.length_utf8EncodeChar] at ih ⊢
    omega

/-- The bytes of a text are read as the same text in the code page exactly where it is ASCII: any
other character is more than one byte, and each byte is a character there. -/
theorem map_ofCodePage437_utf8Bytes_iff (text : Text) :
    (Base64.utf8Bytes text).map ofCodePage437 = text ↔ ∀ char ∈ text, char.toNat < 128 := by
  induction text with
  | nil => simp [Base64.utf8Bytes]
  | cons char text ih =>
    have split : Base64.utf8Bytes (char :: text) =
        String.utf8EncodeChar char ++ Base64.utf8Bytes text := rfl
    rw [split, List.map_append]
    by_cases ascii : char.toNat < 128
    · simp [ofCodePage437_utf8EncodeChar ascii, ascii, ih]
    · refine iff_of_false (fun same => ?_) (by simp [ascii])
      have lengths := congrArg List.length same
      have rest := length_le_utf8Bytes text
      have size : char.utf8Size ≠ 1 := by
        rw [Ne, Char.utf8Size_eq_one_iff, UInt32.le_iff_toNat_le]
        change ¬ char.toNat ≤ 127
        omega
      have positive := char.utf8Size_pos
      simp only [List.length_append, List.length_map, String.length_utf8EncodeChar,
        List.length_cons] at lengths
      omega

end Tamanor.Library.StoredZip
