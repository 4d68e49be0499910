import Tamanor.Library.Text

/-! Texts as UTF-8 bytes, and bytes as base64url without padding. Decoding is lenient:
a front of a character that does not go on becomes a replacement character, what is no base64
symbol is skipped, and what follows a padding character is not read. -/

set_option autoImplicit false

namespace Tamanor.Library.Base64

def utf8Bytes (text : Text) : List UInt8 := text.flatMap String.utf8EncodeChar

/-- How many bytes a first byte asks for after it, and the bounds of the next one. -/
def utf8Follow (first : UInt8) : Option (Nat × UInt8 × UInt8) :=
  if 0xC2 ≤ first ∧ first ≤ 0xDF then some (1, 0x80, 0xBF)
  else if first = 0xE0 then some (2, 0xA0, 0xBF)
  else if first = 0xED then some (2, 0x80, 0x9F)
  else if 0xE1 ≤ first ∧ first ≤ 0xEF then some (2, 0x80, 0xBF)
  else if first = 0xF0 then some (3, 0x90, 0xBF)
  else if 0xF1 ≤ first ∧ first ≤ 0xF3 then some (3, 0x80, 0xBF)
  else if first = 0xF4 then some (3, 0x80, 0x8F)
  else none

/-- How many of the bytes after a first one belong to it: the longest front of a character. -/
def utf8Subpart (first : UInt8) : List UInt8 → Nat
  | [] => 0
  | second :: rest =>
    match utf8Follow first with
    | none => 0
    | some (more, low, high) =>
      if low ≤ second ∧ second ≤ high then
        1 + ((rest.take (more - 1)).takeWhile fun byte => 0x80 ≤ byte && byte ≤ 0xBF).length
      else 0

def utf8Text (bytes : List UInt8) : Text :=
  match bytes with
  | [] => []
  | byte :: rest =>
    match (byte :: rest).toByteArray.utf8DecodeChar? 0 with
    | some char => char :: utf8Text (rest.drop (char.utf8Size - 1))
    | none => '\uFFFD' :: utf8Text (rest.drop (utf8Subpart byte rest))
termination_by bytes.length
decreasing_by
  · simp only [List.length_drop, List.length_cons]
    omega
  · simp only [List.length_drop, List.length_cons]
    omega

def symbol (value : Nat) : Char :=
  if value < 26 then Char.ofNat ('A'.toNat + value)
  else if value < 52 then Char.ofNat ('a'.toNat + (value - 26))
  else if value < 62 then Char.ofNat ('0'.toNat + (value - 52))
  else if value = 62 then '-'
  else '_'

def value? (char : Char) : Option Nat :=
  if 'A' ≤ char ∧ char ≤ 'Z' then some (char.toNat - 'A'.toNat)
  else if 'a' ≤ char ∧ char ≤ 'z' then some (char.toNat - 'a'.toNat + 26)
  else if '0' ≤ char ∧ char ≤ '9' then some (char.toNat - '0'.toNat + 52)
  else if char = '-' ∨ char = '+' then some 62
  else if char = '_' ∨ char = '/' then some 63
  else none

def sextets : List UInt8 → List Nat
  | first :: second :: third :: rest =>
    first.toNat / 4 :: (first.toNat % 4 * 16 + second.toNat / 16) ::
      (second.toNat % 16 * 4 + third.toNat / 64) :: third.toNat % 64 :: sextets rest
  | [first, second] =>
    [first.toNat / 4, first.toNat % 4 * 16 + second.toNat / 16, second.toNat % 16 * 4]
  | [first] => [first.toNat / 4, first.toNat % 4 * 16]
  | [] => []

def octets : List Nat → List UInt8
  | first :: second :: third :: fourth :: rest =>
    UInt8.ofNat (first * 4 + second / 16) :: UInt8.ofNat (second % 16 * 16 + third / 4) ::
      UInt8.ofNat (third % 4 * 64 + fourth) :: octets rest
  | [first, second, third] =>
    [UInt8.ofNat (first * 4 + second / 16), UInt8.ofNat (second % 16 * 16 + third / 4)]
  | [first, second] => [UInt8.ofNat (first * 4 + second / 16)]
  | _ => []

/-- `Buffer.from(text).toString("base64url")`. -/
def encode (text : Text) : Text := (sextets (utf8Bytes text)).map symbol

/-- What is read of a text: the low bytes of its code units, up to the first `=`. -/
def lowBytes (text : Text) : Text :=
  ((Text.codeUnits text).map fun unit => Char.ofNat (unit % 256)).takeWhile (· != '=')

/-- `Buffer.from(text, "base64url").toString("utf8")`. -/
def decode (text : Text) : Text := utf8Text (octets ((lowBytes text).filterMap value?))

theorem utf8EncodeChar_eq_cons (char : Char) :
    ∃ byte rest, String.utf8EncodeChar char = byte :: rest ∧ rest.length = char.utf8Size - 1 := by
  have size : (String.utf8EncodeChar char).length = char.utf8Size :=
    String.length_utf8EncodeChar char
  have positive := char.utf8Size_pos
  cases encoded : String.utf8EncodeChar char with
  | nil =>
    rw [encoded] at size
    rw [← size] at positive
    exact absurd positive (lt_irrefl _)
  | cons byte rest =>
    rw [encoded, List.length_cons] at size
    exact ⟨byte, rest, rfl, by omega⟩

theorem utf8Text_utf8Bytes (text : Text) : utf8Text (utf8Bytes text) = text := by
  induction text with
  | nil => simp [utf8Bytes, utf8Text]
  | cons char text ih =>
    obtain ⟨byte, rest, encoded, size⟩ := utf8EncodeChar_eq_cons char
    have bytes : utf8Bytes (char :: text) = byte :: (rest ++ utf8Bytes text) := by
      simp [utf8Bytes, encoded]
    have decoded : (byte :: (rest ++ utf8Bytes text)).toByteArray.utf8DecodeChar? 0 =
        some char := by
      rw [← List.cons_append, ← encoded, List.toByteArray_append]
      exact ByteArray.utf8DecodeChar?_utf8EncodeChar_append
    rw [bytes, utf8Text, decoded]
    simp only [← size, List.drop_left, ih]

theorem sextets_lt {bytes : List UInt8} : ∀ value ∈ sextets bytes, value < 64 := by
  induction bytes using sextets.induct with
  | case1 first second third rest ih =>
    have := first.toNat_lt
    have := second.toNat_lt
    have := third.toNat_lt
    simp only [sextets, List.mem_cons]
    rintro value (rfl | rfl | rfl | rfl | later)
    · omega
    · omega
    · omega
    · omega
    · exact ih value later
  | case2 first second =>
    have := first.toNat_lt
    have := second.toNat_lt
    simp only [sextets, List.mem_cons, List.not_mem_nil, or_false]
    rintro value (rfl | rfl | rfl) <;> omega
  | case3 first =>
    have := first.toNat_lt
    simp only [sextets, List.mem_cons, List.not_mem_nil, or_false]
    rintro value (rfl | rfl) <;> omega
  | case4 => simp [sextets]

theorem ofNat_eq {byte : UInt8} {value : Nat} (same : value = byte.toNat) :
    UInt8.ofNat value = byte := by
  rw [same, UInt8.ofNat_toNat]

theorem octets_sextets (bytes : List UInt8) : octets (sextets bytes) = bytes := by
  induction bytes using sextets.induct with
  | case1 first second third rest ih =>
    have := first.toNat_lt
    have := second.toNat_lt
    have := third.toNat_lt
    simp only [sextets, octets, ih]
    rw [ofNat_eq (show _ = first.toNat by omega), ofNat_eq (show _ = second.toNat by omega),
      ofNat_eq (show _ = third.toNat by omega)]
  | case2 first second =>
    have := first.toNat_lt
    have := second.toNat_lt
    simp only [sextets, octets]
    rw [ofNat_eq (show _ = first.toNat by omega), ofNat_eq (show _ = second.toNat by omega)]
  | case3 first =>
    have := first.toNat_lt
    simp only [sextets, octets]
    rw [ofNat_eq (show _ = first.toNat by omega)]
  | case4 => rfl

theorem value?_symbol {value : Nat} (bound : value < 64) : value? (symbol value) = some value := by
  have all : ∀ value : Fin 64, value? (symbol value) = some value.val := by decide
  exact all ⟨value, bound⟩

theorem symbol_plain {value : Nat} (bound : value < 64) :
    (symbol value).toNat < 0x10000 ∧ Char.ofNat ((symbol value).toNat % 256) = symbol value ∧
      symbol value ≠ '=' := by
  have all : ∀ value : Fin 64, (symbol value).toNat < 0x10000 ∧
      Char.ofNat ((symbol value).toNat % 256) = symbol value ∧ symbol value ≠ '=' := by
    decide
  exact all ⟨value, bound⟩

theorem lowBytes_symbol {values : List Nat} (bound : ∀ value ∈ values, value < 64) :
    lowBytes (values.map symbol) = values.map symbol := by
  induction values with
  | nil => rfl
  | cons value values ih =>
    obtain ⟨basic, low, unpadded⟩ := symbol_plain (bound value List.mem_cons_self)
    have rest := ih fun other member => bound other (List.mem_cons_of_mem _ member)
    unfold lowBytes at rest ⊢
    rw [List.map_cons, Text.codeUnits_cons, if_pos basic, List.cons_append, List.nil_append,
      List.map_cons, low, List.takeWhile_cons, if_pos (bne_iff_ne.mpr unpadded), rest]

theorem filterMap_value?_symbol {values : List Nat} (bound : ∀ value ∈ values, value < 64) :
    (values.map symbol).filterMap value? = values := by
  induction values with
  | nil => rfl
  | cons value values ih =>
    rw [List.map_cons, List.filterMap_cons_some (value?_symbol (bound value List.mem_cons_self)),
      ih fun other member => bound other (List.mem_cons_of_mem _ member)]

@[simp] theorem decode_encode (text : Text) : decode (encode text) = text := by
  rw [decode, encode, lowBytes_symbol sextets_lt, filterMap_value?_symbol sextets_lt, octets_sextets, utf8Text_utf8Bytes]

theorem encode_ne_nil {text : Text} (nonempty : text ≠ []) : encode text ≠ [] := by
  intro empty
  have back := decode_encode text
  rw [empty] at back
  exact nonempty (by rw [← back]; simp [decode, lowBytes, Text.codeUnits, octets, utf8Text])

end Tamanor.Library.Base64
