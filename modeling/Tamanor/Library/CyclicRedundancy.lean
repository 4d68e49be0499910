import Mathlib.Algebra.GroupWithZero.Nat
import Mathlib.Logic.Function.Iterate

/-! Cyclic redundancy codes with the lowest bit first: the shift register that is fed bit by bit,
and the lookup of several steps at once. -/

set_option autoImplicit false

namespace Tamanor.Library.CyclicRedundancy

variable {w : Nat} (poly : BitVec w)

/-- One step of the register: the lowest bit leaves, and the polynomial is added for it. -/
def shift (register : BitVec w) : BitVec w :=
  if register.getLsbD 0 then poly ^^^ (register >>> 1) else register >>> 1

def feed (register : BitVec w) (bit : Bool) : BitVec w :=
  shift poly (register ^^^ if bit then 1#w else 0#w)

def bits : Nat → BitVec w → List Bool
  | 0, _ => []
  | count + 1, word => word.getLsbD 0 :: bits count (word >>> 1)

variable {poly} {register word first second mask : BitVec w} {count : Nat}

theorem shift_xor : shift poly (first ^^^ second) = shift poly first ^^^ shift poly second := by
  unfold shift
  rw [BitVec.getLsbD_xor, BitVec.ushiftRight_xor_distrib]
  cases first.getLsbD 0 <;> cases second.getLsbD 0
  · rfl
  · simp only [Bool.false_xor, if_true, Bool.false_eq_true, if_false]
    rw [← BitVec.xor_assoc, ← BitVec.xor_assoc, BitVec.xor_comm poly]
  · simp only [Bool.true_xor, Bool.not_false, if_true, Bool.false_eq_true, if_false]
    rw [BitVec.xor_assoc]
  · simp only [Bool.true_xor, Bool.not_true, if_true, Bool.false_eq_true, if_false]
    rw [BitVec.xor_comm poly, BitVec.xor_assoc, ← BitVec.xor_assoc poly, BitVec.xor_self,
      BitVec.zero_xor]

theorem iterate_shift_xor (count : Nat) : (shift poly)^[count] (first ^^^ second) =
    (shift poly)^[count] first ^^^ (shift poly)^[count] second := by
  induction count generalizing first second with
  | zero => rfl
  | succ count ih =>
    simp only [Function.iterate_succ_apply]
    rw [shift_xor, ih]

theorem shift_of_even (even : register.getLsbD 0 = false) :
    shift poly register = register >>> 1 := by
  simp [shift, even]

theorem iterate_shift_of_low (low : ∀ i < count, register.getLsbD i = false) :
    (shift poly)^[count] register = register >>> count := by
  induction count generalizing register with
  | zero => simp
  | succ count ih =>
    rw [Function.iterate_succ_apply, shift_of_even (low 0 (Nat.succ_pos count)), ih,
      ← BitVec.shiftRight_add, Nat.add_comm]
    intro i small
    rw [BitVec.getLsbD_ushiftRight]
    exact low _ (by omega)

theorem foldl_feed_bits (small : ∀ i, count ≤ i → word.getLsbD i = false) :
    (bits count word).foldl (feed poly) register = (shift poly)^[count] (register ^^^ word) := by
  induction count generalizing register word with
  | zero =>
    have empty : word = 0#w := BitVec.eq_of_getLsbD_eq fun i _ => by simp [small i (Nat.zero_le i)]
    simp [bits, empty]
  | succ count ih =>
    have rest (i : Nat) (large : count ≤ i) : (word >>> 1).getLsbD i = false := by
      rw [BitVec.getLsbD_ushiftRight]
      exact small _ (by omega)
    simp only [bits, List.foldl_cons, Function.iterate_succ_apply]
    rw [ih rest]
    congr 1
    -- The lowest bit is taken out of the word, and what is left of it only moves.
    have low : (word ^^^ if word.getLsbD 0 then 1#w else 0#w).getLsbD 0 = false := by
      cases bit : word.getLsbD 0 with
      | false => simp [bit]
      | true =>
        have positive := BitVec.lt_of_getLsbD bit
        simp [bit, positive]
    have moved : (word ^^^ if word.getLsbD 0 then 1#w else 0#w) >>> 1 = word >>> 1 := by
      refine BitVec.eq_of_getLsbD_eq fun i _ => ?_
      cases word.getLsbD 0 <;> simp [BitVec.getLsbD_ushiftRight, BitVec.getLsbD_one, Nat.add_comm 1]
    have split : register ^^^ word = (register ^^^ if word.getLsbD 0 then 1#w else 0#w) ^^^
        (word ^^^ if word.getLsbD 0 then 1#w else 0#w) := by
      rw [BitVec.xor_assoc, BitVec.xor_comm word, ← BitVec.xor_assoc _ _ word, BitVec.xor_self,
        BitVec.zero_xor]
    rw [split, shift_xor, shift_of_even low, moved]
    rfl

theorem iterate_shift_eq_table (masks : ∀ i < w, mask.getLsbD i = decide (i < count)) :
    (shift poly)^[count] register =
      (shift poly)^[count] (register &&& mask) ^^^ (register >>> count) := by
  have split : register = (register &&& mask) ^^^ (register &&& ~~~mask) := by
    refine BitVec.eq_of_getLsbD_eq fun i inside => ?_
    simp only [BitVec.getLsbD_xor, BitVec.getLsbD_and, BitVec.getLsbD_not, inside]
    cases register.getLsbD i <;> cases mask.getLsbD i <;> rfl
  have low (i : Nat) (below : i < count) : (register &&& ~~~mask).getLsbD i = false := by
    by_cases inside : i < w
    · simp [masks i inside, below]
    · exact BitVec.getLsbD_of_ge _ _ (Nat.not_lt.mp inside)
  have kept : (register &&& ~~~mask) >>> count = register >>> count := by
    refine BitVec.eq_of_getLsbD_eq fun i _ => ?_
    rw [BitVec.getLsbD_ushiftRight, BitVec.getLsbD_ushiftRight]
    by_cases inside : count + i < w
    · have high : mask.getLsbD (count + i) = false := by simp [masks _ inside]
      simp only [BitVec.getLsbD_and, BitVec.getLsbD_not, high, inside]
      cases register.getLsbD (count + i) <;> rfl
    · rw [BitVec.getLsbD_of_ge _ _ (Nat.not_lt.mp inside),
        BitVec.getLsbD_of_ge _ _ (Nat.not_lt.mp inside)]
  calc
    (shift poly)^[count] register =
        (shift poly)^[count] ((register &&& mask) ^^^ (register &&& ~~~mask)) := by rw [← split]
    _ = (shift poly)^[count] (register &&& mask) ^^^ (register >>> count) := by
        rw [iterate_shift_xor, iterate_shift_of_low low, kept]

theorem bits_setWidth {v : Nat} (wider : v ≤ w) (word : BitVec v) (count : Nat) :
    bits count (word.setWidth w) = bits count word := by
  induction count generalizing word with
  | zero => rfl
  | succ count ih =>
    have low : (word.setWidth w).getLsbD 0 = word.getLsbD 0 := by
      rw [BitVec.getLsbD_setWidth]
      by_cases positive : 0 < w
      · simp [positive]
      · simp [BitVec.getLsbD_of_ge word 0 (by omega)]
    have moved : word.setWidth w >>> 1 = (word >>> 1).setWidth w := by
      refine BitVec.eq_of_getLsbD_eq fun i inside => ?_
      simp only [BitVec.getLsbD_ushiftRight, BitVec.getLsbD_setWidth, inside]
      by_cases next : 1 + i < w
      · simp [next]
      · simp [BitVec.getLsbD_of_ge word (1 + i) (by omega)]
    simp only [bits, low, moved, ih]

def polynomial : BitVec 32 := 0xedb88320#32

def crc32 (message : List UInt8) : Nat :=
  ((message.flatMap fun byte => bits 8 byte.toBitVec).foldl (feed polynomial) 0xffffffff#32 ^^^
    0xffffffff#32).toNat

theorem crc32_lt (message : List UInt8) : crc32 message < 2 ^ 32 := BitVec.isLt _

/-- The check value of the code. -/
example : crc32 ("123456789".toList.map Char.toUInt8) = 0xcbf43926 := by decide +kernel

end Tamanor.Library.CyclicRedundancy
