import Mathlib.Algebra.GroupWithZero.Nat
import WlanCard.Word

/-!
# Numbers and their bytes

The low bytes of a word, read back as a number, are the word up to its width
(`ofLittleEndian_littleEndian`), in whichever order they were told (`ofBigEndian_bigEndian`). Clearing bits
of a word concerns those alone (`getLsbD_andNot`).
-/

namespace WlanCard.Word

variable {n : Nat}

theorem toNat_byte (x : BitVec n) (i : Nat) : (byte x i).toNat = x.toNat / 256 ^ i % 256 := by
  have width : 2 ^ (8 * i) = 256 ^ i := by rw [Nat.pow_mul]
  show (x.extractLsb' (8 * i) 8).toNat = _
  rw [BitVec.extractLsb'_toNat, Nat.shiftRight_eq_div_pow, width]

theorem ofLittleEndian_append (low high : List UInt8) :
    ofLittleEndian (low ++ high) = ofLittleEndian low + 256 ^ low.length * ofLittleEndian high := by
  induction low with
  | nil => simp [ofLittleEndian]
  | cons b low ih =>
    have first : ∀ bytes, ofLittleEndian (b :: bytes) = b.toNat + 256 * ofLittleEndian bytes :=
      fun _ => rfl
    rw [List.cons_append, first, first, ih, List.length_cons, Nat.pow_succ', Nat.mul_add,
      Nat.mul_assoc, Nat.add_assoc]

/-- **The bytes of a word** stand for it, as far as they go. -/
theorem ofLittleEndian_littleEndian (count : Nat) (x : BitVec n) :
    ofLittleEndian (littleEndian count x) = x.toNat % 256 ^ count := by
  induction count with
  | zero => exact (Nat.mod_one _).symm
  | succ count ih =>
    have split : littleEndian (count + 1) x = littleEndian count x ++ [byte x count] := by
      unfold littleEndian
      rw [List.range_succ, List.map_append]
      rfl
    have last : ofLittleEndian [byte x count] = (byte x count).toNat := rfl
    rw [split, ofLittleEndian_append, ih, last, length_littleEndian, toNat_byte, Nat.pow_succ,
      Nat.mod_mul]

/-- The most significant byte first is the least significant byte last. -/
theorem ofBigEndian_eq_reverse (bytes : List UInt8) :
    ofBigEndian bytes = ofLittleEndian bytes.reverse := by
  unfold ofBigEndian ofLittleEndian
  rw [List.foldr_reverse]
  congr 1
  funext high b
  exact Nat.add_comm ..

theorem ofBigEndian_bigEndian (count : Nat) (x : BitVec n) :
    ofBigEndian (bigEndian count x) = x.toNat % 256 ^ count := by
  rw [ofBigEndian_eq_reverse, bigEndian, List.reverse_reverse, ofLittleEndian_littleEndian]

/-- What is cleared is not set, and nothing else changes. -/
theorem getLsbD_andNot (x y : BitVec n) (i : Nat) :
    (x &&& ~~~y).getLsbD i = (x.getLsbD i && !y.getLsbD i) := by
  rw [BitVec.getLsbD_and, BitVec.getLsbD_not]
  by_cases inside : i < n
  · rw [decide_eq_true inside, Bool.true_and]
  · rw [BitVec.getLsbD_of_ge x i (Nat.le_of_not_lt inside), Bool.false_and, Bool.false_and]

end WlanCard.Word
