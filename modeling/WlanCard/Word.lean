/-!
# Words and their bytes

Registers wider than a byte are read and written one byte at a time, and every multi-byte value in
a message is a run of bytes, least or most significant first. This module holds the one rule behind
all of them: byte `i` of a word is counted from its least significant end.

`byte_setByte` says that replacing one byte changes that byte and no other.
-/

namespace WlanCard.Word

variable {n : Nat}

/-- Byte `i` of a word, counted from the least significant end; zero beyond the word's width. -/
def byte (x : BitVec n) (i : Nat) : UInt8 :=
  .ofBitVec (x.extractLsb' (8 * i) 8)

/-- The word with byte `i` replaced by `b`. -/
def setByte (x : BitVec n) (i : Nat) (b : UInt8) : BitVec n :=
  (x &&& ~~~((BitVec.allOnes 8).setWidth n <<< (8 * i))) ||| (b.toBitVec.setWidth n <<< (8 * i))

/-- The low `count` bytes of a word, least significant first. -/
def littleEndian (count : Nat) (x : BitVec n) : List UInt8 :=
  (List.range count).map (byte x)

/-- The low `count` bytes of a word, most significant first. -/
def bigEndian (count : Nat) (x : BitVec n) : List UInt8 :=
  (littleEndian count x).reverse

/-- The number whose bytes, least significant first, are `bytes`. -/
def ofLittleEndian (bytes : List UInt8) : Nat :=
  bytes.foldr (fun b rest => b.toNat + 256 * rest) 0

/-- The number whose bytes, most significant first, are `bytes`. -/
def ofBigEndian (bytes : List UInt8) : Nat :=
  bytes.foldl (fun high b => 256 * high + b.toNat) 0

@[simp] theorem length_littleEndian (count : Nat) (x : BitVec n) :
    (littleEndian count x).length = count := by
  simp [littleEndian]

@[simp] theorem length_bigEndian (count : Nat) (x : BitVec n) :
    (bigEndian count x).length = count := by
  simp [bigEndian]

/-- **One byte at a time**: after byte `i` is replaced, byte `i` is the new one and every other
byte is the old one. -/
theorem byte_setByte (x : BitVec n) (i j : Nat) (b : UInt8) (fits : 8 * (i + 1) ≤ n) :
    byte (setByte x i b) j = if j = i then b else byte x j := by
  apply UInt8.toBitVec_inj.mp
  apply BitVec.eq_of_getLsbD_eq
  intro k hk
  by_cases same : j = i
  · subst same
    have inside : 8 * j + k < n := by omega
    have above : ¬ 8 * j + k < 8 * j := by omega
    have ones : (255#8)[k] = true := BitVec.getElem_allOnes k hk
    simp [byte, setByte, hk, inside, above, ones]
  · simp only [if_neg same]
    by_cases inside : 8 * j + k < n
    · rcases Nat.lt_or_gt_of_ne same with before | after
      · have low : 8 * j + k < 8 * i := by omega
        simp [byte, setByte, hk, inside, low]
      · have high : ¬ 8 * j + k < 8 * i := by omega
        have far : 8 ≤ 8 * j + k - 8 * i := by omega
        simp [byte, setByte, hk, inside, high, BitVec.getLsbD_of_ge _ _ far]
    · have out : n ≤ 8 * j + k := by omega
      simp [byte, setByte, hk, BitVec.getLsbD_of_ge _ _ out]

end WlanCard.Word
