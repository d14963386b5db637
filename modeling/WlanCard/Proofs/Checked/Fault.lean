import Mathlib.Algebra.GroupWithZero.Nat
import WlanCard.Word

/-!
# Steps that can fault

The definitions of this library are total: an index is a number below its bound, a register has a
name in place of an address, and a count has no width. Here are the steps that a machine takes
instead, on plain numbers and runs of bytes. Each of them faults where its operands do not fit, and
each comes with the one condition under which it does not.

The modules beside this one redo what the chip does in such steps, and show that the outcome is the
one of the total definitions: nothing faults.
-/

namespace WlanCard

/-- Why a step cannot be taken. -/
inductive Fault where
  /-- An index does not lie below the number of elements. -/
  | index
  /-- The bounds of a slice are out of order or behind the end. -/
  | slice
  /-- Two runs of bytes that must be equally long are not. -/
  | length
  /-- A word is shifted by its width or more. -/
  | shift
  /-- A sum or a product does not fit into its width. -/
  | overflow
  /-- A difference is negative. -/
  | underflow
  /-- Something does not hold that was taken for granted. -/
  | assertion
deriving DecidableEq, Repr

/-- A computation that can fault. -/
abbrev Checked : Type → Type := Except Fault

namespace Checked

variable {α β : Type}

/-- A computation goes on from what its first step has given. -/
theorem ok_bind {x : Checked α} {f : α → Checked β} {a : α} {outcome : Checked β} (first : x = .ok a)
    (rest : f a = outcome) : (x >>= f) = outcome := by
  rw [first]
  exact rest

/-- A fault is the end of it. -/
theorem error_bind {x : Checked α} {f : α → Checked β} {fault : Fault} (first : x = .error fault) :
    (x >>= f) = .error fault := by
  rw [first]
  rfl

/-- Faults unless a condition holds. -/
def require (condition : Prop) [Decidable condition] (fault : Fault) : Checked Unit :=
  if condition then .ok () else .error fault

theorem require_eq {condition : Prop} [Decidable condition] {fault : Fault} (holds : condition) :
    require condition fault = .ok () :=
  if_pos holds

/-! ## Elements and slices -/

/-- A number as an index of `n` elements. -/
def index (n i : Nat) : Checked (Fin n) :=
  if inside : i < n then .ok ⟨i, inside⟩ else .error .index

theorem index_eq {n i : Nat} {k : Fin n} (same : i = k) : index n i = .ok k := by
  subst same
  exact dif_pos k.isLt

/-- One element. -/
def get (xs : List α) (i : Nat) : Checked α :=
  match xs[i]? with
  | some x => .ok x
  | none => .error .index

theorem get_eq {xs : List α} {i : Nat} {x : α} (there : xs[i]? = some x) : get xs i = .ok x := by
  rw [get, there]

/-- Replaces one element. -/
def set (xs : List α) (i : Nat) (x : α) : Checked (List α) :=
  if i < xs.length then .ok (xs.set i x) else .error .index

theorem set_eq {xs : List α} {i : Nat} (inside : i < xs.length) (x : α) :
    set xs i x = .ok (xs.set i x) :=
  if_pos inside

/-- The elements from `start` up to `stop`. -/
def slice (xs : List α) (start stop : Nat) : Checked (List α) :=
  if start ≤ stop ∧ stop ≤ xs.length then .ok (xs.extract start stop) else .error .slice

theorem slice_eq {xs : List α} {start stop : Nat} (ordered : start ≤ stop)
    (inside : stop ≤ xs.length) : slice xs start stop = .ok (xs.extract start stop) :=
  if_pos ⟨ordered, inside⟩

/-- The first elements, where there are more than are wanted. -/
def truncate (xs : List α) (most : Nat) : Checked (List α) :=
  if most < xs.length then slice xs 0 most else .ok xs

theorem truncate_eq (xs : List α) (most : Nat) : truncate xs most = .ok (xs.take most) := by
  unfold truncate
  split
  next long =>
    rw [slice_eq (Nat.zero_le _) (Nat.le_of_lt long), List.extract_eq_take_drop]
    rfl
  next short => rw [List.take_of_length_le (Nat.not_lt.mp short)]

/-- Replaces the elements from `start` up to `stop` by as many others. -/
def overwrite (xs : List α) (start stop : Nat) (source : List α) : Checked (List α) := do
  require (start ≤ stop ∧ stop ≤ xs.length) .slice
  require (source.length = stop - start) .length
  return xs.take start ++ source ++ xs.drop stop

theorem overwrite_eq {xs source : List α} {start stop : Nat} (inside : stop ≤ xs.length)
    (fits : start + source.length = stop) :
    overwrite xs start stop source = .ok (xs.take start ++ source ++ xs.drop stop) := by
  refine ok_bind (require_eq ⟨by omega, inside⟩) ?_
  exact ok_bind (require_eq (by omega)) rfl

/-- What stands in front stays, and so does what is left behind. -/
theorem overwrite_append {done rest source : List α} {start stop : Nat} (begins : start = done.length)
    (fits : start + source.length = stop) (room : source.length ≤ rest.length) :
    overwrite (done ++ rest) start stop source = .ok (done ++ source ++ rest.drop source.length) := by
  subst begins fits
  have inside : done.length + source.length ≤ (done ++ rest).length := by
    rw [List.length_append]
    omega
  rw [overwrite_eq inside rfl, List.take_left, List.drop_length_add_append]

/-! ## Numbers of a width -/

/-- A sum of `width` bits. -/
def add (width x y : Nat) : Checked Nat :=
  if x + y < 2 ^ width then .ok (x + y) else .error .overflow

theorem add_eq {width x y : Nat} (fits : x + y < 2 ^ width) : add width x y = .ok (x + y) :=
  if_pos fits

/-- A product of `width` bits. -/
def mul (width x y : Nat) : Checked Nat :=
  if x * y < 2 ^ width then .ok (x * y) else .error .overflow

theorem mul_eq {width x y : Nat} (fits : x * y < 2 ^ width) : mul width x y = .ok (x * y) :=
  if_pos fits

/-- A difference. -/
def sub (x y : Nat) : Checked Nat :=
  if y ≤ x then .ok (x - y) else .error .underflow

theorem sub_eq {x y : Nat} (above : y ≤ x) : sub x y = .ok (x - y) :=
  if_pos above

/-- A word of `width` bits, shifted up. -/
def shiftLeft (width x amount : Nat) : Checked Nat :=
  if amount < width then .ok (x <<< amount % 2 ^ width) else .error .shift

theorem shiftLeft_eq {width x amount : Nat} (short : amount < width) :
    shiftLeft width x amount = .ok (x <<< amount % 2 ^ width) :=
  if_pos short

/-- A word of `width` bits, shifted down. -/
def shiftRight (width x amount : Nat) : Checked Nat :=
  if amount < width then .ok (x >>> amount) else .error .shift

theorem shiftRight_eq {width x amount : Nat} (short : amount < width) :
    shiftRight width x amount = .ok (x >>> amount) :=
  if_pos short

/-! ## Bytes of words -/

/-- The bit of a byte that stands for a number. -/
def bit (number : Nat) : Checked UInt8 := do
  let moved ← shiftLeft 8 1 number
  return UInt8.ofNat moved

theorem bit_eq {number : Nat} (short : number < 8) :
    bit number = .ok (UInt8.ofNat (1 <<< number)) := by
  refine ok_bind (shiftLeft_eq short) ?_
  have same : UInt8.ofNat (1 <<< number % 2 ^ 8) = UInt8.ofNat (1 <<< number) := by
    apply UInt8.toNat_inj.mp
    simp only [UInt8.toNat_ofNat', Nat.mod_mod]
  rw [same]
  rfl

/-- The byte of a word that a register shows whose bytes start at `base`. -/
def byteAt (word base offset : Nat) : Checked UInt8 := do
  let i ← sub offset base
  let amount ← mul 32 8 i
  let moved ← shiftRight 32 word amount
  return UInt8.ofNat moved

theorem byteAt_eq {n : Nat} (word : BitVec n) {base offset i : Nat} (place : offset = base + i)
    (low : i < 4) : byteAt word.toNat base offset = .ok (Word.byte word i) := by
  subst place
  refine ok_bind (sub_eq (Nat.le_add_right base i)) ?_
  rw [Nat.add_sub_cancel_left]
  refine ok_bind (mul_eq (by omega)) ?_
  exact ok_bind (shiftRight_eq (by omega)) rfl

/-- The word after a register has been written whose bytes start at `base`. -/
def storeByte {n : Nat} (word : BitVec n) (base offset : Nat) (value : UInt8) :
    Checked (BitVec n) := do
  let i ← sub offset base
  let amount ← mul 32 8 i
  require (amount < 32) .shift
  return Word.setByte word i value

theorem storeByte_eq {n : Nat} (word : BitVec n) {base offset i : Nat} (place : offset = base + i)
    (low : i < 4) (value : UInt8) :
    storeByte word base offset value = .ok (Word.setByte word i value) := by
  subst place
  refine ok_bind (sub_eq (Nat.le_add_right base i)) ?_
  rw [Nat.add_sub_cancel_left]
  refine ok_bind (mul_eq (by omega)) ?_
  exact ok_bind (require_eq (by omega)) rfl

end Checked

end WlanCard
