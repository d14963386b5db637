import Mathlib.Algebra.Group.Nat.Defs
import WlanCard.Card.Command

/-!
# Arguments of register accesses

The host's side of `Command.directArgument` and `Command.extendedArgument`: the argument of every
request that fits into one, and that reading it gives the request back (`directArgument_argument`,
`extendedArgument_argument`).
-/

namespace WlanCard

namespace ArgumentField

/-- A field is a digit of the argument, for a mask of `width` ones. -/
theorem toNat_get (field : ArgumentField) (argument : UInt32) (shift width : Nat)
    (placed : field.shift.toNat % 32 = shift) (masked : field.mask.toNat = 2 ^ width - 1) :
    (field.get argument).toNat = argument.toNat / 2 ^ shift % 2 ^ width := by
  rw [get, UInt32.toNat_and, UInt32.toNat_shiftRight, placed, masked,
    Nat.and_two_pow_sub_one_eq_mod, Nat.shiftRight_eq_div_pow]

theorem isSet_of_digit {field : ArgumentField} {argument : UInt32} {b : Bool}
    (digit : (field.get argument).toNat = b.toNat) : field.isSet argument = b := by
  cases b with
  | false =>
    have clear : field.get argument = 0 := UInt32.toNat_inj.mp digit
    rw [isSet, clear]
    rfl
  | true =>
    have set : field.get argument = 1 := UInt32.toNat_inj.mp digit
    rw [isSet, set]
    rfl

end ArgumentField

namespace DirectRequest

/-- The argument as a number, its fields side by side. -/
def word (q : DirectRequest) : Nat :=
  q.isWrite.toNat * 2 ^ 31 + q.function.val * 2 ^ 28 + q.readBack.toNat * 2 ^ 27 +
    q.address.toNat * 2 ^ 9 + q.value.toNat

/-- The argument that asks for a direct access. -/
def argument (q : DirectRequest) : UInt32 :=
  UInt32.ofNat q.word

theorem toNat_argument (q : DirectRequest) (fits : q.address < addressSpace) :
    q.argument.toNat = q.word := by
  have address : q.address.toNat < 131072 := fits
  have isWrite := q.isWrite.toNat_le
  have readBack := q.readBack.toNat_le
  have value := q.value.toNat_lt
  have function := q.function.isLt
  rw [argument, UInt32.toNat_ofNat']
  unfold word
  omega

end DirectRequest

namespace Command

/-- The function number is a digit of three bits. -/
theorem functionArgument_of_digit {argument : UInt32} {f : FunctionNumber}
    (digit : argument.toNat / 2 ^ 28 % 2 ^ 3 = f.val) : functionArgument argument = f := by
  have field := ArgumentField.function.toNat_get argument 28 3 rfl rfl
  have small := f.isLt
  apply Fin.ext
  show (ArgumentField.function.get argument).toUInt8.toNat % 8 = f.val
  rw [UInt32.toNat_toUInt8, field, digit]
  omega

/-- **Direct accesses** are what their arguments ask for. -/
theorem directArgument_argument {q : DirectRequest} (fits : q.address < addressSpace) :
    directArgument q.argument = q := by
  have whole := q.toNat_argument fits
  have address : q.address.toNat < 131072 := fits
  have isWrite := q.isWrite.toNat_le
  have readBack := q.readBack.toNat_le
  have value := q.value.toNat_lt
  have function := q.function.isLt
  unfold DirectRequest.word at whole
  have write : ArgumentField.write.isSet q.argument = q.isWrite := by
    apply ArgumentField.isSet_of_digit
    rw [ArgumentField.toNat_get _ _ 31 1 rfl rfl, whole]
    omega
  have back : ArgumentField.readBack.isSet q.argument = q.readBack := by
    apply ArgumentField.isSet_of_digit
    rw [ArgumentField.toNat_get _ _ 27 1 rfl rfl, whole]
    omega
  have aimed : functionArgument q.argument = q.function := by
    apply functionArgument_of_digit
    rw [whole]
    omega
  have start : ArgumentField.address.get q.argument = q.address := by
    apply UInt32.toNat_inj.mp
    rw [ArgumentField.toNat_get _ _ 9 17 rfl rfl, whole]
    omega
  have byte : (ArgumentField.value.get q.argument).toUInt8 = q.value := by
    apply UInt8.toNat_inj.mp
    rw [UInt32.toNat_toUInt8, ArgumentField.toNat_get _ _ 0 8 rfl rfl, whole]
    omega
  rw [directArgument, aimed, start, write, back, byte]

end Command

namespace ExtendedRequest

/-- The argument as a number, its fields side by side. -/
def word (q : ExtendedRequest) : Nat :=
  (decide (q.direction = .write)).toNat * 2 ^ 31 + q.function.val * 2 ^ 28 +
    q.blockMode.toNat * 2 ^ 27 + (decide (q.addressing = .incrementing)).toNat * 2 ^ 26 +
    q.address.toNat * 2 ^ 9 + q.count

/-- The argument that asks for a transfer. -/
def argument (q : ExtendedRequest) : UInt32 :=
  UInt32.ofNat q.word

theorem toNat_argument (q : ExtendedRequest) (fits : q.address < addressSpace)
    (counts : q.count < 2 ^ 9) : q.argument.toNat = q.word := by
  have address : q.address.toNat < 131072 := fits
  have isWrite := (decide (q.direction = .write)).toNat_le
  have blockMode := q.blockMode.toNat_le
  have incrementing := (decide (q.addressing = .incrementing)).toNat_le
  have function := q.function.isLt
  rw [argument, UInt32.toNat_ofNat']
  unfold word
  omega

end ExtendedRequest

/-- **Transfers** are what their arguments ask for. -/
theorem Command.extendedArgument_argument {q : ExtendedRequest} (fits : q.address < addressSpace)
    (counts : q.count < 2 ^ 9) : extendedArgument q.argument = q := by
  have whole := q.toNat_argument fits counts
  have address : q.address.toNat < 131072 := fits
  have isWrite := (decide (q.direction = .write)).toNat_le
  have blockMode := q.blockMode.toNat_le
  have incrementing := (decide (q.addressing = .incrementing)).toNat_le
  have function := q.function.isLt
  unfold ExtendedRequest.word at whole
  have write : ArgumentField.write.isSet q.argument = decide (q.direction = .write) := by
    apply ArgumentField.isSet_of_digit
    rw [ArgumentField.toNat_get _ _ 31 1 rfl rfl, whole]
    omega
  have mode : ArgumentField.blockMode.isSet q.argument = q.blockMode := by
    apply ArgumentField.isSet_of_digit
    rw [ArgumentField.toNat_get _ _ 27 1 rfl rfl, whole]
    omega
  have step : ArgumentField.incrementing.isSet q.argument =
      decide (q.addressing = .incrementing) := by
    apply ArgumentField.isSet_of_digit
    rw [ArgumentField.toNat_get _ _ 26 1 rfl rfl, whole]
    omega
  have aimed : functionArgument q.argument = q.function := by
    apply functionArgument_of_digit
    rw [whole]
    omega
  have start : ArgumentField.address.get q.argument = q.address := by
    apply UInt32.toNat_inj.mp
    rw [ArgumentField.toNat_get _ _ 9 17 rfl rfl, whole]
    omega
  have count : (ArgumentField.count.get q.argument).toNat = q.count := by
    rw [ArgumentField.toNat_get _ _ 0 9 rfl rfl, whole]
    omega
  have direction : (if decide (q.direction = .write) then Direction.write else .read) =
      q.direction := by
    cases q.direction <;> rfl
  have addressing : (if decide (q.addressing = .incrementing) then Addressing.incrementing
      else .fixed) = q.addressing := by
    cases q.addressing <;> rfl
  rw [extendedArgument, aimed, start, write, mode, step, count, direction, addressing]

end WlanCard
