import WlanCard.Proofs.Card.Bookkeeping
import WlanCard.Proofs.Checked.CommonArea

/-!
# The card in steps that can fault

Commands and data bytes as they go by the numbers: fields shifted out of an argument, function
numbers as indices of tables, a position in the staging buffer that is counted up, and responses cut
out of four bytes.

A position in the staging buffer lies within it as long as the transfer is in order
(`Transfer.InOrder`); all the rest is bounded by the fields that it comes from.
-/

namespace WlanCard

open Checked

variable {σ : Type}

/-! ## Arguments -/

/-- The value of a field. -/
def ArgumentField.checkedGet (field : ArgumentField) (argument : UInt32) : Checked UInt32 := do
  let moved ← shiftRight 32 argument.toNat field.shift.toNat
  return UInt32.ofNat moved &&& field.mask

theorem ArgumentField.checkedGet_eq {field : ArgumentField} (placed : field.shift.toNat < 32)
    (argument : UInt32) : field.checkedGet argument = .ok (field.get argument) := by
  refine ok_bind (shiftRight_eq placed) ?_
  have moved : UInt32.ofNat (argument.toNat >>> field.shift.toNat) = argument >>> field.shift := by
    have small : argument.toNat >>> field.shift.toNat < UInt32.size :=
      Nat.lt_of_le_of_lt (Nat.shiftRight_le ..) argument.toNat_lt
    apply UInt32.toNat_inj.mp
    rw [UInt32.toNat_ofNat_of_lt' small, UInt32.toNat_shiftRight, Nat.mod_eq_of_lt placed]
  rw [moved]
  rfl

namespace Command

/-- The function number of a register access, which is an index of the tables of functions. -/
def checkedFunctionArgument (argument : UInt32) : Checked FunctionNumber := do
  let number ← ArgumentField.function.checkedGet argument
  index 8 number.toUInt8.toNat

/-- The register access that the argument of a direct command asks for. -/
def checkedDirectArgument (argument : UInt32) : Checked DirectRequest := do
  let function ← checkedFunctionArgument argument
  let address ← ArgumentField.address.checkedGet argument
  let value ← ArgumentField.value.checkedGet argument
  let write ← ArgumentField.write.checkedGet argument
  let readBack ← ArgumentField.readBack.checkedGet argument
  return ⟨function, address, write != 0, readBack != 0, value.toUInt8⟩

/-- The transfer that the argument of an extended command asks for. -/
def checkedExtendedArgument (argument : UInt32) : Checked ExtendedRequest := do
  let function ← checkedFunctionArgument argument
  let address ← ArgumentField.address.checkedGet argument
  let write ← ArgumentField.write.checkedGet argument
  let incrementing ← ArgumentField.incrementing.checkedGet argument
  let blockMode ← ArgumentField.blockMode.checkedGet argument
  let count ← ArgumentField.count.checkedGet argument
  return {
    function
    direction := if write != 0 then .write else .read
    addressing := if incrementing != 0 then .incrementing else .fixed
    address
    blockMode := blockMode != 0
    count := count.toNat }

/-- The command that a number and an argument stand for. -/
def checkedOfWire (number : UInt8) (argument : UInt32) : Checked Command :=
  match number.toNat with
  | 52 => do
    let request ← checkedDirectArgument argument
    return .direct request
  | 53 => do
    let request ← checkedExtendedArgument argument
    return .extended request
  | _ => .ok (ofWire number argument)

theorem checkedFunctionArgument_eq (argument : UInt32) :
    checkedFunctionArgument argument = .ok (functionArgument argument) := by
  refine ok_bind (ArgumentField.checkedGet_eq (by decide) argument) (index_eq ?_)
  have field := ArgumentField.function.toNat_get argument 28 3 rfl rfl
  show _ = (ArgumentField.function.get argument).toUInt8.toNat % 8
  rw [UInt32.toNat_toUInt8]
  omega

theorem checkedDirectArgument_eq (argument : UInt32) :
    checkedDirectArgument argument = .ok (directArgument argument) := by
  refine ok_bind (checkedFunctionArgument_eq argument) ?_
  refine ok_bind (ArgumentField.checkedGet_eq (by decide) argument) ?_
  refine ok_bind (ArgumentField.checkedGet_eq (by decide) argument) ?_
  refine ok_bind (ArgumentField.checkedGet_eq (by decide) argument) ?_
  exact ok_bind (ArgumentField.checkedGet_eq (by decide) argument) rfl

theorem checkedExtendedArgument_eq (argument : UInt32) :
    checkedExtendedArgument argument = .ok (extendedArgument argument) := by
  refine ok_bind (checkedFunctionArgument_eq argument) ?_
  refine ok_bind (ArgumentField.checkedGet_eq (by decide) argument) ?_
  refine ok_bind (ArgumentField.checkedGet_eq (by decide) argument) ?_
  refine ok_bind (ArgumentField.checkedGet_eq (by decide) argument) ?_
  refine ok_bind (ArgumentField.checkedGet_eq (by decide) argument) ?_
  exact ok_bind (ArgumentField.checkedGet_eq (by decide) argument) rfl

/-- **A command is read** off the wire as the total definition has it. -/
theorem checkedOfWire_eq (number : UInt8) (argument : UInt32) :
    checkedOfWire number argument = .ok (ofWire number argument) := by
  unfold checkedOfWire
  split
  next direct =>
    unfold ofWire
    rw [direct]
    exact ok_bind (checkedDirectArgument_eq argument) rfl
  next extended =>
    unfold ofWire
    rw [extended]
    exact ok_bind (checkedExtendedArgument_eq argument) rfl
  · rfl

end Command

/-! ## Transfers -/

namespace Transfer

/-- A new transfer takes its block length for granted. -/
def checkedFor (q : ExtendedRequest) (blockLength : Nat) : Checked Transfer := do
  require (1 ≤ blockLength ∧ blockLength ≤ maxBlockLength) .assertion
  return Card.transferFor q blockLength

/-- The transfer after the host has written one byte. -/
def checkedPut (t : Transfer) (value : UInt8) : Checked Transfer := do
  let staging ← set t.staging.toList t.offset value
  let offset ← add 64 t.offset 1
  return { t with staging := staging.toArray, offset := offset }

/-- The byte that the host reads next. -/
def checkedCurrent (t : Transfer) : Checked UInt8 :=
  get t.staging.toList t.offset

/-- The transfer after the host has read one byte. -/
def checkedAdvance (t : Transfer) : Checked Transfer := do
  let offset ← add 64 t.offset 1
  return { t with offset := offset }

/-- The transfer at the first byte of the next block. -/
def checkedNextBlock (t : Transfer) : Checked Transfer := do
  let distance ← mul 32 (UInt32.ofNat t.blockLength).toNat t.addressing.stride.toNat
  return { t with start := t.start + UInt32.ofNat distance, offset := 0 }

/-- Accounts for one finished block. The count of blocks stops at zero. -/
def checkedFinishBlock (t : Transfer) : Checked (Bool × Transfer) :=
  match t.blocks with
  | .infinite => do
    let next ← t.checkedNextBlock
    return (false, next)
  | .finite count =>
    let left := { t with blocks := .finite (count - 1) }
    if count - 1 = 0 then .ok (true, left)
    else do
      let next ← left.checkedNextBlock
      return (false, next)

variable {t : Transfer}

theorem checkedFor_eq {q : ExtendedRequest} {length : Nat}
    (usable : 1 ≤ length ∧ length ≤ maxBlockLength) :
    checkedFor q length = .ok (Card.transferFor q length) :=
  ok_bind (require_eq usable) rfl

theorem InOrder.checkedPut_eq (order : t.InOrder) (value : UInt8) :
    t.checkedPut value = .ok (t.put value) := by
  obtain ⟨-, small, size, inside, -⟩ := order
  simp only [maxBlockLength] at small
  have within : t.offset < t.staging.toList.length := by
    rw [Array.length_toList]
    omega
  refine ok_bind (set_eq within value) (ok_bind (add_eq (by omega)) ?_)
  have staged : (t.staging.toList.set t.offset value).toArray =
      t.staging.setIfInBounds t.offset value := by
    rw [← Array.toList_setIfInBounds, Array.toArray_toList]
  rw [staged]
  rfl

theorem InOrder.checkedCurrent_eq (order : t.InOrder) : t.checkedCurrent = .ok t.current := by
  have within : t.offset < t.staging.size := order.size ▸ order.offset
  refine get_eq ?_
  rw [Array.getElem?_toList, current, Array.getD_eq_getD_getElem?, Array.getElem?_eq_getElem within]
  rfl

theorem InOrder.checkedAdvance_eq (order : t.InOrder) : t.checkedAdvance = .ok t.advance := by
  obtain ⟨-, small, -, inside, -⟩ := order
  simp only [maxBlockLength] at small
  exact ok_bind (add_eq (by omega)) rfl

theorem checkedNextBlock_eq (t : Transfer) : t.checkedNextBlock = .ok t.nextBlock := by
  have bound := (UInt32.ofNat t.blockLength).toNat_lt
  have fits : (UInt32.ofNat t.blockLength).toNat * t.addressing.stride.toNat < 2 ^ 32 := by
    cases t.addressing with
    | fixed => exact Nat.zero_lt_of_lt bound
    | incrementing =>
      rw [show Addressing.incrementing.stride.toNat = 1 from rfl, Nat.mul_one]
      exact bound
  refine ok_bind (mul_eq fits) ?_
  have distance : UInt32.ofNat ((UInt32.ofNat t.blockLength).toNat * t.addressing.stride.toNat) =
      UInt32.ofNat t.blockLength * t.addressing.stride := by
    apply UInt32.toNat_inj.mp
    rw [UInt32.toNat_ofNat_of_lt' fits, UInt32.toNat_mul, Nat.mod_eq_of_lt fits]
  rw [distance]
  rfl

theorem checkedFinishBlock_eq (t : Transfer) : t.checkedFinishBlock = .ok t.finishBlock := by
  unfold checkedFinishBlock finishBlock
  cases t.blocks with
  | infinite => exact ok_bind (checkedNextBlock_eq t) rfl
  | finite count =>
    dsimp only
    split
    · rfl
    · exact ok_bind (checkedNextBlock_eq _) rfl

end Transfer

/-! ## The card itself -/

/-- The payload of a response, as it stands in front of four bytes. -/
def Response.checkedBytes (r : Response) : Checked (List UInt8) := do
  let unused ← sub 4 r.bytes.length
  slice (r.bytes ++ List.replicate unused 0) 0 r.bytes.length

theorem Response.checkedBytes_eq {r : Response} (short : r.bytes.length ≤ 4) :
    r.checkedBytes = .ok r.bytes := by
  refine ok_bind (sub_eq short) ?_
  have inside : r.bytes.length ≤ (r.bytes ++ List.replicate (4 - r.bytes.length) 0).length := by
    rw [List.length_append]
    exact Nat.le_add_right ..
  rw [slice_eq (Nat.zero_le _) inside, List.extract_eq_take_drop, List.drop_zero, Nat.sub_zero,
    List.take_left]

namespace Card

/-- Drives the interrupt line of a function. -/
def checkedSetFunctionIrq (c : Card) (line : Nat) (level : Bool) : Checked Card := do
  let bit ← Checked.bit line
  let lines := c.area.interruptPending
  let driven := if level then lines ||| bit else lines &&& ~~~bit
  return { c with area := { c.area with interruptPending := driven } }.updateIrq

/-- Opens the transfer that an extended command asks for. -/
def checkedOpenTransfer (c : Card) (q : ExtendedRequest) : Checked (ResponseKind × Card) :=
  let c := { c with directData := 0 }
  if c.functionCount < q.function then
    .ok (.r5, { c with status := c.status.raise Status.Flag.addressError.mask })
  else
    match c.transferBlockLength? q with
    | none => .ok (.r1, c)
    | some length => do
      let t ← Transfer.checkedFor q length
      return (.r5,
        { c with
          area := { c.area with functionSelect := q.function }
          transfer := some t
          phase := .transfer })

theorem checkedSetFunctionIrq_eq (c : Card) (line : Fin 8) (level : Bool) :
    c.checkedSetFunctionIrq line level = .ok (c.setFunctionIrq line level) :=
  ok_bind (bit_eq line.isLt) rfl

theorem usable_of_transferBlockLength {c : Card} {q : ExtendedRequest} {length : Nat}
    (found : c.transferBlockLength? q = some length) :
    1 ≤ length ∧ length ≤ Transfer.maxBlockLength := by
  unfold transferBlockLength? at found
  split at found
  · dsimp only at found
    split at found
    next usable =>
      cases found
      exact usable
    · cases found
  · cases found
    decide

theorem checkedOpenTransfer_eq (c : Card) (q : ExtendedRequest) :
    c.checkedOpenTransfer q = .ok (c.openTransfer q) := by
  unfold checkedOpenTransfer openTransfer
  dsimp only
  split
  · rfl
  · cases found : transferBlockLength? { c with directData := 0 } q with
    | none => rfl
    | some length =>
      exact ok_bind (Transfer.checkedFor_eq (usable_of_transferBlockLength found)) rfl

/-! ## What waits in the staging buffer -/

/-- The bytes of the current block that have passed already. -/
def staged (c : Card) : Nat :=
  c.transfer.elim 0 (·.offset)

variable {c d : Card}

theorem staged_of_some {t : Transfer} (held : c.transfer = some t) : c.staged = t.offset := by
  rw [staged, held]
  rfl

theorem staged_of_none (none : c.transfer = none) : c.staged = 0 := by
  rw [staged, none]
  rfl

theorem staged_congr (same : d.transfer = c.transfer) : d.staged = c.staged := by
  rw [staged, staged, same]

/-- An access does not add to what waits. -/
theorem KeepsOrStops.staged_le (left : c.KeepsOrStops d) : d.staged ≤ c.staged := by
  cases left with
  | keeps flow => exact Nat.le_of_eq (staged_congr flow.transfer)
  | stops _ _ none =>
    rw [staged_of_none none]
    exact Nat.zero_le _

end Card

end WlanCard
