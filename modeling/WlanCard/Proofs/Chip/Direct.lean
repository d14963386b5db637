import WlanCard.Proofs.Card.Argument
import WlanCard.Proofs.Chip.Settled

/-!
# Accesses to the target, byte by byte

A direct command reads or writes one byte of the target (`accessed_command_write`,
`accessed_command_read`). A run of them is the target's own run over the same addresses
(`accessed_writeDirect`, `accessed_readDirect`), and such runs can be cut anywhere
(`Target.writeRun_append`, `HostInterface.readRun_append`).
-/

namespace WlanCard

/-! ## Runs over addresses -/

/-- The address after the first of some bytes is the first of the others. -/
theorem runAddress_succ (address stride : UInt32) (n : Nat) :
    address + stride + UInt32.ofNat n * stride = address + UInt32.ofNat (n + 1) * stride := by
  have one : UInt32.ofNat 1 = 1 := rfl
  rw [UInt32.ofNat_add, UInt32.add_mul, one, UInt32.one_mul, UInt32.add_assoc,
    UInt32.add_comm stride]

theorem Target.writeRun_append (stride address : UInt32) (xs ys : List UInt8) (t : Target) :
    t.writeRun stride address (xs ++ ys) =
      (t.writeRun stride address xs).writeRun stride
        (address + UInt32.ofNat xs.length * stride) ys := by
  induction xs generalizing address t with
  | nil =>
    have none : UInt32.ofNat 0 = 0 := rfl
    rw [List.nil_append, List.length_nil, none, UInt32.zero_mul, UInt32.add_zero]
    rfl
  | cons x xs ih =>
    rw [List.cons_append, List.length_cons, ← runAddress_succ]
    exact ih ..

theorem HostInterface.readRun_append (stride address : UInt32) (m n : Nat) (h : HostInterface) :
    readRun stride (m + n) address h =
      let first := readRun stride m address h
      let rest := readRun stride n (address + UInt32.ofNat m * stride) first.2
      (first.1 ++ rest.1, rest.2) := by
  induction m generalizing address h with
  | zero =>
    have none : UInt32.ofNat 0 = 0 := rfl
    rw [Nat.zero_add, none, UInt32.zero_mul, UInt32.add_zero]
    rfl
  | succ m ih =>
    have rest := ih (address + stride) (h.read address).2
    rw [Nat.succ_add, readRun, rest, runAddress_succ]
    rfl

/-- All addresses of a run lie in the space of one function. -/
def InSpace (how : Addressing) (address : UInt32) (n : Nat) : Prop :=
  ∀ i < n, address.toNat + i * how.stride.toNat < addressSpace.toNat

theorem InSpace.head {how : Addressing} {address : UInt32} {n : Nat}
    (within : InSpace how address (n + 1)) : address < addressSpace := by
  have first := within 0 (Nat.succ_pos n)
  rwa [Nat.zero_mul, Nat.add_zero] at first

theorem InSpace.tail {how : Addressing} {address : UInt32} {n : Nat}
    (within : InSpace how address (n + 1)) : InSpace how (address + how.stride) n := by
  intro i less
  have second := within 1 (by omega)
  have there := within (i + 1) (by omega)
  have size : addressSpace.toNat = 131072 := rfl
  have sum : (address + how.stride).toNat = address.toNat + how.stride.toNat := by
    rw [UInt32.toNat_add]
    omega
  rw [Nat.succ_mul] at there
  omega

/-- It is enough that the last one does. -/
theorem inSpace_of_last {how : Addressing} {address : UInt32} {n : Nat}
    (last : address.toNat + how.stride.toNat * (n - 1) ≤ 0x1ffff) : InSpace how address n := by
  intro i less
  have le : i * how.stride.toNat ≤ how.stride.toNat * (n - 1) := by
    rw [Nat.mul_comm]
    exact Nat.mul_le_mul_left _ (by omega)
  have size : addressSpace.toNat = 131072 := rfl
  omega

namespace Chip

/-! ## One byte -/

theorem Accessed.trans {x y z : Chip} {t u : Target} (first : x.Accessed y t)
    (second : y.Accessed z u) : x.Accessed z u where
  target := second.target
  idle := second.idle
  synced := second.synced
  touched := first.touched.trans second.touched

/-- A direct command to function 1 is one access to the target. -/
theorem accessed_command_direct {chip : Chip} (wired : chip.Wired) (idle : chip.card.phase = .command)
    {q : DirectRequest} (aimed : q.function = 1) (fits : q.address < addressSpace) :
    chip.Accessed (chip.command Card.directNumber q.argument).2
        (chip.attached.direct Target.functions q).device ∧
      (chip.command Card.directNumber q.argument).1.bytes.getLastD 0 =
        (chip.attached.direct Target.functions q).card.directData := by
  have present : q.function ≤ chip.card.functionCount := aimed ▸ wired.present
  have bound : chip.card.handlers.get q.function = .attached := by
    simpa only [aimed] using wired.attached
  obtain ⟨device, last, phase, area⟩ := Attached.command_direct_attached Target.functions
    (Command.directArgument_argument fits) idle present bound
  refine ⟨?_, last⟩
  let done : Attached Target :=
    (chip.attached.command Target.functions Card.directNumber q.argument).2
  have touched : chip.card.Touched done.card :=
    ⟨Attached.command_keepsWiring .., congrArg CommonArea.atRest area⟩
  exact {
    target := device
    idle := phase
    synced := synced_syncIrq ⟨done⟩
    touched := touched.trans (Card.touched_setFunctionIrq ..) }

/-- The direct access that writes a byte of the target. -/
def writeRequest (address : UInt32) (value : UInt8) : DirectRequest :=
  { function := 1, address, isWrite := true, readBack := false, value }

/-- The direct access that reads a byte of the target. -/
def readRequest (address : UInt32) : DirectRequest :=
  { function := 1, address, isWrite := false, readBack := false, value := 0 }

/-- **A direct write** of function 1 writes the byte to the target. -/
theorem accessed_command_write {chip : Chip} (wired : chip.Wired) (idle : chip.card.phase = .command)
    {address : UInt32} (value : UInt8) (fits : address < addressSpace) :
    chip.Accessed (chip.command Card.directNumber (writeRequest address value).argument).2
      (chip.target.writeByte address value) := by
  have done := (accessed_command_direct wired idle (q := writeRequest address value) rfl fits).1
  rwa [Attached.direct_attached Target.functions wired.present wired.attached] at done

/-- **A direct read** of function 1 answers the byte that the target reads. -/
theorem accessed_command_read {chip : Chip} (wired : chip.Wired) (idle : chip.card.phase = .command)
    {address : UInt32} (fits : address < addressSpace) :
    let done := chip.command Card.directNumber (readRequest address).argument
    chip.Accessed done.2 { chip.target with host := (chip.target.host.read address).2 } ∧
      done.1.bytes.getLastD 0 = (chip.target.host.read address).1 := by
  have done := accessed_command_direct wired idle (q := readRequest address) rfl fits
  rwa [Attached.direct_attached Target.functions wired.present wired.attached] at done

/-! ## Runs of bytes -/

/-- The host writes bytes with one direct command each. -/
def writeDirect (how : Addressing) : (address : UInt32) → (bytes : List UInt8) → Chip → Chip
  | _, [], chip => chip
  | address, value :: rest, chip =>
    let done := chip.command Card.directNumber (writeRequest address value).argument
    writeDirect how (address + how.stride) rest done.2

/-- The host reads bytes with one direct command each. -/
def readDirect (how : Addressing) :
    (address : UInt32) → (length : Nat) → Chip → List UInt8 × Chip
  | _, 0, chip => ([], chip)
  | address, length + 1, chip =>
    let done := chip.command Card.directNumber (readRequest address).argument
    let rest := readDirect how (address + how.stride) length done.2
    (done.1.bytes.getLastD 0 :: rest.1, rest.2)

theorem Accessed.wired {before after : Chip} {t : Target} (accessed : before.Accessed after t)
    (wired : before.Wired) : after.Wired :=
  wired.of_keepsWiring accessed.touched.toKeepsWiring

theorem Accessed.writeDirect {before chip : Chip} {t : Target} (done : before.Accessed chip t)
    (wired : before.Wired) {how : Addressing} {address : UInt32} {bytes : List UInt8}
    (within : InSpace how address bytes.length) :
    before.Accessed (chip.writeDirect how address bytes) (t.writeRun how.stride address bytes) := by
  induction bytes generalizing address chip t with
  | nil => exact done
  | cons value rest ih =>
    have next := accessed_command_write (done.wired wired) done.idle value within.head
    rw [done.target] at next
    exact ih (done.trans next) within.tail

/-- **Direct writes** of some bytes are the target's own writes of them. -/
theorem accessed_writeDirect {chip : Chip} (wired : chip.Wired) (idle : chip.card.phase = .command)
    {how : Addressing} {address : UInt32} {bytes : List UInt8} (some : bytes ≠ [])
    (within : InSpace how address bytes.length) :
    chip.Accessed (chip.writeDirect how address bytes)
      (chip.target.writeRun how.stride address bytes) := by
  cases bytes with
  | nil => exact absurd rfl some
  | cons value rest =>
    have first := accessed_command_write wired idle value within.head
    exact first.writeDirect wired within.tail

theorem Accessed.readDirect {before chip : Chip} {t : Target} (done : before.Accessed chip t)
    (wired : before.Wired) {how : Addressing} {address : UInt32} {length : Nat}
    (within : InSpace how address length) :
    let read := HostInterface.readRun how.stride length address t.host
    (chip.readDirect how address length).1 = read.1 ∧
      before.Accessed (chip.readDirect how address length).2 { t with host := read.2 } := by
  induction length generalizing address chip t with
  | zero => exact ⟨rfl, done⟩
  | succ length ih =>
    obtain ⟨next, byte⟩ := accessed_command_read (done.wired wired) done.idle within.head
    rw [done.target] at next byte
    obtain ⟨bytes, last⟩ := ih (done.trans next) within.tail
    exact ⟨congr (congrArg List.cons byte) bytes, last⟩

/-- **Direct reads** of some bytes are the target's own reads of them. -/
theorem accessed_readDirect {chip : Chip} (wired : chip.Wired) (idle : chip.card.phase = .command)
    {how : Addressing} {address : UInt32} {length : Nat} (some : 0 < length)
    (within : InSpace how address length) :
    let read := HostInterface.readRun how.stride length address chip.target.host
    (chip.readDirect how address length).1 = read.1 ∧
      chip.Accessed (chip.readDirect how address length).2 { chip.target with host := read.2 } := by
  cases length with
  | zero => exact absurd rfl (Nat.ne_of_gt some)
  | succ length =>
    obtain ⟨first, byte⟩ := accessed_command_read wired idle within.head
    obtain ⟨bytes, last⟩ := first.readDirect wired within.tail
    exact ⟨congr (congrArg List.cons byte) bytes, last⟩

end Chip

end WlanCard
