import WlanCard.Card.Phase
import WlanCard.Card.Transfer

/-!
# Commands

A command arrives as a number and a 32-bit argument. `Command.ofWire` reads both once: it names the
command and takes its fields out of the argument, so that nothing behind it looks at argument bits.
Which commands a card accepts depends on its bus, on its phase and on whether its operating
conditions have been agreed; `Command.refusal` says why one is refused.
-/

namespace WlanCard

/-- A field of a command's argument: its lowest bit and, moved down to bit 0, its mask. -/
structure ArgumentField where
  shift : UInt32
  mask : UInt32
deriving DecidableEq, Repr

namespace ArgumentField

/-- The value of a field. -/
def get (field : ArgumentField) (argument : UInt32) : UInt32 :=
  (argument >>> field.shift) &&& field.mask

/-- Whether any bit of a field is set. -/
def isSet (field : ArgumentField) (argument : UInt32) : Bool :=
  field.get argument != 0

/-- Set for a write, clear for a read. -/
def write : ArgumentField := ⟨31, 0x1⟩

/-- The function number of a register access. -/
def function : ArgumentField := ⟨28, 0x7⟩

/-- Set when a direct write is to be read back. -/
def readBack : ArgumentField := ⟨27, 0x1⟩

/-- Set when an extended access counts blocks, clear when it counts bytes. -/
def blockMode : ArgumentField := ⟨27, 0x1⟩

/-- Set when the addresses of an extended access increment. -/
def incrementing : ArgumentField := ⟨26, 0x1⟩

/-- The register address, one of a function's `addressSpace`. -/
def address : ArgumentField := ⟨9, 0x1ffff⟩

/-- The number of blocks or bytes of an extended access. -/
def count : ArgumentField := ⟨0, 0x1ff⟩

/-- The byte of a direct write. -/
def value : ArgumentField := ⟨0, 0xff⟩

end ArgumentField

/-- The number of register addresses of one function. -/
def addressSpace : UInt32 := 0x20000

/-- A register access carried out within the command itself. -/
structure DirectRequest where
  function : FunctionNumber
  address : UInt32
  isWrite : Bool
  readBack : Bool
  value : UInt8
deriving DecidableEq, Repr

/-- A register access that opens a transfer. -/
structure ExtendedRequest where
  function : FunctionNumber
  direction : Direction
  addressing : Addressing
  address : UInt32
  blockMode : Bool
  count : Nat
deriving DecidableEq, Repr

namespace ExtendedRequest

/-- The number of blocks asked for: none stands for as many as the host likes, or for 512 bytes. -/
def blocks (q : ExtendedRequest) : BlockCount :=
  if q.count = 0 then
    if q.blockMode then .infinite else .finite 512
  else .finite q.count

end ExtendedRequest

/-- The commands of the card, with their arguments. -/
inductive Command where
  | goIdle
  | sendRelativeAddress
  | sendOperatingConditions (conditions : UInt32)
  | select (address : UInt16)
  | goInactive (address : UInt16)
  | direct (request : DirectRequest)
  | extended (request : ExtendedRequest)
  | crcSwitch
  /-- A number that names no command of this card. -/
  | unknown
deriving DecidableEq, Repr

/-- Why a command is refused. -/
inductive Refusal where
  /-- The card does not know the command, or not on this bus or before it is ready. -/
  | unsupported
  /-- The card knows the command, but not in this phase. -/
  | wrongPhase
deriving DecidableEq, Repr

namespace Command

/-- The relative address in the upper half of an argument. -/
def addressArgument (argument : UInt32) : UInt16 :=
  (argument >>> 16).toUInt16

/-- The function number of a register access. -/
def functionArgument (argument : UInt32) : FunctionNumber :=
  .ofBits (ArgumentField.function.get argument).toUInt8

/-- The register access that the argument of a direct command asks for. -/
def directArgument (argument : UInt32) : DirectRequest where
  function := functionArgument argument
  address := ArgumentField.address.get argument
  isWrite := ArgumentField.write.isSet argument
  readBack := ArgumentField.readBack.isSet argument
  value := (ArgumentField.value.get argument).toUInt8

/-- The transfer that the argument of an extended command asks for. -/
def extendedArgument (argument : UInt32) : ExtendedRequest where
  function := functionArgument argument
  direction := if ArgumentField.write.isSet argument then .write else .read
  addressing := if ArgumentField.incrementing.isSet argument then .incrementing else .fixed
  address := ArgumentField.address.get argument
  blockMode := ArgumentField.blockMode.isSet argument
  count := (ArgumentField.count.get argument).toNat

/-- The command that a number and an argument stand for. -/
def ofWire (number : UInt8) (argument : UInt32) : Command :=
  match number.toNat with
  | 0 => .goIdle
  | 3 => .sendRelativeAddress
  | 5 => .sendOperatingConditions argument
  | 7 => .select (addressArgument argument)
  | 15 => .goInactive (addressArgument argument)
  | 52 => .direct (directArgument argument)
  | 53 => .extended (extendedArgument argument)
  | 59 => .crcSwitch
  | _ => .unknown

/-- Why a card on the given bus, ready or not, refuses the command in the given phase; nothing when
it accepts it. -/
def refusal (mode : BusMode) (ready : Bool) (phase : Phase) : Command → Option Refusal
  | .goIdle => none
  | .sendRelativeAddress =>
    if mode = .spi ∨ !ready then some .unsupported
    else accept (phase = .initialization ∨ phase = .standby)
  | .sendOperatingConditions _ => accept (phase = .initialization)
  | .select _ =>
    if mode = .spi then some .unsupported
    else accept (phase = .standby ∨ phase = .command)
  | .goInactive _ =>
    if mode = .spi then some .unsupported
    else accept (phase = .initialization ∨ phase = .standby ∨ phase = .command)
  | .direct _ => accept (phase = .command ∨ phase = .transfer)
  | .extended _ => accept (phase = .command)
  | .crcSwitch => if mode = .native then some .unsupported else none
  | .unknown => some .unsupported
where
  /-- A known command is refused only for its phase. -/
  accept (inPhase : Bool) : Option Refusal :=
    if inPhase then none else some .wrongPhase

end Command

end WlanCard
