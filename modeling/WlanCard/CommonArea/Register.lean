/-!
# The registers of function 0

The address space of function 0 starts with the common control registers, followed by one page of
basic registers for each further function. Behind them lies a gap, then the tuples. Every register
has its offset within its page, written down once; `ofOffset?` finds the register at an offset.
-/

namespace WlanCard

/-- The common control registers of a card. -/
inductive CommonRegister where
  | revision
  | sdRevision
  | ioEnable
  | ioReady
  | interruptEnable
  | interruptPending
  | ioAbort
  | busControl
  | capability
  | tuplePointer (i : Fin 3)
  | busSuspend
  | functionSelect
  | execFlags
  | readyFlags
  | blockLength (i : Fin 2)
  | powerControl
  | highSpeed
  /-- Bus suspend once more, where this card's register map has it. -/
  | mapBusSuspend
  /-- Function select once more, where this card's register map has it. -/
  | mapFunctionSelect
deriving DecidableEq, Repr

namespace CommonRegister

/-- The offset of a register, or of its least significant byte plus `i`. -/
def offset : CommonRegister → Nat
  | .revision => 0x00
  | .sdRevision => 0x01
  | .ioEnable => 0x02
  | .ioReady => 0x03
  | .interruptEnable => 0x04
  | .interruptPending => 0x05
  | .ioAbort => 0x06
  | .busControl => 0x07
  | .capability => 0x08
  | .tuplePointer i => 0x09 + i
  | .busSuspend => 0x0c
  | .functionSelect => 0x0d
  | .execFlags => 0x0e
  | .readyFlags => 0x0f
  | .blockLength i => 0x10 + i
  | .powerControl => 0x12
  | .highSpeed => 0x13
  | .mapBusSuspend => 0x1c
  | .mapFunctionSelect => 0x1d

/-- The register at an offset. -/
def ofOffset? : Nat → Option CommonRegister
  | 0x00 => some .revision
  | 0x01 => some .sdRevision
  | 0x02 => some .ioEnable
  | 0x03 => some .ioReady
  | 0x04 => some .interruptEnable
  | 0x05 => some .interruptPending
  | 0x06 => some .ioAbort
  | 0x07 => some .busControl
  | 0x08 => some .capability
  | 0x09 => some (.tuplePointer 0)
  | 0x0a => some (.tuplePointer 1)
  | 0x0b => some (.tuplePointer 2)
  | 0x0c => some .busSuspend
  | 0x0d => some .functionSelect
  | 0x0e => some .execFlags
  | 0x0f => some .readyFlags
  | 0x10 => some (.blockLength 0)
  | 0x11 => some (.blockLength 1)
  | 0x12 => some .powerControl
  | 0x13 => some .highSpeed
  | 0x1c => some .mapBusSuspend
  | 0x1d => some .mapFunctionSelect
  | _ => none

/-- Every register is found at its offset. -/
theorem ofOffset?_offset (r : CommonRegister) : ofOffset? r.offset = some r := by
  cases r with
  | tuplePointer i => revert i; decide
  | blockLength i => revert i; decide
  | _ => rfl

end CommonRegister

/-- The basic registers that each function from 1 on has. -/
inductive FunctionRegister where
  | interfaceCode
  | extendedInterfaceCode
  | powerSelection
  | tuplePointer (i : Fin 3)
  | storagePointer (i : Fin 3)
  | storageWindow
  | blockLength (i : Fin 2)
deriving DecidableEq, Repr

namespace FunctionRegister

/-- The offset of a register, or of its least significant byte plus `i`. -/
def offset : FunctionRegister → Nat
  | .interfaceCode => 0x00
  | .extendedInterfaceCode => 0x01
  | .powerSelection => 0x02
  | .tuplePointer i => 0x09 + i
  | .storagePointer i => 0x0c + i
  | .storageWindow => 0x0f
  | .blockLength i => 0x10 + i

/-- The register at an offset. -/
def ofOffset? : Nat → Option FunctionRegister
  | 0x00 => some .interfaceCode
  | 0x01 => some .extendedInterfaceCode
  | 0x02 => some .powerSelection
  | 0x09 => some (.tuplePointer 0)
  | 0x0a => some (.tuplePointer 1)
  | 0x0b => some (.tuplePointer 2)
  | 0x0c => some (.storagePointer 0)
  | 0x0d => some (.storagePointer 1)
  | 0x0e => some (.storagePointer 2)
  | 0x0f => some .storageWindow
  | 0x10 => some (.blockLength 0)
  | 0x11 => some (.blockLength 1)
  | _ => none

/-- Every register is found at its offset. -/
theorem ofOffset?_offset (r : FunctionRegister) : ofOffset? r.offset = some r := by
  cases r with
  | tuplePointer i => revert i; decide
  | storagePointer i => revert i; decide
  | blockLength i => revert i; decide
  | _ => rfl

end FunctionRegister

namespace CommonArea

/-- The end of the common control registers. -/
def commonEnd : Nat := 0x100

/-- The end of all registers. -/
def registersEnd : Nat := 0x800

/-- Where the tuples start. -/
def tuplesStart : Nat := 0x1000

/-- What an address of function 0 leads to. -/
inductive Region where
  /-- The common control registers. -/
  | common (offset : Nat)
  /-- The basic registers of function `i + 1`. -/
  | function (i : Fin 7) (offset : Nat)
  /-- Memory: the gap, the tuples and the zeros behind them. -/
  | memory
deriving DecidableEq, Repr

/-- The region of an address: pages of registers, the first for the common ones, then one for each
function. -/
def Region.ofAddress (address : Nat) : Region :=
  if address < commonEnd then .common address
  else if h : address < registersEnd then
    .function ⟨address / commonEnd - 1, by simp only [commonEnd, registersEnd] at *; omega⟩
      (address % commonEnd)
  else .memory

/-- I/O abort: resets the whole card. -/
def resetBit : UInt8 := 0x08

/-- I/O abort: the function whose transfer is to end. -/
def abortMask : UInt8 := 0x07

/-- Bus control: the width of the bus. -/
def busWidthMask : UInt8 := 0x03

/-- Bus control: four data lines. -/
def busWidthFour : UInt8 := 0x02

/-- Bus control: the bits the host may write. -/
def busWritableMask : UInt8 := 0xe3

/-- Bus control: interrupts at any time are supported on a serial bus; always set once written. -/
def serialInterruptSupported : UInt8 := 0x40

/-- Bus control: interrupts at any time are enabled on a serial bus. -/
def serialInterruptEnabled : UInt8 := 0x20

/-- Capability: what the card can do at all. -/
def fixedCapability : UInt8 := 0x13

/-- Capability: interrupts between the blocks of a transfer on four lines. -/
def multiBlockInterruptBit : UInt8 := 0x20

/-- Interrupt enable: the master bit. -/
def interruptMaster : UInt8 := 0x01

/-- Power control and high speed: enabled. -/
def enabledBit : UInt8 := 0x02

/-- Power control and high speed: supported. -/
def supportedBit : UInt8 := 0x01

/-- The revision of the physical specification: 2.00. -/
def sdRevision : UInt8 := 0x02

/-- The revision of the register specification: 1.10. -/
def revision110 : UInt8 := 0x11

/-- The revision of the register specification: 2.00. -/
def revision200 : UInt8 := 0x32

/-- Interface code: the function has a code storage area. -/
def storageSupported : UInt8 := 0x40

/-- Interface code: the host may use the code storage area. -/
def storageEnabled : UInt8 := 0x80

/-- Interface code: the bits that a reset keeps. -/
def interfaceKeptMask : UInt8 := 0x4f

/-- Interface code: no standard interface. -/
def noInterface : UInt8 := 0x00

/-- Extended interface code: no standard interface. -/
def noExtendedInterface : UInt8 := 0x00

end CommonArea

end WlanCard
