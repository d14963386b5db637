import WlanCard.Card.Functions
import WlanCard.CommonArea.Register
import WlanCard.Word

/-!
# The common area: function 0

The card's own registers, the basic registers of its functions, and its tuples. The tuples, the
revision and the interfaces of the functions are fixed by the card's layout; everything else is what
the host has written since power-on.

A write may ask for something the registers cannot do themselves, such as a reset of the card: it
then answers with an `Effect` that the card carries out. A read changes nothing, except that a read
of a storage window moves that function's storage pointer.
-/

namespace WlanCard

/-- What is fixed about one function. -/
structure FunctionInfo where
  /-- The standard interface code, with the bit for a code storage area. -/
  interfaceCode : UInt8 := 0
  /-- The extended interface code. -/
  extendedInterfaceCode : UInt8 := 0
  /-- Where the function's tuples start within all tuples. -/
  tupleOffset : UInt32 := 0
deriving DecidableEq, Repr

/-- What is fixed about the common area of a card. -/
structure Layout where
  revision : UInt8
  functions : Vector FunctionInfo 7
  tuples : Array UInt8
deriving DecidableEq, Repr

/-- The basic registers of one function. -/
structure FunctionState where
  interfaceCode : UInt8
  extendedInterfaceCode : UInt8
  storagePointer : StorageAddress
deriving DecidableEq, Repr

/-- The register state of function 0. -/
structure CommonArea where
  layout : Layout
  /-- The number of functions that the card has implemented, besides function 0. -/
  functionCount : Fin 8
  ioEnable : UInt8
  interruptEnable : UInt8
  /-- The functions whose interrupt line is high; bit 0 is function 1. -/
  interruptPending : UInt8
  busControl : UInt8
  multiBlockInterrupt : Bool
  powerControl : Bool
  highSpeed : Bool
  functionSelect : FunctionNumber
  blockLengths : Vector (BitVec 16) 8
  functions : Vector FunctionState 7
deriving DecidableEq, Repr

/-- What the card has to do after a register write. -/
inductive CommonArea.Effect where
  | nothing
  /-- The interrupt enables have changed. -/
  | interrupts
  /-- The bus control has changed. -/
  | busControl
  /-- The whole card is to be reset. -/
  | reset
  /-- The transfer running on a function is to end. -/
  | abort (f : FunctionNumber)
deriving DecidableEq, Repr

/-- The basic registers of a function at power-on. -/
def FunctionState.powerOn (info : FunctionInfo) : FunctionState where
  interfaceCode := info.interfaceCode &&& CommonArea.interfaceKeptMask
  extendedInterfaceCode := info.extendedInterfaceCode
  storagePointer := 0

/-- Whether the host may use the function's code storage area. -/
def FunctionState.storageOpen (f : FunctionState) : Bool :=
  f.interfaceCode &&& CommonArea.storageEnabled != 0

/-- The function after the host has asked for its code storage area to be opened or closed. Only a
function that has one can open it. -/
def FunctionState.setStorageOpen (f : FunctionState) (wanted : Bool) : FunctionState :=
  if wanted && f.interfaceCode &&& CommonArea.storageSupported != 0 then
    { f with interfaceCode := f.interfaceCode ||| CommonArea.storageEnabled }
  else { f with interfaceCode := f.interfaceCode &&& ~~~CommonArea.storageEnabled }

/-- The function after one access through its storage window: the pointer moves on by one and wraps
at the end of the area. -/
def FunctionState.stepStorage (f : FunctionState) : FunctionState :=
  { f with storagePointer := f.storagePointer + 1 }

/-- The memory byte at an address: a tuple byte, or zero before and behind the tuples. -/
def Layout.memoryByte (layout : Layout) (address : Nat) : UInt8 :=
  if address < CommonArea.tuplesStart then 0
  else layout.tuples.getD (address - CommonArea.tuplesStart) 0

/-- The memory bytes of one read from an address on. An incrementing read takes what is left of the
gap, then what there is of the tuples, then zeros; addresses do not wrap. -/
def Layout.memoryRun (layout : Layout) (address length : Nat) : Addressing → List UInt8
  | .fixed => List.replicate length (layout.memoryByte address)
  | .incrementing =>
    let gap := min length (CommonArea.tuplesStart - address)
    let start := address + gap - CommonArea.tuplesStart
    let tuples := (layout.tuples.extract start (start + (length - gap))).toList
    List.replicate gap 0 ++ tuples ++ List.replicate (length - gap - tuples.length) 0

/-- A memory read answers as many bytes as it was asked for. -/
theorem Layout.length_memoryRun (layout : Layout) (address length : Nat) (how : Addressing) :
    (layout.memoryRun address length how).length = length := by
  cases how with
  | fixed => exact List.length_replicate
  | incrementing =>
    simp only [memoryRun, List.length_append, List.length_replicate, Array.length_toList,
      Array.size_extract]
    omega

namespace CommonArea

/-- The registers of a card with this layout and number of functions, at power-on. -/
def powerOn (layout : Layout) (functionCount : Fin 8) : CommonArea where
  layout
  functionCount
  ioEnable := 0
  interruptEnable := 0
  interruptPending := 0
  busControl := 0
  multiBlockInterrupt := false
  powerControl := false
  highSpeed := false
  functionSelect := 0
  blockLengths := Vector.replicate 8 0
  functions := layout.functions.map FunctionState.powerOn

/-- Every register that the host can write returns to its power-on value. The selected function is
not one of them: it stays. -/
def reset (area : CommonArea) (functionCount : Fin 8) : CommonArea :=
  { powerOn area.layout functionCount with functionSelect := area.functionSelect }

/-- The block length of a function. -/
def blockLength (area : CommonArea) (f : FunctionNumber) : Nat :=
  area.blockLengths[f].toNat

/-- The area after one byte of a function's block length has been written. -/
def setBlockLengthByte (area : CommonArea) (f : FunctionNumber) (i : Fin 2) (value : UInt8) :
    CommonArea :=
  { area with
    blockLengths := area.blockLengths.set f (Word.setByte area.blockLengths[f] i value) f.isLt }

/-- The area with the basic registers of function `i + 1` replaced. -/
def setFunction (area : CommonArea) (i : Fin 7) (f : FunctionState) : CommonArea :=
  { area with functions := area.functions.set i f i.isLt }

/-- Drives the interrupt line of function `line + 1`. -/
def setInterruptPending (area : CommonArea) (line : Fin 8) (level : Bool) : CommonArea :=
  let bit := UInt8.ofNat (1 <<< line.val)
  { area with
    interruptPending :=
      if level then area.interruptPending ||| bit else area.interruptPending &&& ~~~bit }

/-- The interrupt lines as the pending register shows them: bit 1 is function 1. -/
def pendingRegister (area : CommonArea) : UInt8 :=
  area.interruptPending <<< 1

/-- Whether the bus has four data lines. -/
def isFourBit (area : CommonArea) : Bool :=
  area.busControl &&& busWidthMask == busWidthFour

/-- The enable bits of the implemented functions; bit 1 is function 1. -/
def implementedMask (area : CommonArea) : UInt8 :=
  UInt8.ofNat ((1 <<< area.functionCount.val - 1) * 2)

/-- A register with a supported bit that is always set and an enabled bit. -/
def switchRegister (enabled : Bool) : UInt8 :=
  if enabled then supportedBit ||| enabledBit else supportedBit

/-- Byte `i` of the pointer to tuples that start `offset` bytes into all tuples. -/
def tuplePointerByte (offset : UInt32) (i : Fin 3) : UInt8 :=
  Word.byte (UInt32.ofNat tuplesStart + offset).toBitVec i

/-- The byte that a common control register shows; an offset without a register shows zero. -/
def readCommon (area : CommonArea) (offset : Nat) : UInt8 :=
  match CommonRegister.ofOffset? offset with
  | some .revision => area.layout.revision
  | some .sdRevision => sdRevision
  | some .ioEnable | some .ioReady => area.ioEnable
  | some .interruptEnable => area.interruptEnable
  | some .interruptPending => area.pendingRegister
  | some .busControl => area.busControl
  | some .capability =>
    if area.multiBlockInterrupt then fixedCapability ||| multiBlockInterruptBit
    else fixedCapability
  | some (.tuplePointer i) => tuplePointerByte 0 i
  | some .functionSelect | some .mapFunctionSelect => UInt8.ofNat area.functionSelect
  | some (.blockLength i) => Word.byte area.blockLengths[0] i
  | some .powerControl => switchRegister area.powerControl
  | some .highSpeed => switchRegister area.highSpeed
  | some .ioAbort | some .busSuspend | some .mapBusSuspend | some .execFlags | some .readyFlags
  | none => 0

/-- The byte that a basic register of function `i + 1` shows when nothing happens on the read: a
closed storage window and an offset without a register show zero. -/
def functionByte (area : CommonArea) (i : Fin 7) (offset : Nat) : UInt8 :=
  match FunctionRegister.ofOffset? offset with
  | some .interfaceCode => area.functions[i].interfaceCode
  | some .extendedInterfaceCode => area.functions[i].extendedInterfaceCode
  | some .powerSelection => supportedBit
  | some (.tuplePointer j) => tuplePointerByte area.layout.functions[i].tupleOffset j
  | some (.storagePointer j) => Word.byte area.functions[i].storagePointer j
  | some (.blockLength j) => Word.byte area.blockLengths[i.succ] j
  | some .storageWindow | none => 0

variable {σ : Type}

/-- Whether an offset is the storage window of function `i + 1`, and open. -/
def opensWindow (area : CommonArea) (i : Fin 7) (offset : Nat) : Bool :=
  FunctionRegister.ofOffset? offset = some .storageWindow && area.functions[i].storageOpen

/-- Reads a basic register of function `i + 1`. An open storage window reads the storage byte at the
pointer and moves the pointer. -/
def readFunction (fs : Functions σ) (i : Fin 7) (offset : Nat) (area : CommonArea) (s : σ) :
    UInt8 × CommonArea × σ :=
  if area.opensWindow i offset then
    let f := area.functions[i]
    let answer := fs.readStorage i.succ f.storagePointer s
    (answer.1.getD 0, area.setFunction i f.stepStorage, answer.2)
  else (area.functionByte i offset, area, s)

/-- Reads one byte of function 0. -/
def readByte (fs : Functions σ) (address : Nat) (area : CommonArea) (s : σ) :
    UInt8 × CommonArea × σ :=
  match Region.ofAddress address with
  | .common offset => (area.readCommon offset, area, s)
  | .function i offset => area.readFunction fs i offset s
  | .memory => (area.layout.memoryByte address, area, s)

/-- Reads `length` bytes of function 0. Registers are read one by one, since a read may have an
effect; from the first address behind them on, the rest is one run of memory. -/
def read (fs : Functions σ) (how : Addressing) :
    (address length : Nat) → (area : CommonArea) → (s : σ) → List UInt8 × CommonArea × σ
  | _, 0, area, s => ([], area, s)
  | address, length + 1, area, s =>
    if address < registersEnd then
      let first := area.readByte fs address s
      let rest := read fs how (address + how.stride.toNat) length first.2.1 first.2.2
      (first.1 :: rest.1, rest.2)
    else (area.layout.memoryRun address (length + 1) how, area, s)

/-- A read of function 0 answers as many bytes as it was asked for. -/
theorem length_read (fs : Functions σ) (how : Addressing) (address length : Nat)
    (area : CommonArea) (s : σ) : (read fs how address length area s).1.length = length := by
  induction length generalizing address area s with
  | zero => rfl
  | succ length ih =>
    unfold read
    split
    · simp [ih]
    · exact Layout.length_memoryRun ..

/-- The area after a write to a common control register, and what the card has to do then. Reserved
and read-only registers ignore the write. -/
def writeCommon (area : CommonArea) (offset : Nat) (value : UInt8) : Effect × CommonArea :=
  match CommonRegister.ofOffset? offset with
  | some .ioEnable => (.nothing, { area with ioEnable := value &&& area.implementedMask })
  | some .interruptEnable => (.interrupts, { area with interruptEnable := value })
  | some .ioAbort =>
    if value &&& resetBit != 0 then (.reset, area)
    else if value &&& abortMask != 0 then (.abort (.ofBits value), area)
    else (.nothing, area)
  | some .busControl =>
    (.busControl,
      { area with busControl := (value &&& busWritableMask) ||| serialInterruptSupported })
  | some .capability =>
    (.nothing, { area with multiBlockInterrupt := value &&& multiBlockInterruptBit != 0 })
  | some (.blockLength i) => (.nothing, area.setBlockLengthByte 0 i value)
  | some .powerControl =>
    (.nothing, { area with powerControl := area.powerControl || value &&& enabledBit != 0 })
  | some .highSpeed =>
    (.nothing, { area with highSpeed := area.highSpeed || value &&& enabledBit != 0 })
  | _ => (.nothing, area)

/-- The area after a write to a basic register of function `i + 1` other than an open storage
window. Power selection lands in the power control that all functions share. -/
def writeFunctionRegister (area : CommonArea) (i : Fin 7) (offset : Nat) (value : UInt8) :
    CommonArea :=
  match FunctionRegister.ofOffset? offset with
  | some .interfaceCode =>
    area.setFunction i (area.functions[i].setStorageOpen (value &&& storageEnabled != 0))
  | some .powerSelection =>
    { area with powerControl := area.powerControl || value &&& enabledBit != 0 }
  | some (.storagePointer j) =>
    let f := area.functions[i]
    area.setFunction i { f with storagePointer := Word.setByte f.storagePointer j value }
  | some (.blockLength j) => area.setBlockLengthByte i.succ j value
  | _ => area

/-- Writes a basic register of function `i + 1`. An open storage window writes the storage byte at
the pointer and moves the pointer. -/
def writeFunction (fs : Functions σ) (i : Fin 7) (offset : Nat) (value : UInt8) (area : CommonArea)
    (s : σ) : CommonArea × σ :=
  if area.opensWindow i offset then
    let f := area.functions[i]
    (area.setFunction i f.stepStorage, fs.writeStorage i.succ f.storagePointer value s)
  else (area.writeFunctionRegister i offset value, s)

/-- Writes one byte of function 0. Memory ignores the write. -/
def writeByte (fs : Functions σ) (address : Nat) (value : UInt8) (area : CommonArea) (s : σ) :
    Effect × CommonArea × σ :=
  match Region.ofAddress address with
  | .common offset =>
    let answer := area.writeCommon offset value
    (answer.1, answer.2, s)
  | .function i offset => (.nothing, area.writeFunction fs i offset value s)
  | .memory => (.nothing, area, s)

end CommonArea

end WlanCard
