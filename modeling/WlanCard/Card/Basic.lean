import WlanCard.Card.Command
import WlanCard.Card.Response
import WlanCard.CommonArea.Basic

/-!
# The card controller: its state and its interrupt line

The state of a card between two operations, without the functions behind it. The level of the
interrupt line is a value of its own: it is derived again when something happens that the card knows
to matter for it, and stays as it was otherwise. `interruptLevel` says what it is derived from.
-/

namespace WlanCard

/-- What answers the register accesses of a function. -/
inductive Handler where
  /-- The card's own registers. -/
  | common
  /-- The functions behind the card. -/
  | attached
  /-- Nothing: reads give zeros, writes are lost. -/
  | absent
deriving DecidableEq, Repr

/-- What is fixed about a card. -/
structure CardModel where
  /-- The operating conditions, with the number of functions in bits 28 to 30. -/
  conditions : UInt32
  mode : BusMode
  layout : Layout
deriving DecidableEq, Repr

/-- The operating conditions of a bare controller: 2.0 V to 3.6 V, no memory, no function. -/
def CardModel.bareConditions : UInt32 := 0x00ffff00

/-- The state of a card controller. -/
structure Card where
  phase : Phase
  conditions : UInt32
  /-- The relative address under which the host selects the card. -/
  address : UInt16
  status : Status
  /-- Whether the host has agreed on operating conditions. -/
  ready : Bool
  mode : BusMode
  /-- The number of the last command, other than a direct access during a transfer. Data flows only
  while it is the one that opens transfers. -/
  activeCommand : UInt8
  area : CommonArea
  transfer : Option Transfer
  /-- The data byte of the next direct-access response. -/
  directData : UInt8
  handlers : Vector Handler 8
  irq : Bool
deriving DecidableEq, Repr

namespace Card

/-- The number of the command that opens transfers. -/
def extendedNumber : UInt8 := 53

/-- The number of functions, besides function 0, that operating conditions tell of. -/
def functionCountOf (conditions : UInt32) : Fin 8 :=
  FunctionNumber.ofBits (conditions >>> 28).toUInt8

/-- The number of functions besides function 0. -/
def functionCount (c : Card) : Fin 8 :=
  functionCountOf c.conditions

/-- A card at the beginning of enumeration, with the registers and handlers given. -/
def unenumerated (conditions : UInt32) (mode : BusMode) (area : CommonArea) (handlers : Vector Handler 8)
    (irq : Bool) : Card where
  phase := .initialization
  conditions
  address := 0
  status := Status.powerOn
  ready := false
  mode
  activeCommand := 0
  area
  transfer := none
  directData := 0
  handlers
  irq

/-- A new card: no function but function 0 is answered. -/
def new (model : CardModel) : Card :=
  unenumerated model.conditions model.mode
    (.powerOn model.layout (functionCountOf model.conditions))
    ((Vector.replicate 8 .absent).setIfInBounds 0 .common)
    false

/-- The card with the handler of a function replaced. Function 0 keeps its own. -/
def setHandler (c : Card) (f : FunctionNumber) (handler : Handler) : Card :=
  if f = 0 then c else { c with handlers := c.handlers.setIfInBounds f handler }

/-- Whether a transfer is running. -/
def dataReady (c : Card) : Bool :=
  c.phase == .transfer

/-- Whether interrupts are held back while data runs: on four data lines one of them is the
interrupt line, unless interrupts between blocks are enabled. -/
def heldBack (c : Card) : Bool :=
  c.area.isFourBit && !c.area.multiBlockInterrupt && c.phase == .transfer

/-- Whether the bus has a line for interrupts at any time: a serial bus has one only where the host
has enabled it. -/
def hasInterruptLine (c : Card) : Bool :=
  match c.mode with
  | .native => true
  | .spi =>
    c.area.busControl &&& CommonArea.serialInterruptSupported != 0
      && c.area.busControl &&& CommonArea.serialInterruptEnabled != 0

/-- The level that the interrupt line should have: the master enable is set, nothing holds the
interrupt back, and an enabled function asks for one. -/
def interruptLevel (c : Card) : Bool :=
  c.area.interruptEnable &&& CommonArea.interruptMaster != 0
    && !c.heldBack
    && c.hasInterruptLine
    && c.area.pendingRegister &&& c.area.interruptEnable != 0

/-- Derives the level of the interrupt line again. -/
def updateIrq (c : Card) : Card :=
  { c with irq := c.interruptLevel }

/-- Drives the interrupt line of function `line + 1`. -/
def setFunctionIrq (c : Card) (line : Fin 8) (level : Bool) : Card :=
  { c with area := c.area.setInterruptPending line level }.updateIrq

/-- The card's own part of a reset: back to the beginning of enumeration, with registers at power-on
values. The interrupt line is derived again afterwards. -/
def reset (c : Card) : Card :=
  unenumerated c.conditions c.mode (c.area.reset c.functionCount) c.handlers c.irq

/-- The transfer is over. Where it held interrupts back on four data lines, the level of the
interrupt line is derived again. -/
def endTransfer (c : Card) : Card :=
  let ended := { c with phase := .command, transfer := none }
  if c.area.isFourBit then ended.updateIrq else ended

/-- Whether the host can abort a transfer on function `f`: it runs on that function, on a native
bus. -/
def canAbort (c : Card) (f : FunctionNumber) : Bool :=
  c.phase == .transfer && c.area.functionSelect == f && c.mode == .native

/-- The host aborts the transfer on function `f`, if there is one. -/
def abort (c : Card) (f : FunctionNumber) : Card :=
  if c.canAbort f then c.endTransfer else c

/-- The block length that a transfer will have, unless the function's own is unusable. -/
def transferBlockLength? (c : Card) (q : ExtendedRequest) : Option Nat :=
  if q.blockMode then
    let length := c.area.blockLength q.function
    if 1 ≤ length ∧ length ≤ Transfer.maxBlockLength then some length else none
  else some 1

/-- The transfer that an extended command asks for, with blocks of the given length. -/
def transferFor (q : ExtendedRequest) (blockLength : Nat) : Transfer :=
  .new q.function q.direction q.addressing q.address blockLength q.blocks

/-- Opens the transfer that an extended command asks for, and the kind of response to it. A function
that the card does not have is an address error; an unusable block length opens nothing. -/
def openTransfer (c : Card) (q : ExtendedRequest) : ResponseKind × Card :=
  let c := { c with directData := 0 }
  if c.functionCount < q.function then
    (.r5, { c with status := c.status.raise Status.Flag.addressError.mask })
  else
    match c.transferBlockLength? q with
    | none => (.r1, c)
    | some length =>
      (.r5,
        { c with
          area := { c.area with functionSelect := q.function }
          transfer := some (transferFor q length)
          phase := .transfer })

/-- The transfer through which data can flow now: one is running, no data error stops it, and no
command but direct accesses has come since it was opened. -/
def openDataPath? (c : Card) : Option Transfer :=
  if c.phase = .transfer ∧ !c.status.meets Status.dataErrors ∧ c.activeCommand = extendedNumber then
    c.transfer
  else none

end Card

end WlanCard
