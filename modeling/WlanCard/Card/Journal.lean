import WlanCard.Card.Data
import WlanCard.Card.Execute
import WlanCard.Card.Notice
import WlanCard.CommonArea.Journal

/-!
# The journal of a card

The journal of every operation on a card with its functions, told from the state before it. Where an
operation goes through several states, the journal goes through the same ones.

What the functions behind the card have to tell of an access comes from a `Teller`, at the place in
the journal where the access is made.
-/

namespace WlanCard

/-- What the functions behind a card have to tell of an access, from the state before it. -/
structure Functions.Teller (σ : Type) where
  reset : σ → Journal
  read : FunctionNumber → UInt32 → Nat → Addressing → σ → Journal
  write : FunctionNumber → UInt32 → List UInt8 → Addressing → σ → Journal

/-- Functions that have nothing to tell. -/
def Functions.Teller.silent (σ : Type) : Functions.Teller σ where
  reset _ := []
  read _ _ _ _ _ := []
  write _ _ _ _ _ := []

namespace Card

/-- The journal of the interrupt line between two states: an entry when its level has changed. -/
def irqJournal (before after : Card) : Journal :=
  if before.irq = after.irq then [] else [(CardNotice.interrupt after.irq).entry]

/-- The journal of replacing the handler of a function. -/
def setHandlerJournal (f : FunctionNumber) : Journal :=
  if f = 0 then [CardNotice.fixedHandler.entry] else []

/-- The journal of driving the interrupt line of a function. -/
def setFunctionIrqJournal (c : Card) (line : Fin 8) (level : Bool) : Journal :=
  c.irqJournal (c.setFunctionIrq line level)

/-- The journal of the end of a transfer. -/
def endTransferJournal (c : Card) : Journal :=
  CardNotice.transferDone.entry :: c.irqJournal c.endTransfer

/-- The journal of aborting the transfer on a function. -/
def abortJournal (c : Card) (f : FunctionNumber) : Journal :=
  if c.canAbort f then (CardNotice.aborted f).entry :: c.endTransferJournal
  else [(CardNotice.nothingToAbort f).entry]

/-- The journal of selecting or deselecting the card. -/
def selectJournal (c : Card) (address : UInt16) : Journal :=
  match c.phase, (c.select address).2.phase with
  | .standby, .command => [CardNotice.selected.entry]
  | .command, .standby => [CardNotice.deselected.entry]
  | _, _ => []

/-- The journal of opening a transfer. -/
def openTransferJournal (c : Card) (q : ExtendedRequest) : Journal :=
  if c.functionCount < q.function then [(CardNotice.extendedMissing q.function).entry]
  else
    match c.transferBlockLength? q with
    | some length => [(CardNotice.opened (transferFor q length)).entry]
    | none =>
      [(CardNotice.unusableBlock q.function (c.area.blockLength q.function)).entry]

/-- The journal of data for which no transfer is open. A data error stops it silently. -/
def closedDataJournal (c : Card) (direction : Direction) : Journal :=
  if c.phase ≠ .transfer then [(CardNotice.noTransfer direction).entry]
  else if c.status.meets Status.dataErrors then []
  else if c.activeCommand ≠ extendedNumber then
    [(CardNotice.noDataCommand direction c.activeCommand).entry]
  else []

end Card

namespace Attached

variable {σ : Type}

/-- The journal of a reset. -/
def resetJournal (fs : Functions σ) (teller : Functions.Teller σ) (a : Attached σ) : Journal :=
  CardNotice.reset.entry :: teller.reset a.device ++ a.card.irqJournal (a.reset fs).card

/-- The journal of what a register write asks the card for. -/
def applyJournal (fs : Functions σ) (teller : Functions.Teller σ) (a : Attached σ) :
    CommonArea.Effect → Journal
  | .nothing => []
  | .interrupts => a.card.irqJournal (a.apply fs .interrupts).card
  | .busControl => a.card.irqJournal (a.apply fs .busControl).card
  | .reset => a.resetJournal fs teller
  | .abort f => a.card.abortJournal f

/-- The journal of writing one byte of the card's own registers. -/
def writeCommonByteJournal (fs : Functions σ) (teller : Functions.Teller σ) (address : UInt32)
    (value : UInt8) (a : Attached σ) : Journal :=
  let answer := a.card.area.writeByte fs address.toNat value a.device
  let written : Attached σ :=
    { card := { a.card with area := answer.2.1 }, device := answer.2.2 }
  a.card.area.writeByteJournal address.toNat value ++ written.applyJournal fs teller answer.1

/-- The journal of writing bytes to the card's own registers. -/
def writeCommonJournal (fs : Functions σ) (teller : Functions.Teller σ) (how : Addressing) :
    (address : UInt32) → (bytes : List UInt8) → (a : Attached σ) → Journal
  | _, [], _ => []
  | address, value :: rest, a =>
    if CommonArea.registersEnd ≤ address.toNat then
      [(CardNotice.badCommonWrite address (rest.length + 1)).entry]
    else
      a.writeCommonByteJournal fs teller address value
        ++ writeCommonJournal fs teller how (address + how.stride) rest
          (a.writeCommonByte fs address value)

/-- The journal of writing bytes to a function. -/
def writeJournal (fs : Functions σ) (teller : Functions.Teller σ) (f : FunctionNumber)
    (address : UInt32) (bytes : List UInt8) (how : Addressing) (a : Attached σ) : Journal :=
  match a.card.handlers.get f with
  | .common => a.writeCommonJournal fs teller how address bytes
  | .attached => teller.write f address bytes how a.device
  | .absent => [(CardNotice.absentWrite f bytes.length address).entry]

/-- The journal of reading bytes from a function. -/
def readJournal (teller : Functions.Teller σ) (f : FunctionNumber) (address : UInt32)
    (length : Nat) (how : Addressing) (a : Attached σ) : Journal :=
  match a.card.handlers.get f with
  | .common => CommonArea.readJournal how address.toNat length
  | .attached => teller.read f address length how a.device
  | .absent => [(CardNotice.absentRead f length address).entry]

/-! ## Commands -/

/-- The journal of the writing half of a direct access. -/
def directWriteJournal (fs : Functions σ) (teller : Functions.Teller σ) (q : DirectRequest)
    (a : Attached σ) : Journal :=
  if q.isWrite then
    (CardNotice.directWrite q.function q.address q.value).entry
      :: a.writeJournal fs teller q.function q.address [q.value] .incrementing
  else []

/-- The journal of the reading half of a direct access. -/
def directReadJournal (fs : Functions σ) (teller : Functions.Teller σ) (q : DirectRequest)
    (a : Attached σ) : Journal :=
  if readsBack q then
    let value := (a.directRead fs q).card.directData
    a.readJournal teller q.function q.address 1 .incrementing
      ++ [(CardNotice.directRead q.function q.address value).entry]
  else []

/-- The journal of a direct access. -/
def directJournal (fs : Functions σ) (teller : Functions.Teller σ) (q : DirectRequest)
    (a : Attached σ) : Journal :=
  if a.card.functionCount < q.function then [(CardNotice.directMissing q.function).entry]
  else
    let a := { a with card.directData := q.value }
    a.directWriteJournal fs teller q ++ (a.directWrite fs q).directReadJournal fs teller q

/-- The journal of an accepted command. -/
def carryOutJournal (fs : Functions σ) (teller : Functions.Teller σ) (a : Attached σ) :
    Command → Journal
  | .goIdle => [CardNotice.idleIgnored.entry]
  | .sendRelativeAddress => [(CardNotice.addressPublished a.card.publishAddress.address).entry]
  | .sendOperatingConditions conditions =>
    if conditions ≠ 0 ∧ !a.card.ready then [(CardNotice.ready conditions).entry] else []
  | .select address => a.card.selectJournal address
  | .goInactive address =>
    if (a.card.goInactive address).phase = .inactive then [CardNotice.inactive.entry] else []
  | .direct q => a.directJournal fs teller q
  | .extended q => a.card.openTransferJournal q
  | .crcSwitch | .unknown => []

/-- The journal of executing a command, without its response. -/
def executeJournal (fs : Functions σ) (teller : Functions.Teller σ) (number : UInt8)
    (argument : UInt32) (a : Attached σ) : Journal :=
  let command := Command.ofWire number argument
  let a := a.prepare number command
  match a.refusal command with
  | none => a.carryOutJournal fs teller command
  | some reason => [(CardNotice.refused number reason a.card.phase).entry]

/-- The journal of a command and its response. -/
def commandJournal (fs : Functions σ) (teller : Functions.Teller σ) (number : UInt8)
    (argument : UInt32) (a : Attached σ) : Journal :=
  a.executeJournal fs teller number argument
    ++ [(CardNotice.answered number (a.command fs number argument).1).entry]

/-! ## Data -/

/-- The journal of the end of a transfer, if this was its last block. -/
def lastBlockJournal (t : Transfer) (a : Attached σ) : Journal :=
  if t.finishBlock.1 then a.card.endTransferJournal else []

/-- The journal of handing a complete block to its function. -/
def flushJournal (fs : Functions σ) (teller : Functions.Teller σ) (t : Transfer)
    (a : Attached σ) : Journal :=
  let bytes := t.staging.toList
  let after := a.write fs t.function t.start bytes t.addressing
  a.writeJournal fs teller t.function t.start bytes t.addressing
    ++ if after.card.phase = .transfer then after.lastBlockJournal t else []

/-- The journal of one byte from the host. -/
def writeDataJournal (fs : Functions σ) (teller : Functions.Teller σ) (value : UInt8)
    (a : Attached σ) : Journal :=
  match a.card.openDataPath? with
  | none => a.card.closedDataJournal .write
  | some t =>
    match t.direction with
    | .read => [(CardNotice.wrongDirection .write .read).entry]
    | .write => if (t.put value).blockDone then a.flushJournal fs teller (t.put value) else []

/-- The journal of fetching the block that the host is about to read. -/
def fetchJournal (teller : Functions.Teller σ) (t : Transfer) (a : Attached σ) : Journal :=
  if t.offset = 0 then a.readJournal teller t.function t.start t.blockLength t.addressing else []

/-- The journal of one byte for the host. -/
def readDataJournal (fs : Functions σ) (teller : Functions.Teller σ) (a : Attached σ) :
    Journal :=
  match a.card.openDataPath? with
  | none => a.card.closedDataJournal .read
  | some t =>
    match t.direction with
    | .write => [(CardNotice.wrongDirection .read .write).entry]
    | .read =>
      a.fetchJournal teller t
        ++ if t.advance.blockDone then (a.fetch fs t).2.lastBlockJournal t.advance else []

end Attached

end WlanCard
