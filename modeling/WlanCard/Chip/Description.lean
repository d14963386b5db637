import WlanCard.Card.Notice
import WlanCard.Chip.Basic

/-!
# The description of a chip

The whole state of a chip on one line, for looking at it while debugging: every register in decimal,
every buffer as a list. The configuration, the timers and the messages sent are left out, which the
dots at the end say.
-/

namespace WlanCard

open Text

/-- Bytes in brackets, in decimal. -/
def describeBytes (bytes : List UInt8) : String :=
  decimals (bytes.map UInt8.toNat)

/-- The flags that are set and then the bits that belong to none of them, or zero. -/
def Status.describe (s : Status) : String :=
  let names := s.flags.map Status.Flag.name
  let rest := if s.leftover = 0 then [] else ["0x" ++ hexDigits .lower 1 s.leftover.toNat]
  let parts := if s.bits = 0 then ["0x0"] else names ++ rest
  "CardStatus(" ++ " | ".intercalate parts ++ ")"

/-- A transfer in progress. -/
def Transfer.describe (t : Transfer) : String :=
  record "TransferContext" [
    field "func" (decimal t.function),
    field "direction" t.direction.name,
    field "step" (decimal t.addressing.stride.toNat),
    field "block_len" (decimal t.blockLength),
    field "blocks" t.blocks.describe,
    field "start" (decimal t.start.toNat),
    field "offset" (decimal t.offset),
    field "data" (describeBytes t.staging.toList)]

/-- The basic registers of a function. -/
def FunctionState.describe (f : FunctionState) : String :=
  record "Fbr" [
    field "interface_code" (decimal f.interfaceCode.toNat),
    field "ext_interface_code" (decimal f.extendedInterfaceCode.toNat),
    field "csa_addr" (decimal f.storagePointer.toNat)]

/-- What is fixed about a function. -/
def FunctionInfo.describe (f : FunctionInfo) : String :=
  record "FunctionInfo" [
    field "interface_code" (decimal f.interfaceCode.toNat),
    field "ext_interface_code" (decimal f.extendedInterfaceCode.toNat),
    field "cis_offset" (decimal f.tupleOffset.toNat)]

/-- A register with one bit, which is set or not. -/
def describeBit (bit : UInt8) (isSet : Bool) : String :=
  decimal (if isSet then bit.toNat else 0)

/-- The registers of function 0. -/
def CommonArea.describe (area : CommonArea) : String :=
  record "Cia" [
    field "revision" (decimal area.layout.revision.toNat),
    field "num_functions" (decimal area.functionCount),
    field "io_enable" (decimal area.ioEnable.toNat),
    field "int_enable" (decimal area.interruptEnable.toNat),
    field "int_pending" (decimal area.interruptPending.toNat),
    field "bus" (decimal area.busControl.toNat),
    field "e4mi" (describeBit multiBlockInterruptBit area.multiBlockInterrupt),
    field "power" (describeBit enabledBit area.powerControl),
    field "speed" (describeBit enabledBit area.highSpeed),
    field "function_select" (decimal area.functionSelect),
    field "block_len" (decimals (area.blockLengths.toList.map BitVec.toNat)),
    field "fbr" (listing (area.functions.toList.map FunctionState.describe)),
    field "info" (listing (area.layout.functions.toList.map FunctionInfo.describe)),
    field "cis" (describeBytes area.layout.tuples.toList)]

/-- What handles a function. -/
def Handler.describe : Handler → String
  | .common => "Common"
  | .attached => "Card"
  | .absent => "Dummy"

/-- The state of a card controller. The active command stands twice: as the last one, and as the one
that follows it. -/
def Card.describe (c : Card) : String :=
  record "SdioCard" [
    field "state" c.phase.name,
    field "io_ocr" (decimal c.conditions.toNat),
    field "rca" (decimal c.address.toNat),
    field "status" c.status.describe,
    field "sdio_ready" (truth c.ready),
    field "mode" c.mode.name,
    field "current_cmd" (decimal c.activeCommand.toNat),
    field "next_cmd" (decimal c.activeCommand.toNat),
    field "cia" c.area.describe,
    field "transfer" (optional Transfer.describe c.transfer),
    field "direct_data" (decimal c.directData.toNat),
    field "handlers" (listing (c.handlers.toList.map Handler.describe)),
    field "irq" (truth c.irq)]

/-- The state of the host interface. The windows of the mailboxes stand in one list. -/
def HostInterface.describe (h : HostInterface) : String :=
  let boxes := h.mailboxes.toList
  record "Hif" [
    field "host_int_stat" (decimal h.status.toNat),
    field "cpu_int_stat" (decimal h.cpu.status.toNat),
    field "error_int_stat" (decimal h.error.status.toNat),
    field "counter_int_stat" (decimal h.counter.status.toNat),
    field "mbox_frame" (decimal h.mailboxFrame.toNat),
    field "rx_lookahead_valid" (decimal h.lookaheadValid.toNat),
    field "rx_lookahead" (decimals (boxes.map (·.lookahead.toNat))),
    field "int_stat_enable" (decimal h.enable.toNat),
    field "cpu_int_stat_enable" (decimal h.cpu.enable.toNat),
    field "error_int_stat_enable" (decimal h.error.enable.toNat),
    field "counter_int_stat_enable" (decimal h.counter.enable.toNat),
    field "available" (describeBytes (boxes.map Mailbox.available)),
    field "credits" (describeBytes (boxes.map Mailbox.credits)),
    field "scratch" (describeBytes h.scratch.toList),
    field "wlan_int" (decimal h.wlanInterrupt.toNat),
    field "mbox" (describeBytes (boxes.flatMap (·.window.toList))),
    field "mbox_count" (decimals (boxes.map Mailbox.written))]

/-- A session with the bootloader. -/
def Bootloader.describe (b : Bootloader) : String :=
  record "BmiSession" [
    field "done" (truth b.done),
    field "target_info" b.form.name]

/-- The running firmware. -/
def Firmware.describe (f : Firmware) : String :=
  record "WmiTransport" [
    field "mac_address" (describeBytes f.station.toList),
    field "phy_capability" (decimal f.capability.toNat),
    field "alive" (truth f.announced),
    field "unhandled_commands" (decimal f.unhandled)]

/-- The state of a chip. -/
def Chip.describe (chip : Chip) : String :=
  openRecord "Ar6k" [
    field "card" chip.card.describe,
    field "hif" chip.target.host.describe,
    field "bmi" chip.target.boot.describe,
    field "wmi" (optional Firmware.describe chip.target.firmware),
    field "now" (decimal chip.now)]

end WlanCard
