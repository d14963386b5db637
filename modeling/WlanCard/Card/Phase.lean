/-!
# Phases of a card and the bus it speaks

A card goes through the phases of enumeration, from `initialization` over `standby` to `command`,
and back and forth between `command` and `transfer` while data runs. An `inactive` card stays so
until it is reset. The bus protocol is fixed when the card is attached.
-/

namespace WlanCard

/-- The protocol on the physical bus. -/
inductive BusMode where
  /-- One or four data lines, with an interrupt line of its own. -/
  | native
  /-- A byte-wide serial bus. -/
  | spi
deriving DecidableEq, Repr

/-- The phase a card is in, as the host can tell. -/
inductive Phase where
  | initialization
  | standby
  | command
  | transfer
  | inactive
deriving DecidableEq, Repr

/-- The phase as a direct-access response reports it: two bits, zero for every phase in which
registers cannot be reached. -/
def Phase.code : Phase → UInt8
  | .initialization | .standby | .inactive => 0
  | .command => 1
  | .transfer => 2

/-- The name of a phase in messages. -/
def Phase.name : Phase → String
  | .initialization => "Initialization"
  | .standby => "Standby"
  | .command => "Command"
  | .transfer => "Transfer"
  | .inactive => "Inactive"

/-- The name of a bus protocol in messages. -/
def BusMode.name : BusMode → String
  | .native => "Native"
  | .spi => "Spi"

end WlanCard
