import WlanCard.Card.Attached

/-!
# Executing commands

A command that the card refuses sets the flag for an illegal command and is answered by nothing. Any
other command moves the card between its phases, reads or writes a register, or opens a transfer, and
its response is built from the state after it.
-/

namespace WlanCard

namespace Card

/-- The distance between the relative addresses that a card publishes one after the other. -/
def addressStep : UInt16 := 0x4567

/-- Publishes a new relative address. -/
def publishAddress (c : Card) : Card :=
  { c with phase := .standby, address := c.address + addressStep }

/-- Takes notice of the host's operating conditions; none at all are a question only. -/
def agree (c : Card) (conditions : UInt32) : Card :=
  if conditions = 0 then c else { c with ready := true }

/-- Selects the card under its own address and deselects it under any other. A card that stays
deselected does not answer. -/
def select (c : Card) (address : UInt16) : ResponseKind × Card :=
  match c.phase with
  | .standby => if address = c.address then (.r1b, { c with phase := .command }) else (.r0, c)
  | _ => if address = c.address then (.r1b, c) else (.r1b, { c with phase := .standby })

/-- Makes the card inactive if it is meant, as it is as long as it has no address. -/
def goInactive (c : Card) (address : UInt16) : Card :=
  if c.address = 0 ∨ c.address = address then { c with phase := .inactive } else c

/-- The card after it has refused a command. -/
def refuse (c : Card) : ResponseKind × Card :=
  (match c.mode with
    | .native => .r0
    | .spi => .r1,
    { c with status := c.status.raise Status.Flag.illegalCommand.mask })

end Card

namespace Attached

variable {σ : Type}

/-- Whether a direct request reads a byte after it has written one, if it does. -/
def readsBack (q : DirectRequest) : Bool :=
  !q.isWrite || q.readBack

/-- The writing half of a direct access. -/
def directWrite (fs : Functions σ) (q : DirectRequest) (a : Attached σ) : Attached σ :=
  if q.isWrite then a.write fs q.function q.address [q.value] .incrementing else a

/-- The reading half of a direct access: the byte read goes into the response. -/
def directRead (fs : Functions σ) (q : DirectRequest) (a : Attached σ) : Attached σ :=
  if readsBack q then
    let answer := a.read fs q.function q.address 1 .incrementing
    { answer.2 with card.directData := answer.1.headD 0 }
  else a

/-- Carries out a direct access. A function that the card does not have is an address error. -/
def direct (fs : Functions σ) (q : DirectRequest) (a : Attached σ) : Attached σ :=
  let a := { a with card.directData := q.value }
  if a.card.functionCount < q.function then
    { a with card.status := a.card.status.raise Status.Flag.addressError.mask }
  else (a.directWrite fs q).directRead fs q

/-- Carries out an accepted command; answers the kind of its response. -/
def carryOut (fs : Functions σ) (a : Attached σ) : Command → ResponseKind × Attached σ
  | .goIdle => (.r0, a)
  | .sendRelativeAddress => (.r6, { a with card := a.card.publishAddress })
  | .sendOperatingConditions conditions => (.r4, { a with card := a.card.agree conditions })
  | .select address =>
    let answer := a.card.select address
    (answer.1, { a with card := answer.2 })
  | .goInactive address => (.r0, { a with card := a.card.goInactive address })
  | .direct q => (.r5, a.direct fs q)
  | .extended q =>
    let answer := a.card.openTransfer q
    (answer.1, { a with card := answer.2 })
  | .crcSwitch | .unknown => (.r1, a)

/-- Why the card refuses a command now, if it does. -/
def refusal (a : Attached σ) (command : Command) : Option Refusal :=
  command.refusal a.card.mode a.card.ready a.card.phase

/-- Notes the command under which data may flow from now on. A direct access during a transfer keeps
the one that opened the transfer. -/
def noteCommand (number : UInt8) (command : Command) (c : Card) : Card :=
  match command, c.phase with
  | .direct _, .transfer => c
  | _, _ => { c with activeCommand := number }

/-- The card as a command finds it: the flags that the last command left behind are cleared. -/
def prepare (number : UInt8) (command : Command) (a : Attached σ) : Attached σ :=
  let forgotten := Status.Flag.commandCrcError.mask ||| Status.Flag.illegalCommand.mask
  { a with
    card := noteCommand number command { a.card with status := a.card.status.clear forgotten } }

/-- Carries out a command or refuses it; answers the kind of its response. -/
def execute (fs : Functions σ) (number : UInt8) (argument : UInt32) (a : Attached σ) :
    ResponseKind × Attached σ :=
  let command := Command.ofWire number argument
  let a := a.prepare number command
  match a.refusal command with
  | none => a.carryOut fs command
  | some _ =>
    let answer := a.card.refuse
    (answer.1, { a with card := answer.2 })

/-- Builds a response of the given kind; `last` is the status before the command. -/
def respond (kind : ResponseKind) (last : Status) (c : Card) : Response × Card :=
  let built : Response × Status := match kind with
    | .r0 => (.none, c.status)
    | .r1 | .r1b => Response.normal kind last c.status
    | .r4 => (Response.operatingConditions c.conditions c.ready, c.status)
    | .r5 => Response.direct c.status c.phase c.mode c.directData
    | .r6 => (Response.publishedAddress c.status c.address, c.status)
  let c := { c with status := built.2 }
  (if c.status.has .illegalCommand then built.1.suppress else built.1, c)

/-- Executes a command and builds its response. -/
def command (fs : Functions σ) (number : UInt8) (argument : UInt32) (a : Attached σ) :
    Response × Attached σ :=
  let executed := a.execute fs number argument
  let answer := respond executed.1 a.card.status executed.2.card
  (answer.1, { executed.2 with card := answer.2 })

end Attached

end WlanCard
