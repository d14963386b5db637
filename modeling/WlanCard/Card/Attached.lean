import WlanCard.Card.Basic

/-!
# A card with its functions

The card controller together with the state of the functions behind it. Register accesses go to
whatever handles the function: the card's own registers, the functions behind the card, or nothing.

A byte written to the card's own registers may reset the card, abort a transfer, or change what the
interrupt line depends on. That happens at once, before the next byte of the same access is written;
a reset in the middle of a block does not stop the rest of the block from being written.
-/

namespace WlanCard

/-- A card and the functions behind it. -/
structure Attached (σ : Type) where
  card : Card
  device : σ
deriving DecidableEq

namespace Attached

variable {σ : Type}

/-- Resets the card and the functions behind it. -/
def reset (fs : Functions σ) (a : Attached σ) : Attached σ where
  card := a.card.reset.updateIrq
  device := fs.reset a.device

/-- Carries out what a register write asks the card for. -/
def apply (fs : Functions σ) (a : Attached σ) : CommonArea.Effect → Attached σ
  | .nothing => a
  | .interrupts => { a with card := a.card.updateIrq }
  | .busControl =>
    match a.card.mode with
    | .spi => { a with card := a.card.updateIrq }
    | .native => a
  | .reset => a.reset fs
  | .abort f => { a with card := a.card.abort f }

/-- Writes one byte of the card's own registers. -/
def writeCommonByte (fs : Functions σ) (address : UInt32) (value : UInt8) (a : Attached σ) :
    Attached σ :=
  let answer := a.card.area.writeByte fs address.toNat value a.device
  apply fs { card := { a.card with area := answer.2.1 }, device := answer.2.2 } answer.1

/-- Writes bytes to the card's own registers, up to the first address behind them. -/
def writeCommon (fs : Functions σ) (how : Addressing) :
    (address : UInt32) → (bytes : List UInt8) → (a : Attached σ) → Attached σ
  | _, [], a => a
  | address, value :: rest, a =>
    if CommonArea.registersEnd ≤ address.toNat then a
    else writeCommon fs how (address + how.stride) rest (a.writeCommonByte fs address value)

/-- Writes bytes to a function. -/
def write (fs : Functions σ) (f : FunctionNumber) (address : UInt32) (bytes : List UInt8)
    (how : Addressing) (a : Attached σ) : Attached σ :=
  match a.card.handlers.get f with
  | .common => a.writeCommon fs how address bytes
  | .attached => { a with device := fs.write f address bytes how a.device }
  | .absent => a

/-- Reads bytes from a function. -/
def read (fs : Functions σ) (f : FunctionNumber) (address : UInt32) (length : Nat)
    (how : Addressing) (a : Attached σ) : List UInt8 × Attached σ :=
  match a.card.handlers.get f with
  | .common =>
    let answer := CommonArea.read fs how address.toNat length a.card.area a.device
    (answer.1, { card := { a.card with area := answer.2.1 }, device := answer.2.2 })
  | .attached =>
    let answer := fs.read f address length how a.device
    (answer.1, { a with device := answer.2 })
  | .absent => (List.replicate length 0, a)

/-- A read answers as many bytes as it was asked for, whatever handles the function. -/
theorem length_read (fs : Functions σ) (f : FunctionNumber) (address : UInt32) (length : Nat)
    (how : Addressing) (a : Attached σ) : (a.read fs f address length how).1.length = length := by
  unfold read
  split
  · exact CommonArea.length_read ..
  · exact fs.length_read ..
  · simp

/-- Drives the interrupt line of function `line + 1`. -/
def setFunctionIrq (a : Attached σ) (line : Fin 8) (level : Bool) : Attached σ :=
  { a with card := a.card.setFunctionIrq line level }

end Attached

end WlanCard
