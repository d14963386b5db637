import WlanCard.Card.Attached

/-!
# The data path

While a transfer is open, the host writes or reads one byte at a time. A written block reaches the
function once it is complete; a read block is fetched before its first byte. Bytes in the wrong
direction, or without an open transfer, are ignored, and read as zero.
-/

namespace WlanCard.Attached

variable {σ : Type}

/-- The card with its transfer replaced. -/
def setTransfer (a : Attached σ) (t : Transfer) : Attached σ :=
  { a with card.transfer := some t }

/-- Hands a complete block to its function. Unless that has reset the card or aborted the transfer,
the transfer goes on to the next block, or ends after the last. -/
def flush (fs : Functions σ) (t : Transfer) (a : Attached σ) : Attached σ :=
  let a := a.write fs t.function t.start t.staging.toList t.addressing
  if a.card.phase = .transfer then
    let finished := t.finishBlock
    if finished.1 then { a with card := a.card.endTransfer } else a.setTransfer finished.2
  else a

/-- Accepts one byte from the host. -/
def writeData (fs : Functions σ) (value : UInt8) (a : Attached σ) : Attached σ :=
  match a.card.openDataPath? with
  | none => a
  | some t =>
    match t.direction with
    | .read => a
    | .write =>
      let t := t.put value
      if t.blockDone then a.flush fs t else a.setTransfer t

/-- Fetches the block that the host is about to read, at its first byte. -/
def fetch (fs : Functions σ) (t : Transfer) (a : Attached σ) : Transfer × Attached σ :=
  if t.offset = 0 then
    let answer := a.read fs t.function t.start t.blockLength t.addressing
    ({ t with staging := answer.1.toArray }, answer.2)
  else (t, a)

/-- Moves on after one byte has been read: within the block, to the next block, or past the end of
the transfer. -/
def moveOn (t : Transfer) (a : Attached σ) : Attached σ :=
  let t := t.advance
  if t.blockDone then
    let finished := t.finishBlock
    if finished.1 then { a with card := a.card.endTransfer } else a.setTransfer finished.2
  else a.setTransfer t

/-- Hands one byte to the host. -/
def readData (fs : Functions σ) (a : Attached σ) : UInt8 × Attached σ :=
  match a.card.openDataPath? with
  | none => (0, a)
  | some t =>
    match t.direction with
    | .write => (0, a)
    | .read =>
      let fetched := a.fetch fs t
      (fetched.1.current, fetched.2.moveOn fetched.1)

end WlanCard.Attached
