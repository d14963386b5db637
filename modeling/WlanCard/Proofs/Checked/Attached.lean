import WlanCard.Proofs.Checked.Card

/-!
# A card with its functions in steps that can fault

Register accesses, data bytes and commands, with the functions behind the card reached on the way.
What keeps the functions within bounds is that they are paid for in advance: a byte that waits in
the staging buffer has been accepted by an operation of its own, so a block is paid for when it is
handed over, even one whose every byte resets the card.

`Attached.Ready` puts this and the books of the transfer together. Every operation keeps it, at the
price of one (`command_ready`, `writeData_ready`, `readData_ready`, `reset_ready`).
-/

namespace WlanCard.Attached

open Checked

variable {σ : Type}

/-! ## Register accesses -/

/-- Resets the card and the functions behind it. -/
def checkedReset (cf : CheckedFunctions σ) (a : Attached σ) : Checked (Attached σ) := do
  let device ← cf.reset a.device
  return ⟨a.card.reset.updateIrq, device⟩

/-- Carries out what a register write asks the card for. -/
def checkedApply (cf : CheckedFunctions σ) (a : Attached σ) :
    CommonArea.Effect → Checked (Attached σ)
  | .nothing => .ok a
  | .interrupts => .ok { a with card := a.card.updateIrq }
  | .busControl =>
    match a.card.mode with
    | .spi => .ok { a with card := a.card.updateIrq }
    | .native => .ok a
  | .reset => a.checkedReset cf
  | .abort f => .ok { a with card := a.card.abort f }

/-- Writes one byte of the card's own registers. -/
def checkedWriteCommonByte (cf : CheckedFunctions σ) (address : UInt32) (value : UInt8)
    (a : Attached σ) : Checked (Attached σ) := do
  let answer ← a.card.area.checkedWriteByte cf address.toNat value a.device
  checkedApply cf ⟨{ a.card with area := answer.2.1 }, answer.2.2⟩ answer.1

/-- Writes bytes to the card's own registers, the first of which is number `i` of `total`. Behind the
registers the bytes that are lost are counted. -/
def checkedWriteCommon (cf : CheckedFunctions σ) (how : Addressing) (total : Nat) :
    (i : Nat) → (address : UInt32) → (bytes : List UInt8) → (a : Attached σ) → Checked (Attached σ)
  | _, _, [], a => .ok a
  | i, address, value :: rest, a =>
    if CommonArea.registersEnd ≤ address.toNat then do
      let _lost ← sub total i
      return a
    else do
      let written ← a.checkedWriteCommonByte cf address value
      checkedWriteCommon cf how total (i + 1) (address + how.stride) rest written

/-- Writes bytes to a function. -/
def checkedWrite (cf : CheckedFunctions σ) (f : FunctionNumber) (address : UInt32)
    (bytes : List UInt8) (how : Addressing) (a : Attached σ) : Checked (Attached σ) :=
  match a.card.handlers.get f with
  | .common => a.checkedWriteCommon cf how bytes.length 0 address bytes
  | .attached => do
    let device ← cf.write f address bytes how a.device
    return { a with device := device }
  | .absent => .ok a

/-- Reads bytes from a function into a buffer. -/
def checkedRead (cf : CheckedFunctions σ) (f : FunctionNumber) (address : UInt32)
    (buffer : List UInt8) (how : Addressing) (a : Attached σ) :
    Checked (List UInt8 × Attached σ) :=
  match a.card.handlers.get f with
  | .common => do
    let answer ← CommonArea.checkedRead cf how address buffer a.card.area a.device
    return (answer.1, ⟨{ a.card with area := answer.2.1 }, answer.2.2⟩)
  | .attached => do
    let answer ← cf.read f address buffer.length how a.device
    return (answer.1, { a with device := answer.2 })
  | .absent => .ok (List.replicate buffer.length 0, a)

/-! ## Data -/

/-- Goes on to the next block, or ends the transfer after the last. -/
def checkedFinish (t : Transfer) (a : Attached σ) : Checked (Attached σ) := do
  let finished ← t.checkedFinishBlock
  return if finished.1 then { a with card := a.card.endTransfer } else a.setTransfer finished.2

/-- Hands a complete block to its function. -/
def checkedFlush (cf : CheckedFunctions σ) (t : Transfer) (a : Attached σ) :
    Checked (Attached σ) := do
  let written ← a.checkedWrite cf t.function t.start t.staging.toList t.addressing
  if written.card.phase = .transfer then written.checkedFinish t else return written

/-- Accepts one byte from the host. -/
def checkedWriteData (cf : CheckedFunctions σ) (value : UInt8) (a : Attached σ) :
    Checked (Attached σ) :=
  match a.card.openDataPath? with
  | none => .ok a
  | some t =>
    match t.direction with
    | .read => .ok a
    | .write => do
      let t ← t.checkedPut value
      if t.blockDone then a.checkedFlush cf t else return a.setTransfer t

/-- Fetches the block that the host is about to read into the staging buffer. -/
def checkedFetch (cf : CheckedFunctions σ) (t : Transfer) (a : Attached σ) :
    Checked (Transfer × Attached σ) :=
  if t.offset = 0 then do
    let answer ← a.checkedRead cf t.function t.start t.staging.toList t.addressing
    return ({ t with staging := answer.1.toArray }, answer.2)
  else .ok (t, a)

/-- Moves on after one byte has been read. -/
def checkedMoveOn (t : Transfer) (a : Attached σ) : Checked (Attached σ) := do
  let t ← t.checkedAdvance
  if t.blockDone then a.checkedFinish t else return a.setTransfer t

/-- Hands one byte to the host. -/
def checkedReadData (cf : CheckedFunctions σ) (a : Attached σ) : Checked (UInt8 × Attached σ) :=
  match a.card.openDataPath? with
  | none => .ok (0, a)
  | some t =>
    match t.direction with
    | .write => .ok (0, a)
    | .read => do
      let fetched ← a.checkedFetch cf t
      let value ← fetched.1.checkedCurrent
      let moved ← fetched.2.checkedMoveOn fetched.1
      return (value, moved)

/-! ## Commands -/

/-- The writing half of a direct access. -/
def checkedDirectWrite (cf : CheckedFunctions σ) (q : DirectRequest) (a : Attached σ) :
    Checked (Attached σ) :=
  if q.isWrite then a.checkedWrite cf q.function q.address [q.value] .incrementing else .ok a

/-- The reading half of a direct access, through a buffer of one byte. -/
def checkedDirectRead (cf : CheckedFunctions σ) (q : DirectRequest) (a : Attached σ) :
    Checked (Attached σ) :=
  if readsBack q then do
    let answer ← a.checkedRead cf q.function q.address [0] .incrementing
    let byte ← get answer.1 0
    return { answer.2 with card.directData := byte }
  else .ok a

/-- Carries out a direct access. -/
def checkedDirect (cf : CheckedFunctions σ) (q : DirectRequest) (a : Attached σ) :
    Checked (Attached σ) :=
  let a := { a with card.directData := q.value }
  if a.card.functionCount < q.function then
    .ok { a with card.status := a.card.status.raise Status.Flag.addressError.mask }
  else do
    let written ← a.checkedDirectWrite cf q
    written.checkedDirectRead cf q

/-- Carries out an accepted command; answers the kind of its response. -/
def checkedCarryOut (cf : CheckedFunctions σ) (a : Attached σ) :
    Command → Checked (ResponseKind × Attached σ)
  | .goIdle => .ok (.r0, a)
  | .sendRelativeAddress => .ok (.r6, { a with card := a.card.publishAddress })
  | .sendOperatingConditions conditions => .ok (.r4, { a with card := a.card.agree conditions })
  | .select address =>
    let answer := a.card.select address
    .ok (answer.1, { a with card := answer.2 })
  | .goInactive address => .ok (.r0, { a with card := a.card.goInactive address })
  | .direct q => do
    let done ← a.checkedDirect cf q
    return (.r5, done)
  | .extended q => do
    let answer ← a.card.checkedOpenTransfer q
    return (answer.1, { a with card := answer.2 })
  | .crcSwitch | .unknown => .ok (.r1, a)

/-- Carries out a command or refuses it. -/
def checkedExecute (cf : CheckedFunctions σ) (number : UInt8) (argument : UInt32)
    (a : Attached σ) : Checked (ResponseKind × Attached σ) := do
  let command ← Command.checkedOfWire number argument
  let a := a.prepare number command
  match a.refusal command with
  | none => a.checkedCarryOut cf command
  | some _ =>
    let answer := a.card.refuse
    return (answer.1, { a with card := answer.2 })

/-- Executes a command and builds its response. -/
def checkedCommand (cf : CheckedFunctions σ) (number : UInt8) (argument : UInt32)
    (a : Attached σ) : Checked (Response × Attached σ) := do
  let executed ← a.checkedExecute cf number argument
  let answer := respond executed.1 a.card.status executed.2.card
  let bytes ← answer.1.checkedBytes
  return ({ answer.1 with bytes := bytes }, { executed.2 with card := answer.2 })

/-! ## Register accesses without a fault -/

section Agreement

variable {cf : CheckedFunctions σ} {fs : Functions σ} {afford : Nat → σ → Prop} {a : Attached σ}
  {k : Nat}

theorem checkedReset_eq (agrees : cf.Agrees fs afford) (room : afford (k + 1) a.device) :
    a.checkedReset cf = .ok (a.reset fs) ∧ afford k (a.reset fs).device := by
  obtain ⟨ran, left⟩ := agrees.reset room
  exact ⟨ok_bind ran rfl, left⟩

theorem checkedApply_eq (agrees : cf.Agrees fs afford) (effect : CommonArea.Effect)
    (room : afford (k + 1) a.device) :
    a.checkedApply cf effect = .ok (a.apply fs effect) ∧ afford k (a.apply fs effect).device := by
  have less := agrees.less (Nat.le_succ k) room
  cases effect with
  | reset => exact checkedReset_eq agrees room
  | nothing | interrupts | abort f => exact ⟨rfl, less⟩
  | busControl =>
    unfold checkedApply apply
    cases a.card.mode with
    | spi | native => exact ⟨rfl, less⟩

theorem checkedWriteCommonByte_eq (agrees : cf.Agrees fs afford) (address : UInt32) (value : UInt8)
    (room : afford (k + 1) a.device) :
    a.checkedWriteCommonByte cf address value = .ok (a.writeCommonByte fs address value) ∧
      afford k (a.writeCommonByte fs address value).device := by
  obtain ⟨stored, left⟩ :=
    CommonArea.checkedWriteByte_eq agrees address.toNat value a.card.area room
  let answer := a.card.area.writeByte fs address.toNat value a.device
  obtain ⟨applied, left⟩ := checkedApply_eq agrees answer.1 (a := ⟨_, answer.2.2⟩) left
  exact ⟨ok_bind stored applied, left⟩

/-- One byte costs one reset at most, and there is nothing else that it costs. -/
theorem checkedWriteCommon_eq (agrees : cf.Agrees fs afford) (how : Addressing) {total i : Nat}
    (address : UInt32) {bytes : List UInt8} (counted : i + bytes.length = total)
    (room : afford (k + bytes.length) a.device) :
    a.checkedWriteCommon cf how total i address bytes = .ok (a.writeCommon fs how address bytes) ∧
      afford k (a.writeCommon fs how address bytes).device := by
  induction bytes generalizing i address a with
  | nil => exact ⟨rfl, room⟩
  | cons value rest ih =>
    rw [List.length_cons] at counted room
    unfold checkedWriteCommon writeCommon
    split
    · exact ⟨ok_bind (sub_eq (by omega)) rfl, agrees.less (by omega) room⟩
    · obtain ⟨stored, left⟩ := checkedWriteCommonByte_eq agrees address value (k := k + rest.length)
        (agrees.less (by omega) room)
      obtain ⟨ran, left⟩ := ih (address + how.stride) (i := i + 1) (by omega) left
      exact ⟨ok_bind stored ran, left⟩

/-- **A write access** costs a byte for each of its bytes. -/
theorem checkedWrite_eq (agrees : cf.Agrees fs afford) (f : FunctionNumber) (address : UInt32)
    (bytes : List UInt8) (how : Addressing) (room : afford (k + bytes.length) a.device) :
    a.checkedWrite cf f address bytes how = .ok (a.write fs f address bytes how) ∧
      afford k (a.write fs f address bytes how).device := by
  unfold checkedWrite write
  cases a.card.handlers.get f with
  | common => exact checkedWriteCommon_eq agrees how address (Nat.zero_add _) room
  | attached =>
    obtain ⟨ran, left⟩ := agrees.write f address bytes how room
    exact ⟨ok_bind ran rfl, left⟩
  | absent => exact ⟨rfl, agrees.less (Nat.le_add_right ..) room⟩

/-- **A read access** costs nothing. -/
theorem checkedRead_eq (agrees : cf.Agrees fs afford) (fits : a.card.area.layout.Addressable)
    (f : FunctionNumber) (address : UInt32) {buffer : List UInt8} (short : buffer.length < 2 ^ 64)
    (how : Addressing) (room : afford k a.device) :
    a.checkedRead cf f address buffer how = .ok (a.read fs f address buffer.length how) ∧
      afford k (a.read fs f address buffer.length how).2.device := by
  unfold checkedRead read
  cases a.card.handlers.get f with
  | common =>
    obtain ⟨ran, left⟩ := CommonArea.checkedRead_eq agrees how address short fits room
    exact ⟨ok_bind ran rfl, left⟩
  | attached =>
    obtain ⟨ran, left⟩ := agrees.read f address buffer.length how room
    exact ⟨ok_bind ran rfl, left⟩
  | absent => exact ⟨rfl, room⟩

/-! ## Data without a fault -/

/-- A card with functions that can afford `k` more operations, each byte in the staging buffer being
paid for. -/
structure Ready (afford : Nat → σ → Prop) (k : Nat) (a : Attached σ) : Prop where
  books : a.card.Bookkept
  fits : a.card.area.layout.Addressable
  room : afford (k + a.card.staged) a.device

theorem checkedFinish_eq (t : Transfer) (a : Attached σ) :
    a.checkedFinish t = .ok (if t.finishBlock.1 then { a with card := a.card.endTransfer }
      else a.setTransfer t.finishBlock.2) :=
  ok_bind (Transfer.checkedFinishBlock_eq t) rfl

/-- After a block nothing waits. -/
theorem staged_finish (t : Transfer) (a : Attached σ) :
    (if t.finishBlock.1 then { a with card := a.card.endTransfer }
      else a.setTransfer t.finishBlock.2).card.staged = 0 := by
  split
  · exact Card.staged_of_none a.card.endTransfer_transfer
  next more =>
    refine (Card.staged_of_some rfl).trans ?_
    cases counted : t.blocks with
    | infinite =>
      simp only [Transfer.finishBlock, counted]
      rfl
    | finite count =>
      simp only [Transfer.finishBlock, counted] at more ⊢
      split
      next last =>
        rw [if_pos last] at more
        exact absurd rfl more
      · rfl

/-- **A block handed over** uses up what has waited, and leaves nothing. -/
theorem checkedFlush_eq (agrees : cf.Agrees fs afford) (t : Transfer)
    (running : a.card.phase = .transfer) (room : afford (k + t.staging.size) a.device) :
    a.checkedFlush cf t = .ok (a.flush fs t) ∧ afford k (a.flush fs t).device ∧
      (a.flush fs t).card.staged = 0 := by
  have bytes : t.staging.toList.length = t.staging.size := Array.length_toList
  obtain ⟨wrote, left⟩ :=
    checkedWrite_eq agrees t.function t.start t.staging.toList t.addressing (bytes.symm ▸ room)
  have stopped := write_keepsOrStops fs t.function t.start t.staging.toList t.addressing a
  unfold checkedFlush flush
  generalize a.write fs t.function t.start t.staging.toList t.addressing = written at *
  dsimp only
  by_cases still : written.card.phase = .transfer
  · rw [if_pos still]
    refine ⟨ok_bind wrote ?_, ?_, staged_finish t written⟩
    · rw [if_pos still]
      exact checkedFinish_eq t written
    · split <;> exact left
  · rw [if_neg still]
    refine ⟨ok_bind wrote (if_neg still), left, ?_⟩
    cases stopped with
    | keeps flow => exact absurd (flow.phase.trans running) still
    | stops _ _ none => exact Card.staged_of_none none

/-- **A byte is accepted.** It is paid for at once, and used up with its block. -/
theorem writeData_ready (agrees : cf.Agrees fs afford) (value : UInt8)
    (ready : a.Ready afford (k + 1)) :
    a.checkedWriteData cf value = .ok (a.writeData fs value) ∧
      (a.writeData fs value).Ready afford k := by
  obtain ⟨books, fits, room⟩ := ready
  have later : (a.writeData fs value).card.area.layout.Addressable :=
    (perform_layout fs (.writeData value) a).symm ▸ fits
  suffices held : a.checkedWriteData cf value = .ok (a.writeData fs value) ∧
      afford (k + (a.writeData fs value).card.staged) (a.writeData fs value).device from
    ⟨held.1, writeData_bookkept fs value books, later, held.2⟩
  have idle : afford (k + a.card.staged) a.device := agrees.less (by omega) room
  unfold checkedWriteData writeData
  cases flowing : a.card.openDataPath? with
  | none => exact ⟨rfl, idle⟩
  | some t =>
    dsimp only
    cases t.direction with
    | read => exact ⟨rfl, idle⟩
    | write =>
      have held := Card.transfer_of_openDataPath flowing
      have order := books.inOrder t held
      rw [Card.staged_of_some held] at room
      have size : (t.put value).staging.size = t.blockLength :=
        Array.size_setIfInBounds.trans order.size
      have waits := order.offset
      dsimp only
      split
      next full =>
        have filled : t.blockLength ≤ t.offset + 1 := of_decide_eq_true full
        obtain ⟨ran, left, none⟩ := checkedFlush_eq agrees (t.put value)
          (Card.phase_of_openDataPath flowing) (agrees.less (by omega) room) (k := k)
        rw [none]
        exact ⟨ok_bind (order.checkedPut_eq value) ((if_pos full).trans ran), left⟩
      next short =>
        refine ⟨ok_bind (order.checkedPut_eq value) (if_neg short), ?_⟩
        show afford (k + (t.offset + 1)) a.device
        exact agrees.less (by omega) room

/-- A block is fetched into a staging buffer that is as long. -/
theorem checkedFetch_eq (agrees : cf.Agrees fs afford) (fits : a.card.area.layout.Addressable)
    {t : Transfer} (order : t.InOrder) (room : afford k a.device) :
    a.checkedFetch cf t = .ok (a.fetch fs t) ∧ afford k (a.fetch fs t).2.device := by
  have size : t.staging.toList.length = t.blockLength := Array.length_toList.trans order.size
  have small := order.blockLength_le
  simp only [Transfer.maxBlockLength] at small
  obtain ⟨ran, left⟩ := checkedRead_eq agrees fits t.function t.start
    (show t.staging.toList.length < 2 ^ 64 by omega) t.addressing room
  rw [size] at ran left
  unfold checkedFetch fetch
  split
  · exact ⟨ok_bind ran rfl, left⟩
  · exact ⟨rfl, room⟩

theorem checkedMoveOn_eq {t : Transfer} (a : Attached σ) (order : t.InOrder) :
    a.checkedMoveOn t = .ok (a.moveOn t) := by
  refine ok_bind order.checkedAdvance_eq ?_
  unfold moveOn
  dsimp only
  split
  · exact checkedFinish_eq t.advance a
  · rfl

/-- Reading on concerns the card alone. -/
theorem moveOn_device (t : Transfer) (a : Attached σ) : (a.moveOn t).device = a.device := by
  unfold moveOn
  dsimp only
  split
  · split <;> rfl
  · rfl

/-- One byte more waits, at most. -/
theorem staged_moveOn_le (t : Transfer) (a : Attached σ) :
    (a.moveOn t).card.staged ≤ t.offset + 1 := by
  unfold moveOn
  dsimp only
  split
  · exact (staged_finish t.advance a).symm ▸ Nat.zero_le _
  · exact Nat.le_refl _

/-- **A byte is handed out.** It is paid for as one that is accepted. -/
theorem readData_ready (agrees : cf.Agrees fs afford) (ready : a.Ready afford (k + 1)) :
    a.checkedReadData cf = .ok (a.readData fs) ∧ (a.readData fs).2.Ready afford k := by
  obtain ⟨books, fits, room⟩ := ready
  have later : (a.readData fs).2.card.area.layout.Addressable :=
    (perform_layout fs .readData a).symm ▸ fits
  suffices held : a.checkedReadData cf = .ok (a.readData fs) ∧
      afford (k + (a.readData fs).2.card.staged) (a.readData fs).2.device from
    ⟨held.1, readData_bookkept fs books, later, held.2⟩
  have idle : afford (k + a.card.staged) a.device := agrees.less (by omega) room
  unfold checkedReadData readData
  cases flowing : a.card.openDataPath? with
  | none => exact ⟨rfl, idle⟩
  | some t =>
    dsimp only
    cases t.direction with
    | write => exact ⟨rfl, idle⟩
    | read =>
      have held := Card.transfer_of_openDataPath flowing
      have order := books.inOrder t held
      rw [Card.staged_of_some held] at room
      obtain ⟨ran, left⟩ := checkedFetch_eq agrees fits order room
      obtain ⟨staging, size, fetched, -⟩ := fetch_staging fs order.size a
      generalize a.fetch fs t = answer at *
      obtain ⟨u, b⟩ := answer
      dsimp only at *
      subst fetched
      have order : ({ t with staging := staging } : Transfer).InOrder := { order with size }
      have waits : _ ≤ t.offset + 1 := staged_moveOn_le { t with staging := staging } b
      have moved := checkedMoveOn_eq b order
      refine ⟨ok_bind ran (ok_bind order.checkedCurrent_eq (ok_bind moved rfl)), ?_⟩
      rw [moveOn_device]
      exact agrees.less (by omega) left

/-! ## Commands without a fault -/

/-- Accesses leave the layout of a card alone. -/
theorem Led.layout {marked : σ → Prop} {b : Attached σ} (led : a.Led marked b) :
    b.card.area.layout = a.card.area.layout := by
  show b.card.standing.layout = a.card.standing.layout
  cases led with
  | stays _ standing _ =>
    rcases standing with same | ⟨-, same⟩ <;> exact (congrArg Standing.layout same).trans rfl
  | restarts _ standing _ => exact (congrArg Standing.layout standing).trans rfl

theorem checkedDirectWrite_eq (agrees : cf.Agrees fs afford) (q : DirectRequest)
    (room : afford (k + 1) a.device) :
    a.checkedDirectWrite cf q = .ok (a.directWrite fs q) ∧ afford k (a.directWrite fs q).device := by
  unfold checkedDirectWrite directWrite
  split
  · exact checkedWrite_eq agrees q.function q.address [q.value] .incrementing room
  · exact ⟨rfl, agrees.less (Nat.le_succ k) room⟩

theorem checkedDirectRead_eq (agrees : cf.Agrees fs afford) (fits : a.card.area.layout.Addressable)
    (q : DirectRequest) (room : afford k a.device) :
    a.checkedDirectRead cf q = .ok (a.directRead fs q) ∧ afford k (a.directRead fs q).device := by
  unfold checkedDirectRead directRead
  split
  · have short : ([0] : List UInt8).length < 2 ^ 64 := by decide
    obtain ⟨ran, left⟩ := checkedRead_eq agrees fits q.function q.address short .incrementing room
    have one := length_read fs q.function q.address 1 .incrementing a
    change _ = Except.ok (a.read fs q.function q.address 1 .incrementing) at ran
    change afford k (a.read fs q.function q.address 1 .incrementing).2.device at left
    generalize a.read fs q.function q.address 1 .incrementing = answer at *
    obtain ⟨byte, only⟩ := List.length_eq_one_iff.mp one
    have first : get answer.1 0 = .ok (answer.1.headD 0) := by
      rw [only]
      rfl
    exact ⟨ok_bind ran (ok_bind first rfl), left⟩
  · exact ⟨rfl, room⟩

/-- **A direct access** costs the one byte that it writes. -/
theorem checkedDirect_eq (agrees : cf.Agrees fs afford) (fits : a.card.area.layout.Addressable)
    (q : DirectRequest) (room : afford (k + 1) a.device) :
    a.checkedDirect cf q = .ok (a.direct fs q) ∧ afford k (a.direct fs q).device := by
  unfold checkedDirect direct
  dsimp only
  split
  · exact ⟨rfl, agrees.less (Nat.le_succ k) room⟩
  · let noted : Attached σ := { a with card.directData := q.value }
    obtain ⟨wrote, left⟩ := checkedDirectWrite_eq agrees q (a := noted) room
    have layout := (directWrite_led fs.marks_true q noted).layout
    obtain ⟨read, left⟩ := checkedDirectRead_eq agrees (layout.symm ▸ fits) q left
    exact ⟨ok_bind wrote read, left⟩

theorem checkedCarryOut_eq (agrees : cf.Agrees fs afford) (fits : a.card.area.layout.Addressable)
    (command : Command) (room : afford (k + 1) a.device) :
    a.checkedCarryOut cf command = .ok (a.carryOut fs command) ∧
      afford k (a.carryOut fs command).2.device := by
  have less := agrees.less (Nat.le_succ k) room
  cases command with
  | direct q =>
    obtain ⟨ran, left⟩ := checkedDirect_eq agrees fits q room
    exact ⟨ok_bind ran rfl, left⟩
  | extended q => exact ⟨ok_bind (a.card.checkedOpenTransfer_eq q) rfl, less⟩
  | goIdle | sendRelativeAddress | sendOperatingConditions conditions | select address
  | goInactive address | crcSwitch | unknown => exact ⟨rfl, less⟩

/-- A command does not add to what waits. -/
theorem staged_carryOut_le (fs : Functions σ) (command : Command) (a : Attached σ) :
    (a.carryOut fs command).2.card.staged ≤ a.card.staged := by
  cases command with
  | direct q =>
    show (a.direct fs q).card.staged ≤ _
    unfold direct
    dsimp only
    split
    · exact Nat.le_refl _
    · let noted : Attached σ := { a with card.directData := q.value }
      refine Nat.le_trans (Nat.le_of_eq (Card.staged_congr (directRead_keepsFlow fs q _).transfer)) ?_
      show (noted.directWrite fs q).card.staged ≤ noted.card.staged
      unfold directWrite
      split
      · exact (write_keepsOrStops ..).staged_le
      · exact Nat.le_refl _
  | extended q =>
    show (a.card.openTransfer q).2.staged ≤ _
    unfold Card.openTransfer
    dsimp only
    split
    · exact Nat.le_refl _
    · split
      · exact Nat.le_refl _
      · exact Nat.zero_le _
  | sendOperatingConditions conditions =>
    show (a.card.agree conditions).staged ≤ _
    unfold Card.agree
    split <;> exact Nat.le_refl _
  | select address =>
    show (a.card.select address).2.staged ≤ _
    unfold Card.select
    split <;> split <;> exact Nat.le_refl _
  | goInactive address =>
    show (a.card.goInactive address).staged ≤ _
    unfold Card.goInactive
    split <;> exact Nat.le_refl _
  | goIdle | sendRelativeAddress | crcSwitch | unknown => exact Nat.le_refl _

/-- What is noted of a command does not wait in the staging buffer. -/
theorem prepare_staged (number : UInt8) (command : Command) (a : Attached σ) :
    (a.prepare number command).card.staged = a.card.staged := by
  simp only [prepare, noteCommand]
  split <;> rfl

theorem checkedExecute_eq (agrees : cf.Agrees fs afford) (fits : a.card.area.layout.Addressable)
    (number : UInt8) (argument : UInt32) (room : afford (k + 1) a.device) :
    a.checkedExecute cf number argument = .ok (a.execute fs number argument) ∧
      afford k (a.execute fs number argument).2.device := by
  let command := Command.ofWire number argument
  let found := a.prepare number command
  have kept : found.card.area = a.card.area := by
    simp only [found, prepare, noteCommand]
    split <;> rfl
  obtain ⟨ran, left⟩ := checkedCarryOut_eq agrees (a := found) (kept.symm ▸ fits) command room
  unfold checkedExecute execute
  dsimp only
  cases refused : found.refusal command with
  | none =>
    refine ⟨ok_bind (Command.checkedOfWire_eq ..) ?_, left⟩
    rw [refused]
    exact ran
  | some why =>
    refine ⟨ok_bind (Command.checkedOfWire_eq ..) ?_, agrees.less (Nat.le_succ k) room⟩
    rw [refused]
    rfl

theorem staged_execute_le (fs : Functions σ) (number : UInt8) (argument : UInt32) (a : Attached σ) :
    (a.execute fs number argument).2.card.staged ≤ a.card.staged := by
  have found := prepare_staged number (Command.ofWire number argument) a
  unfold execute
  dsimp only
  split
  · exact found ▸ staged_carryOut_le fs _ _
  · exact Nat.le_of_eq found

/-- No response has more bytes than there is room for. -/
theorem length_respond_le (kind : ResponseKind) (last : Status) (c : Card) :
    (respond kind last c).1.bytes.length ≤ 4 := by
  have suppressed : ∀ r : Response, r.bytes.length ≤ 4 → ∀ silent : Bool,
      (if silent then r.suppress else r).bytes.length ≤ 4 := by
    intro r short silent
    cases silent with
    | true => exact Nat.zero_le 4
    | false => exact short
  cases kind with
  | r0 => exact suppressed .none (Nat.zero_le 4) _
  | r1 | r1b | r4 => exact suppressed _ (Nat.le_of_eq (Word.length_bigEndian ..)) _
  | r5 =>
    refine suppressed _ ?_ _
    cases c.mode with
    | native | spi => simp [Response.direct]
  | r6 =>
    refine suppressed _ ?_ _
    simp [Response.publishedAddress]

theorem respond_checkedBytes (kind : ResponseKind) (last : Status) (c : Card) :
    (respond kind last c).1.checkedBytes = .ok (respond kind last c).1.bytes :=
  Response.checkedBytes_eq (length_respond_le kind last c)

/-- **A command is answered.** What waited in the staging buffer waits on, or is lost. -/
theorem command_ready (agrees : cf.Agrees fs afford) (number : UInt8) (argument : UInt32)
    (ready : a.Ready afford (k + 1)) :
    a.checkedCommand cf number argument = .ok (a.command fs number argument) ∧
      (a.command fs number argument).2.Ready afford k := by
  obtain ⟨books, fits, room⟩ := ready
  obtain ⟨ran, left⟩ := checkedExecute_eq agrees fits number argument (k := k + a.card.staged)
    (agrees.less (by omega) room)
  have waits := staged_execute_le fs number argument a
  refine ⟨ok_bind ran (ok_bind (respond_checkedBytes ..) rfl), ?_, ?_, agrees.less ?_ left⟩
  · exact command_bookkept fs number argument books
  · exact (perform_layout fs (.command number argument) a).symm ▸ fits
  · exact Nat.add_le_add_left waits k

/-- **A reset** pays for itself, and for what waited before it. -/
theorem reset_ready (agrees : cf.Agrees fs afford) (ready : a.Ready afford (k + 1)) :
    a.checkedReset cf = .ok (a.reset fs) ∧ (a.reset fs).Ready afford k := by
  obtain ⟨books, fits, room⟩ := ready
  obtain ⟨ran, left⟩ := checkedReset_eq agrees (k := k) (agrees.less (by omega) room)
  exact ⟨ran, perform_bookkept fs .reset books, (perform_layout fs .reset a).symm ▸ fits, left⟩

end Agreement

end WlanCard.Attached
