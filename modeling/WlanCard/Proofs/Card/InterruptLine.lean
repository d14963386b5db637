import WlanCard.Proofs.Card.OwnRegisters

/-!
# What operations do to the interrupt line

The level of the interrupt line is derived again at some events only, so it can be out of date.
`Card.Tracks` says what an operation of the host or a reset does about it:

* the interrupt lines of the functions stay, or all are low after a reset;
* a line that is high only when an interrupt is asked for stays so (`Follows.honest`);
* on a native bus, a line that shows what is asked for goes on doing so, but for transfers on four data
  lines, during which interrupts may be held back (`Tracks.settles`). It is left behind in one way only:
  the bus is taken off four data lines while such a transfer runs (`Card.Narrows`).

A block written to the card's own registers may do several of these things. Behind the bus control lies
no register that derives the line again (`writeCommon_behind`), so that a block which puts the bus on
four lines cannot have interrupts held back and take it off again. A block with a byte that derives the
line (`CommonArea.DerivesLine`) leaves it in order even if it was not (`writeCommon_derives`).
-/

namespace WlanCard

namespace CommonArea

/-- A byte, with the register address it is written to, derives the interrupt line again: it sets the
interrupt enables or resets the card. -/
def DerivesLine (byte : UInt32 × UInt8) : Prop :=
  byte.1.toNat = CommonRegister.interruptEnable.offset ∨
    (byte.1.toNat = CommonRegister.ioAbort.offset ∧ byte.2 &&& resetBit ≠ 0)

/-- Such a byte comes before the bus control. -/
theorem DerivesLine.before {byte : UInt32 × UInt8} (derives : DerivesLine byte) :
    byte.1.toNat < CommonRegister.busControl.offset := by
  rcases derives with here | ⟨here, -⟩ <;> rw [here] <;> decide

end CommonArea

namespace Card

/-- An interrupt is asked for: the master enable is set, and so is that of a function whose interrupt
line is high. -/
def asksInterrupt (c : Card) : Bool :=
  c.area.interruptEnable &&& CommonArea.interruptMaster != 0
    && c.area.pendingRegister &&& c.area.interruptEnable != 0

/-- The interrupt line shows whether an interrupt is asked for. -/
def Shows (c : Card) : Prop :=
  c.irq = c.asksInterrupt

/-- A transfer runs on four data lines, one of which is the interrupt line. -/
def SharesLine (c : Card) : Prop :=
  c.phase = .transfer ∧ c.area.isFourBit = true

/-- The interrupt line shows what is asked for, or a transfer shares it. -/
def InOrder (c : Card) : Prop :=
  c.Shows ∨ c.SharesLine

/-- The bus is taken off four data lines while a transfer runs on them. -/
def Narrows (before after : Card) : Prop :=
  before.SharesLine ∧ after.area.isFourBit = false

/-- After a step the line is in order, unless the step has narrowed the bus. -/
def Settles (before after : Card) : Prop :=
  after.InOrder ∨ before.Narrows after

/-! ## Steps that do not touch the line -/

/-- What is asked for and what the line shows stay. -/
structure KeepsRequest (before after : Card) : Prop where
  mode : after.mode = before.mode
  irq : after.irq = before.irq
  interruptEnable : after.area.interruptEnable = before.area.interruptEnable
  interruptPending : after.area.interruptPending = before.area.interruptPending

/-- What the line depends on stays as well. -/
structure KeepsLine (before after : Card) : Prop extends before.KeepsRequest after where
  phase : after.phase = before.phase
  busControl : after.area.busControl = before.area.busControl

variable {c d e : Card}

theorem KeepsRequest.refl (c : Card) : c.KeepsRequest c := ⟨rfl, rfl, rfl, rfl⟩

theorem KeepsRequest.trans (first : c.KeepsRequest d) (second : d.KeepsRequest e) :
    c.KeepsRequest e where
  mode := second.mode.trans first.mode
  irq := second.irq.trans first.irq
  interruptEnable := second.interruptEnable.trans first.interruptEnable
  interruptPending := second.interruptPending.trans first.interruptPending

theorem KeepsLine.refl (c : Card) : c.KeepsLine c := ⟨.refl c, rfl, rfl⟩

theorem KeepsLine.trans (first : c.KeepsLine d) (second : d.KeepsLine e) : c.KeepsLine e where
  toKeepsRequest := first.toKeepsRequest.trans second.toKeepsRequest
  phase := second.phase.trans first.phase
  busControl := second.busControl.trans first.busControl

theorem KeepsRequest.asksInterrupt (kept : c.KeepsRequest d) : d.asksInterrupt = c.asksInterrupt := by
  unfold Card.asksInterrupt CommonArea.pendingRegister
  rw [kept.interruptEnable, kept.interruptPending]

theorem KeepsRequest.shows (kept : c.KeepsRequest d) (shows : c.Shows) : d.Shows := by
  unfold Shows
  rw [kept.irq, kept.asksInterrupt]
  exact shows

theorem KeepsLine.isFourBit (kept : c.KeepsLine d) : d.area.isFourBit = c.area.isFourBit := by
  unfold CommonArea.isFourBit
  rw [kept.busControl]

theorem KeepsLine.sharesLine_iff (kept : c.KeepsLine d) : d.SharesLine ↔ c.SharesLine := by
  unfold SharesLine
  rw [kept.phase, kept.isFourBit]

theorem KeepsLine.inOrder (kept : c.KeepsLine d) (order : c.InOrder) : d.InOrder :=
  order.imp kept.toKeepsRequest.shows kept.sharesLine_iff.mpr

/-- Registers that a read changes do not matter for the line. -/
theorem keepsLine_of_area {area : CommonArea} (kept : c.area.KeepsInterrupts area) :
    c.KeepsLine { c with area := area } :=
  ⟨⟨rfl, rfl, kept.interruptEnable, kept.interruptPending⟩, rfl, kept.busControl⟩

/-! ## Deriving the line -/

/-- Without enables no interrupt is asked for. -/
theorem asksInterrupt_of_disabled (disabled : c.area.interruptEnable = 0) :
    c.asksInterrupt = false := by
  unfold asksInterrupt
  rw [disabled, UInt8.zero_and, bne_self_eq_false, Bool.false_and]

/-- A line that is derived is high only when an interrupt is asked for. -/
theorem asksInterrupt_of_interruptLevel (level : c.interruptLevel = true) :
    c.asksInterrupt = true := by
  unfold interruptLevel at level
  unfold asksInterrupt
  simp only [Bool.and_eq_true] at level ⊢
  exact ⟨level.1.1.1, level.2⟩

/-- On a native bus a derived line shows what is asked for, unless a transfer shares it. -/
theorem interruptLevel_of_native (native : c.mode = .native) (alone : ¬ c.SharesLine) :
    c.interruptLevel = c.asksInterrupt := by
  have free : c.heldBack = false := by
    cases held : c.heldBack with
    | false => rfl
    | true =>
      unfold heldBack at held
      simp only [Bool.and_eq_true, beq_iff_eq] at held
      exact absurd ⟨held.2, held.1.1⟩ alone
  have line : c.hasInterruptLine = true := by
    unfold hasInterruptLine
    rw [native]
  unfold interruptLevel asksInterrupt
  rw [free, line, Bool.not_false, Bool.and_true, Bool.and_true]

theorem updateIrq_shows (native : c.mode = .native) (alone : ¬ c.SharesLine) : c.updateIrq.Shows :=
  interruptLevel_of_native native alone

theorem updateIrq_inOrder (native : c.mode = .native) : c.updateIrq.InOrder := by
  by_cases shares : c.SharesLine
  · exact .inr shares
  · exact .inl (updateIrq_shows native shares)

/-! ## Settling -/

theorem KeepsLine.trans_settles (kept : c.KeepsLine d) (settles : d.Settles e) : c.Settles e :=
  settles.imp_right fun narrows => ⟨kept.sharesLine_iff.mp narrows.1, narrows.2⟩

theorem Settles.trans_keepsLine (settles : c.Settles d) (kept : d.KeepsLine e) : c.Settles e :=
  settles.imp kept.inOrder fun narrows => ⟨narrows.1, kept.isFourBit.trans narrows.2⟩

/-- **The end of a transfer** derives the line on four data lines. Elsewhere the line has shown what is
asked for, unless it was left behind before. -/
theorem InOrder.endTransfer (order : c.InOrder) (native : c.mode = .native) :
    c.endTransfer.InOrder := by
  unfold Card.endTransfer
  cases four : c.area.isFourBit with
  | true => exact updateIrq_inOrder native
  | false =>
    have narrow : ¬ c.SharesLine := fun shares => absurd shares.2 (Bool.eq_false_iff.mp four)
    have kept : c.KeepsRequest { c with phase := .command, transfer := none } := ⟨rfl, rfl, rfl, rfl⟩
    exact .inl (kept.shows (order.resolve_right narrow))

/-- The end of a transfer leaves the data lines as many as they are, and none runs then. -/
theorem endTransfer_lines (c : Card) :
    c.endTransfer.area.isFourBit = c.area.isFourBit ∧ ¬ c.endTransfer.SharesLine := by
  unfold Card.endTransfer
  dsimp only
  split <;> exact ⟨rfl, fun shares => nomatch shares.1⟩

theorem Settles.endTransfer (settles : c.Settles d) (native : d.mode = .native) :
    c.Settles d.endTransfer :=
  settles.imp (·.endTransfer native) fun narrows =>
    ⟨narrows.1, d.endTransfer_lines.1.trans narrows.2⟩

/-! ## What a step does -/

/-- The part of `Tracks` that any steps one after the other have. -/
structure Follows (before after : Card) : Prop where
  mode : after.mode = before.mode
  pending : after.area.interruptPending = before.area.interruptPending ∨
    after.area.interruptPending = 0
  honest : (before.irq = true → before.asksInterrupt = true) →
    after.irq = true → after.asksInterrupt = true

/-- What a step does to the interrupt line. -/
structure Tracks (before after : Card) : Prop extends before.Follows after where
  settles : before.mode = .native → before.InOrder → before.Settles after

theorem KeepsRequest.follows (kept : c.KeepsRequest d) : c.Follows d where
  mode := kept.mode
  pending := .inl kept.interruptPending
  honest honest high := kept.asksInterrupt.trans (honest (kept.irq ▸ high))

theorem Follows.trans (first : c.Follows d) (second : d.Follows e) : c.Follows e where
  mode := second.mode.trans first.mode
  pending := by
    rcases second.pending with kept | low
    · rw [kept]
      exact first.pending
    · exact .inr low
  honest honest := second.honest (first.honest honest)

theorem KeepsLine.tracks (kept : c.KeepsLine d) : c.Tracks d where
  toFollows := kept.toKeepsRequest.follows
  settles _ order := .inl (kept.inOrder order)

theorem Tracks.refl (c : Card) : c.Tracks c := (KeepsLine.refl c).tracks

theorem KeepsLine.trans_tracks (kept : c.KeepsLine d) (tracks : d.Tracks e) : c.Tracks e where
  toFollows := kept.toKeepsRequest.follows.trans tracks.toFollows
  settles native order :=
    kept.trans_settles (tracks.settles (kept.mode.trans native) (kept.inOrder order))

theorem Tracks.trans_keepsLine (tracks : c.Tracks d) (kept : d.KeepsLine e) : c.Tracks e where
  toFollows := tracks.toFollows.trans kept.toKeepsRequest.follows
  settles native order := (tracks.settles native order).trans_keepsLine kept

/-- While no transfer runs, a card may change its phase. -/
theorem KeepsRequest.tracks_of_idle (kept : c.KeepsRequest d) (idle : c.phase ≠ .transfer) :
    c.Tracks d where
  toFollows := kept.follows
  settles _ order := .inl (.inl (kept.shows (order.resolve_right fun shares => idle shares.1)))

/-- A step that ends with deriving the line. -/
theorem tracks_updateIrq (mode : d.mode = c.mode)
    (pending : d.area.interruptPending = c.area.interruptPending ∨ d.area.interruptPending = 0) :
    c.Tracks d.updateIrq where
  mode := mode
  pending := pending
  honest _ := asksInterrupt_of_interruptLevel
  settles native _ := .inl (updateIrq_inOrder (mode.trans native))

theorem Follows.endTransfer (follows : c.Follows d) : c.Follows d.endTransfer := by
  have ended : c.Follows { d with phase := .command, transfer := none } :=
    follows.trans (KeepsRequest.follows ⟨rfl, rfl, rfl, rfl⟩)
  unfold Card.endTransfer
  dsimp only
  split
  · exact (tracks_updateIrq ended.mode ended.pending).toFollows
  · exact ended

theorem Tracks.endTransfer (tracks : c.Tracks d) : c.Tracks d.endTransfer where
  toFollows := tracks.toFollows.endTransfer
  settles native order := (tracks.settles native order).endTransfer (tracks.mode.trans native)

theorem tracks_abort (c : Card) (f : FunctionNumber) : c.Tracks (c.abort f) := by
  unfold abort
  split
  · exact (Tracks.refl c).endTransfer
  · exact .refl c

/-! ## Bytes written to the card's own registers -/

/-- What a byte written to an address of the card's own registers does to a card, as far as its
interrupt line is concerned. -/
inductive Written (c : Card) (address : Nat) : Card → Prop where
  | stored {area : CommonArea} (kept : c.area.KeepsInterrupts area) :
    Written c address { c with area := area }
  | enables (here : address = CommonRegister.interruptEnable.offset) (value : UInt8) :
    Written c address { c with area.interruptEnable := value }.updateIrq
  | controls (here : address = CommonRegister.busControl.offset) (mode : c.mode = .native)
      (value : UInt8) :
    Written c address { c with area.busControl := value }
  | controlsSerial (here : address = CommonRegister.busControl.offset) (mode : c.mode = .spi)
      (value : UInt8) :
    Written c address { c with area.busControl := value }.updateIrq
  | resets (here : address = CommonRegister.ioAbort.offset) : Written c address c.reset.updateIrq
  | aborts (here : address = CommonRegister.ioAbort.offset) (f : FunctionNumber) :
    Written c address (c.abort f)

theorem Written.follows {address : Nat} (written : c.Written address d) : c.Follows d := by
  cases written with
  | stored kept => exact (keepsLine_of_area kept).toKeepsRequest.follows
  | enables here value =>
    have derived : c.Tracks { c with area.interruptEnable := value }.updateIrq :=
      tracks_updateIrq rfl (.inl rfl)
    exact derived.toFollows
  | controls here mode value => exact KeepsRequest.follows ⟨rfl, rfl, rfl, rfl⟩
  | controlsSerial here mode value =>
    have derived : c.Tracks { c with area.busControl := value }.updateIrq :=
      tracks_updateIrq rfl (.inl rfl)
    exact derived.toFollows
  | resets here =>
    have derived : c.Tracks c.reset.updateIrq := tracks_updateIrq rfl (.inr rfl)
    exact derived.toFollows
  | aborts here f => exact (tracks_abort c f).toFollows

/-- A byte that does not reach the bus control keeps the line in order and the data lines as many. -/
theorem Written.elsewhere {address : Nat} (written : c.Written address d) (native : c.mode = .native)
    (elsewhere : address ≠ CommonRegister.busControl.offset) :
    (c.InOrder → d.InOrder) ∧ (d.SharesLine → c.SharesLine) := by
  cases written with
  | stored kept =>
    have kept := keepsLine_of_area kept
    exact ⟨kept.inOrder, kept.sharesLine_iff.mp⟩
  | enables here value => exact ⟨fun _ => updateIrq_inOrder native, id⟩
  | controls here | controlsSerial here => exact absurd here elsewhere
  | resets here => exact ⟨fun _ => updateIrq_inOrder native, fun shares => nomatch shares.1⟩
  | aborts here f =>
    unfold abort
    split
    · exact ⟨(·.endTransfer native), fun shares => absurd shares c.endTransfer_lines.2⟩
    · exact ⟨id, id⟩

/-- A byte written to the bus control or behind it leaves what is asked for, the line and the phase of
a native card alone. -/
theorem Written.behind {address : Nat} (written : c.Written address d) (native : c.mode = .native)
    (behind : CommonRegister.busControl.offset ≤ address) : c.KeepsRequest d ∧ d.phase = c.phase := by
  cases written with
  | stored kept =>
    have kept := keepsLine_of_area kept
    exact ⟨kept.toKeepsRequest, kept.phase⟩
  | controls => exact ⟨⟨rfl, rfl, rfl, rfl⟩, rfl⟩
  | controlsSerial here serial =>
    rw [native] at serial
    cases serial
  | enables here | resets here | aborts here =>
    rw [here] at behind
    exact absurd behind (by decide)

end Card

namespace Attached

open Card

variable {σ : Type}

/-! ## Blocks written to the card's own registers -/

/-- A byte written to the card's own registers reaches the line in one of these ways. -/
theorem writeCommonByte_written (fs : Functions σ) (address : UInt32) (value : UInt8)
    (a : Attached σ) : a.card.Written address.toNat (a.writeCommonByte fs address value).card := by
  have written := CommonArea.writeByte_written fs address.toNat value a.card.area a.device
  unfold writeCommonByte
  dsimp only
  generalize a.card.area.writeByte fs address.toNat value a.device = answer at written ⊢
  obtain ⟨effect, after, s⟩ := answer
  cases written with
  | stored kept => exact .stored kept
  | enables here value => exact .enables here value
  | controls here value =>
    dsimp only [apply]
    split
    next mode => exact .controlsSerial here mode value
    next mode => exact .controls here mode value
  | resets here => exact .resets here
  | aborts here f => exact .aborts here f

/-- **From the bus control on**, no register of a native card derives the line, changes what is asked
for or ends a transfer. -/
theorem writeCommon_behind (fs : Functions σ) (how : Addressing) {address : UInt32}
    (bytes : List UInt8) {a : Attached σ} (native : a.card.mode = .native)
    (behind : CommonRegister.busControl.offset ≤ address.toNat) :
    a.card.KeepsRequest (a.writeCommon fs how address bytes).card ∧
      (a.writeCommon fs how address bytes).card.phase = a.card.phase := by
  induction bytes generalizing address a with
  | nil => exact ⟨.refl a.card, rfl⟩
  | cons value rest ih =>
    unfold writeCommon
    split
    · exact ⟨.refl a.card, rfl⟩
    next inside =>
      have first := (writeCommonByte_written fs address value a).behind native behind
      have further := Nat.le_trans behind (CommonArea.le_next how inside)
      obtain ⟨kept, phase⟩ := ih (first.1.mode.trans native) further
      exact ⟨first.1.trans kept, phase.trans first.2⟩

/-- **A written block** leaves the line behind only if it takes the bus off four data lines. -/
theorem writeCommon_tracks (fs : Functions σ) (how : Addressing) (address : UInt32)
    (bytes : List UInt8) (a : Attached σ) :
    a.card.Tracks (a.writeCommon fs how address bytes).card := by
  induction bytes generalizing address a with
  | nil => exact .refl a.card
  | cons value rest ih =>
    have follows : a.card.Follows (a.writeCommon fs how address (value :: rest)).card := by
      unfold writeCommon
      split
      · exact (Tracks.refl a.card).toFollows
      · exact (writeCommonByte_written fs address value a).follows.trans (ih ..).toFollows
    refine { toFollows := follows, settles := fun native order => ?_ }
    by_cases control : address.toNat = CommonRegister.busControl.offset
    · obtain ⟨kept, phase⟩ :=
        writeCommon_behind fs how (value :: rest) native (Nat.le_of_eq control.symm)
      rcases order with shows | shares
      · exact .inl (.inl (kept.shows shows))
      · cases four : (a.writeCommon fs how address (value :: rest)).card.area.isFourBit with
        | true => exact .inl (.inr ⟨phase.trans shares.1, four⟩)
        | false => exact .inr ⟨shares, four⟩
    · unfold writeCommon
      split
      · exact .inl order
      · have first := writeCommonByte_written fs address value a
        obtain ⟨inOrder, shared⟩ := first.elsewhere native control
        have rest := (ih (address + how.stride) (a.writeCommonByte fs address value)).settles
          (first.follows.mode.trans native) (inOrder order)
        exact rest.imp_right fun narrows => ⟨shared narrows.1, narrows.2⟩

/-! ## Bytes that derive the line -/

/-- Wherever the line was, it is in order after a byte that derives it. -/
theorem writeCommonByte_inOrder (fs : Functions σ) {address : UInt32} {value : UInt8} {a : Attached σ}
    (native : a.card.mode = .native) (derives : CommonArea.DerivesLine (address, value)) :
    (a.writeCommonByte fs address value).card.InOrder := by
  rcases derives with here | ⟨here, set⟩
  · rw [writeCommonByte_interruptEnable fs here]
    exact updateIrq_inOrder native
  · rw [writeCommonByte_reset fs here set]
    exact updateIrq_inOrder native

/-- **A block that derives the line** leaves it behind only if it then takes the bus off four data
lines. -/
theorem writeCommon_derives (fs : Functions σ) (how : Addressing) {address : UInt32}
    {bytes : List UInt8} {a : Attached σ} (native : a.card.mode = .native)
    (derives : ∃ byte ∈ CommonArea.placed how address bytes, CommonArea.DerivesLine byte) :
    a.card.Settles (a.writeCommon fs how address bytes).card := by
  induction bytes generalizing address a with
  | nil =>
    obtain ⟨byte, mem, -⟩ := derives
    cases mem
  | cons value rest ih =>
    obtain ⟨byte, mem, derives⟩ := derives
    have control : address.toNat ≠ CommonRegister.busControl.offset :=
      Nat.ne_of_lt (Nat.lt_of_le_of_lt (CommonArea.le_of_mem_placed mem) derives.before)
    have first := writeCommonByte_written fs address value a
    have native' := first.follows.mode.trans native
    have shared := (first.elsewhere native control).2
    unfold CommonArea.placed at mem
    unfold writeCommon
    split at mem
    · cases mem
    next inside =>
      rw [if_neg inside]
      have rest : (a.writeCommonByte fs address value).card.Settles
          ((a.writeCommonByte fs address value).writeCommon fs how (address + how.stride) rest).card := by
        rcases List.mem_cons.mp mem with rfl | mem
        · exact (writeCommon_tracks ..).settles native' (writeCommonByte_inOrder fs native derives)
        · exact ih native' ⟨byte, mem, derives⟩
      exact rest.imp_right fun narrows => ⟨shared narrows.1, narrows.2⟩

end Attached

end WlanCard
