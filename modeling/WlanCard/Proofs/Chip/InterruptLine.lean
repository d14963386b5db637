import WlanCard.Proofs.Card.InterruptRun
import WlanCard.Proofs.Chip.AccessPaths

/-!
# The interrupt line of a chip is never out of date

Every operation on a chip ends with passing the interrupt line of the target on to the card, which
derives its own line again then. So a reachable chip is always in step (`Reachable.inStep`): another
time would change nothing, and function 1 is the only one whose line can be high. What the line of the
card then shows is told by the registers of card and target alone (`irq_iff`).
-/

namespace WlanCard

namespace Card

/-- When the interrupt line is derived to be high. -/
theorem interruptLevel_iff (c : Card) :
    c.interruptLevel = true ↔
      c.area.interruptEnable &&& CommonArea.interruptMaster ≠ 0 ∧
      ¬ (c.area.isFourBit ∧ ¬ c.area.multiBlockInterrupt ∧ c.phase = .transfer) ∧
      (c.mode = .spi → c.area.busControl &&& CommonArea.serialInterruptSupported ≠ 0 ∧
        c.area.busControl &&& CommonArea.serialInterruptEnabled ≠ 0) ∧
      c.area.pendingRegister &&& c.area.interruptEnable ≠ 0 := by
  have line : c.hasInterruptLine = true ↔
      (c.mode = .spi → c.area.busControl &&& CommonArea.serialInterruptSupported ≠ 0 ∧
        c.area.busControl &&& CommonArea.serialInterruptEnabled ≠ 0) := by
    unfold hasInterruptLine
    cases c.mode <;> simp
  have held : c.heldBack = true ↔
      c.area.isFourBit ∧ ¬ c.area.multiBlockInterrupt ∧ c.phase = .transfer := by
    unfold heldBack
    simp only [Bool.and_eq_true, Bool.not_eq_true', Bool.not_eq_true, beq_iff_eq, and_assoc]
  have free : (!c.heldBack) = true ↔
      ¬ (c.area.isFourBit ∧ ¬ c.area.multiBlockInterrupt ∧ c.phase = .transfer) := by
    rw [← held, Bool.not_eq_true', Bool.not_eq_true]
  unfold interruptLevel
  simp only [Bool.and_eq_true, bne_iff_ne, line, free, and_assoc]

end Card

namespace CommonArea

/-- Interrupt enable: function 1. -/
def interruptFirst : UInt8 := 0x02

/-- With only the line of function 1 to look at, its enable decides. -/
theorem pending_enabled_iff {area : CommonArea} {level : Bool}
    (first : area.interruptPending = if level then 1 else 0) :
    area.pendingRegister &&& area.interruptEnable ≠ 0 ↔
      level = true ∧ area.interruptEnable &&& interruptFirst ≠ 0 := by
  unfold pendingRegister
  rw [first]
  cases level with
  | false => simp
  | true =>
    have shifted : (1 : UInt8) <<< 1 = interruptFirst := rfl
    simp only [↓reduceIte, shifted, true_and, UInt8.and_comm]

end CommonArea

namespace Chip

/-- The line of the target has been passed on, and no other function has a line that is high. -/
structure InStep (chip : Chip) : Prop where
  synced : chip.Synced
  alone : chip.card.area.interruptPending = 0 ∨ chip.card.area.interruptPending = 1

/-- Whatever function 1 does, only its line is driven. -/
theorem inStep_syncIrq {chip : Chip}
    (alone : chip.card.area.interruptPending = 0 ∨ chip.card.area.interruptPending = 1) :
    chip.syncIrq.InStep where
  synced := synced_syncIrq chip
  alone := by
    show (chip.card.area.setInterruptPending 0 _).interruptPending = 0 ∨
      (chip.card.area.setInterruptPending 0 _).interruptPending = 1
    unfold CommonArea.setInterruptPending
    rcases alone with low | high
    · rw [low]
      cases chip.target.host.irqLine
      · exact .inl rfl
      · exact .inr rfl
    · rw [high]
      cases chip.target.host.irqLine
      · exact .inl rfl
      · exact .inr rfl

/-- What has been passed on depends on the card and the host interface only. -/
theorem InStep.setTarget {chip : Chip} (inStep : chip.InStep) {t : Target}
    (host : t.host = chip.target.host) : (chip.setTarget t).InStep where
  synced := by
    have card : chip.card.setFunctionIrq 0 chip.target.host.irqLine = chip.card :=
      congrArg (·.card) inStep.synced
    show (⟨⟨chip.card.setFunctionIrq 0 t.host.irqLine, t⟩⟩ : Chip) = ⟨⟨chip.card, t⟩⟩
    rw [host, card]
  alone := inStep.alone

/-- Doing what comes due ends in step, since every piece of work does. -/
theorem inStep_runDue (limit : Nat) {chip : Chip} (inStep : chip.InStep) :
    (chip.runDue limit).InStep := by
  induction chip using runDue.induct limit with
  | case1 chip t popped =>
    rw [runDue_of_none popped]
    have host : t.host = chip.target.host := (congrArg (·.2.host) popped :).symm
    exact inStep.setTarget host
  | case2 chip event t popped ih =>
    rw [runDue_of_some popped]
    exact ih (inStep_syncIrq inStep.alone)

/-- After an operation on the card, passing the line on brings the chip in step. -/
theorem inStep_of_follows {chip : Chip} {a : Attached Target} (inStep : chip.InStep)
    (follows : chip.card.Follows a.card) : (syncIrq ⟨a⟩).InStep := by
  refine inStep_syncIrq ?_
  rcases follows.pending with kept | low
  · show a.card.area.interruptPending = 0 ∨ a.card.area.interruptPending = 1
    rw [kept]
    exact inStep.alone
  · exact .inl low

/-- **Every operation ends in step.** -/
theorem inStep_perform {chip : Chip} (inStep : chip.InStep) (op : Operation) :
    (chip.perform op).2.InStep := by
  cases op with
  | command number argument =>
    exact inStep_of_follows inStep (Attached.command_tracks ..).toFollows
  | writeData value => exact inStep_of_follows inStep (Attached.writeData_tracks ..).toFollows
  | readData => exact inStep_of_follows inStep (Attached.readData_tracks ..).toFollows
  | reset => exact inStep_syncIrq (.inl rfl)
  | raiseCpu bits | raiseError bits => exact inStep_syncIrq inStep.alone
  | advance ticks => exact (inStep_runDue _ inStep).setTarget rfl

theorem Reachable.inStep {chip : Chip} (reached : chip.Reachable) : chip.InStep := by
  induction reached with
  | @attach config chip attached =>
    unfold Chip.attach at attached
    split at attached
    · cases attached
    · cases attached
      exact inStep_syncIrq (.inl rfl)
  | perform op _ ih => exact inStep_perform ih op

/-- In step, the line of function 1 is that of the target, and the card's own is derived from it. -/
theorem InStep.lines {chip : Chip} (inStep : chip.InStep) :
    chip.card.area.interruptPending = (if chip.target.host.irqLine then 1 else 0) ∧
      chip.card.irq = chip.card.interruptLevel := by
  have area : chip.card.area.setInterruptPending 0 chip.target.host.irqLine = chip.card.area :=
    congrArg (·.card.area) inStep.synced
  have level : chip.syncIrq.card.irq = chip.syncIrq.card.interruptLevel := rfl
  rw [inStep.synced] at level
  refine ⟨?_, level⟩
  rw [← area]
  unfold CommonArea.setInterruptPending
  rcases inStep.alone with low | high
  · rw [low]
    cases chip.target.host.irqLine <;> rfl
  · rw [high]
    cases chip.target.host.irqLine <;> rfl

/-- **The interrupt line of a chip is exact**: after any operations it is high exactly if the master
enable and that of function 1 are set, the host interface has an enabled interrupt, no transfer on four
data lines holds interrupts back, and a serial bus has the line enabled. The line of function 1 is the
only one that can be pending, and it is pending exactly while the host interface has such an
interrupt. -/
theorem irq_iff {chip : Chip} (reached : chip.Reachable) :
    (chip.card.irq = true ↔
      chip.card.area.interruptEnable &&& CommonArea.interruptMaster ≠ 0 ∧
      chip.card.area.interruptEnable &&& CommonArea.interruptFirst ≠ 0 ∧
      chip.target.host.status &&& chip.target.host.enable ≠ 0 ∧
      ¬ (chip.card.area.isFourBit ∧ ¬ chip.card.area.multiBlockInterrupt ∧
        chip.card.phase = .transfer) ∧
      (chip.card.mode = .spi →
        chip.card.area.busControl &&& CommonArea.serialInterruptSupported ≠ 0 ∧
        chip.card.area.busControl &&& CommonArea.serialInterruptEnabled ≠ 0)) ∧
    chip.card.area.interruptPending =
      (if chip.target.host.status &&& chip.target.host.enable ≠ 0 then 1 else 0) := by
  obtain ⟨pending, level⟩ := reached.inStep.lines
  have line : chip.target.host.irqLine = true ↔
      chip.target.host.status &&& chip.target.host.enable ≠ 0 := bne_iff_ne
  refine ⟨?_, by simpa only [line] using pending⟩
  rw [level, Card.interruptLevel_iff, CommonArea.pending_enabled_iff pending, line]
  constructor
  · rintro ⟨master, free, serial, raised, first⟩
    exact ⟨master, first, raised, free, serial⟩
  · rintro ⟨master, first, raised, free, serial⟩
    exact ⟨master, free, serial, raised, first⟩

/-- A chip whose processor has raised an interrupt that the host has enabled. -/
def interrupting : Chip :=
  [Operation.command 52 0x80000803, .command 52 0x900830d0, .command 52 0x90083201,
    .raiseCpu 0x01].foldl (fun chip op => (chip.perform op).2) selected

theorem reachable_interrupting : interrupting.Reachable :=
  .perform _ (.perform _ (.perform _ (.perform _ reachable_selected)))

theorem irq_iff_interrupting :
    interrupting.Reachable ∧ interrupting.card.irq = true ∧
      interrupting.card.area.interruptPending = 1 := by
  obtain ⟨level, pending⟩ := irq_iff reachable_interrupting
  refine ⟨reachable_interrupting, level.mpr ?_, pending.trans ?_⟩ <;> decide +kernel

end Chip

end WlanCard
