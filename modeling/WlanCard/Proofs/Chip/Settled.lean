import WlanCard.Proofs.Card.DataPath
import WlanCard.Proofs.Chip.Run

/-!
# What an access to the target leaves of the card

An access to the target changes the target. Of the card it changes the selected function, the
interrupt line of the target, and what only the host's next command looks at. `Card.Touched` says so
of single steps and of sequences of them.

Two chips that started alike and whose targets have come to the same state then agree in every
register but the selected function, and in the level of the interrupt line (`Agree.of_accessed`).
-/

namespace WlanCard

namespace CommonArea

/-- All registers but the selected function. -/
def registers (area : CommonArea) : CommonArea :=
  { area with functionSelect := 0 }

/-- The registers while the interrupt line of function 1 is low. -/
def atRest (area : CommonArea) : CommonArea :=
  (area.setInterruptPending 0 false).registers

theorem atRest_setInterruptPending (area : CommonArea) (level : Bool) :
    (area.setInterruptPending 0 level).atRest = area.atRest := by
  rw [atRest, setInterruptPending_twice]
  rfl

/-- Nothing but the level of the line is left open. -/
theorem registers_setInterruptPending (area : CommonArea) (level : Bool) :
    (area.setInterruptPending 0 level).registers = area.atRest.setInterruptPending 0 level := by
  have twice := area.setInterruptPending_twice 0 false level
  rw [← twice]
  rfl

end CommonArea

namespace Card

/-- What an access to the target leaves of the card. -/
structure Touched (before after : Card) : Prop extends before.KeepsWiring after where
  rest : after.area.atRest = before.area.atRest

theorem Touched.trans {a b c : Card} (first : a.Touched b) (second : b.Touched c) :
    a.Touched c where
  toKeepsWiring := first.toKeepsWiring.trans second.toKeepsWiring
  rest := second.rest.trans first.rest

theorem touched_setFunctionIrq (c : Card) (level : Bool) : c.Touched (c.setFunctionIrq 0 level) where
  toKeepsWiring := (c.setFunctionIrq_keepsFlow 0 level).toKeepsWiring
  rest := c.area.atRest_setInterruptPending level

theorem touched_proceed (c : Card) (t : Transfer) : c.Touched (c.proceed t) := by
  unfold proceed
  split
  · refine ⟨endTransfer_keepsWiring c, ?_⟩
    unfold endTransfer
    split <;> rfl
  · exact ⟨⟨rfl, rfl, rfl⟩, rfl⟩

/-- Opening a transfer touches a card no further than to select its function. -/
theorem touched_openTransfer (c : Card) (q : ExtendedRequest) : c.Touched (c.openTransfer q).2 := by
  refine ⟨openTransfer_keepsWiring c q, ?_⟩
  unfold openTransfer
  dsimp only
  split
  · rfl
  · split <;> rfl

/-- The level of the interrupt line depends on the phase, the bus and the registers, and not on the
selected function. -/
theorem interruptLevel_congr {c d : Card} (phase : c.phase = d.phase) (mode : c.mode = d.mode)
    (area : c.area.registers = d.area.registers) : c.interruptLevel = d.interruptLevel := by
  have enable : c.area.interruptEnable = d.area.interruptEnable :=
    (congrArg CommonArea.interruptEnable area :)
  have control : c.area.busControl = d.area.busControl := (congrArg CommonArea.busControl area :)
  have between : c.area.multiBlockInterrupt = d.area.multiBlockInterrupt :=
    (congrArg CommonArea.multiBlockInterrupt area :)
  have pending : c.area.interruptPending = d.area.interruptPending :=
    (congrArg CommonArea.interruptPending area :)
  simp only [interruptLevel, heldBack, hasInterruptLine, CommonArea.isFourBit,
    CommonArea.pendingRegister, phase, mode, enable, control, between, pending]

end Card

namespace Chip

/-- Two chips are in the same state, as far as their host can tell once it has accessed the target:
back in the command phase with the same target, the same level of the interrupt line and the same
registers but for the selected function. -/
structure Agree (x y : Chip) : Prop where
  target : x.target = y.target
  idle : x.card.phase = .command ∧ y.card.phase = .command
  irq : x.card.irq = y.card.irq
  registers : x.card.area.registers = y.card.area.registers

/-- The interrupt line of the target has been passed on to the card. -/
def Synced (chip : Chip) : Prop :=
  chip.syncIrq = chip

theorem synced_syncIrq (chip : Chip) : chip.syncIrq.Synced := by
  have twice : ∀ (c : Card) (level : Bool),
      (c.setFunctionIrq 0 level).setFunctionIrq 0 level = c.setFunctionIrq 0 level := by
    intro c level
    have area := c.area.setInterruptPending_twice 0 level level
    show ({ c with area := (c.area.setInterruptPending 0 level).setInterruptPending 0 level } :
      Card).updateIrq = _
    rw [area]
    rfl
  show (⟨⟨_, _⟩⟩ : Chip) = ⟨⟨_, _⟩⟩
  exact congrArg (fun c => (⟨⟨c, chip.target⟩⟩ : Chip)) (twice chip.card chip.target.host.irqLine)

/-- How an access to the target leaves a chip: the target has come to the state given, and the card is
back in the command phase. -/
structure Accessed (before after : Chip) (target : Target) : Prop where
  target : after.target = target
  idle : after.card.phase = .command
  synced : after.Synced
  touched : before.card.Touched after.card

/-- **Accesses to the target agree** if they bring it to the same state. -/
theorem Agree.of_accessed {before x y : Chip} {t : Target} (left : before.Accessed x t)
    (right : before.Accessed y t) : x.Agree y := by
  have target : x.target = y.target := left.target.trans right.target.symm
  have rest : x.card.area.atRest = y.card.area.atRest :=
    left.touched.rest.trans right.touched.rest.symm
  have driven : ∀ z : Chip, z.Synced → z.card.area.registers =
      z.card.area.atRest.setInterruptPending 0 z.target.host.irqLine ∧
      z.card.irq = z.card.interruptLevel := by
    intro z synced
    have area := z.card.area.registers_setInterruptPending z.target.host.irqLine
    have same : z.card.area.setInterruptPending 0 z.target.host.irqLine = z.card.area :=
      congrArg (·.card.area) synced
    have level : z.syncIrq.card.irq = z.syncIrq.card.interruptLevel := rfl
    rw [same] at area
    rw [synced] at level
    exact ⟨area, level⟩
  obtain ⟨leftArea, leftLevel⟩ := driven x left.synced
  obtain ⟨rightArea, rightLevel⟩ := driven y right.synced
  have registers : x.card.area.registers = y.card.area.registers := by
    rw [leftArea, rightArea, rest, target]
  refine ⟨target, ⟨left.idle, right.idle⟩, ?_, registers⟩
  rw [leftLevel, rightLevel]
  exact Card.interruptLevel_congr (left.idle.trans right.idle.symm)
    (left.touched.mode.trans right.touched.mode.symm) registers

end Chip

end WlanCard
