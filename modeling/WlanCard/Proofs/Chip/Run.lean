import WlanCard.Chip.Basic
import WlanCard.Proofs.Card.Frame

/-!
# Runs of a chip

What can be done to a chip, and the chips that it leads to. Nothing rewires a chip: whatever has been
done to it, it has one function, which the target answers (`Reachable.wired`).

Doing work that comes due concerns the target alone; of the card it changes the interrupt line at most
(`runDue_keepsFlow`).
-/

namespace WlanCard

namespace Chip

/-- What can be done to a chip. -/
inductive Operation where
  | command (number : UInt8) (argument : UInt32)
  | writeData (value : UInt8)
  | readData
  | reset
  | raiseCpu (bits : UInt8)
  | raiseError (bits : UInt8)
  | advance (ticks : Nat)
deriving DecidableEq, Repr

/-- Performs one operation. -/
def perform (chip : Chip) : Operation → Card.Answer × Chip
  | .command number argument =>
    let done := chip.command number argument
    (.response done.1, done.2)
  | .writeData value => (.nothing, chip.writeData value)
  | .readData =>
    let done := chip.readData
    (.byte done.1, done.2)
  | .reset => (.nothing, chip.reset)
  | .raiseCpu bits => (.nothing, chip.raiseCpu bits)
  | .raiseError bits => (.nothing, chip.raiseError bits)
  | .advance ticks => (.nothing, chip.advance ticks)

/-- The chips that attaching one and operating it lead to. -/
inductive Reachable : Chip → Prop where
  | attach {config : Config} {chip : Chip} (attached : attach config = .ok chip) : Reachable chip
  | perform {chip : Chip} (op : Operation) (reached : Reachable chip) :
    Reachable (chip.perform op).2

/-! ## Doing what comes due, step by step -/

theorem runDue_of_none {chip : Chip} {limit : Nat} {t : Target}
    (popped : chip.target.popDue limit = (none, t)) : chip.runDue limit = chip.setTarget t := by
  unfold runDue
  split
  next u same =>
    obtain rfl : u = t := congrArg Prod.snd (same.symm.trans popped)
    rfl
  next other => rw [popped] at other; cases other

theorem runDue_of_some {chip : Chip} {limit : Nat} {event : Deferred} {t : Target}
    (popped : chip.target.popDue limit = (some event, t)) :
    chip.runDue limit = ((chip.setTarget t).fire event).runDue limit := by
  rw [runDue]
  split
  next other => rw [popped] at other; cases other
  next e u same =>
    obtain ⟨rfl, rfl⟩ : e = event ∧ u = t := by
      rw [popped] at same
      cases same
      exact ⟨rfl, rfl⟩
    rfl

/-! ## Wiring -/

theorem syncIrq_keepsFlow (chip : Chip) : chip.card.KeepsFlow chip.syncIrq.card :=
  Card.setFunctionIrq_keepsFlow ..

theorem fire_keepsFlow (chip : Chip) (event : Deferred) :
    chip.card.KeepsFlow (chip.fire event).card :=
  syncIrq_keepsFlow (chip.setTarget (chip.target.fire event))

/-- Work that comes due concerns the target, and of the card its interrupt line. -/
theorem runDue_keepsFlow (limit : Nat) (chip : Chip) :
    chip.card.KeepsFlow (chip.runDue limit).card := by
  induction chip using runDue.induct limit with
  | case1 chip t popped =>
    rw [runDue_of_none popped]
    exact .refl chip.card
  | case2 chip event t popped ih =>
    rw [runDue_of_some popped]
    exact (fire_keepsFlow (chip.setTarget t) event).trans ih

/-- No operation rewires a chip. -/
theorem perform_keepsWiring (chip : Chip) (op : Operation) :
    chip.card.KeepsWiring (chip.perform op).2.card := by
  have synced : ∀ x : Chip, chip.card.KeepsWiring x.card → chip.card.KeepsWiring x.syncIrq.card :=
    fun x kept => kept.trans x.syncIrq_keepsFlow.toKeepsWiring
  cases op with
  | command number argument => exact synced _ (Attached.command_keepsWiring ..)
  | writeData value => exact synced _ (Attached.writeData_keepsWiring ..)
  | readData => exact synced _ (Attached.readData_keepsWiring ..)
  | reset => exact synced _ ⟨rfl, rfl, rfl⟩
  | raiseCpu bits | raiseError bits => exact synced _ (.refl _)
  | advance ticks => exact (runDue_keepsFlow _ chip).toKeepsWiring

/-- A chip has one function, and the target answers it. -/
structure Wired (chip : Chip) : Prop where
  conditions : chip.card.conditions = CardModel.chipConditions
  common : chip.card.handlers.get (0 : FunctionNumber) = .common
  attached : chip.card.handlers.get (1 : FunctionNumber) = .attached

theorem Wired.of_keepsWiring {x y : Chip} (wired : x.Wired) (kept : x.card.KeepsWiring y.card) :
    y.Wired where
  conditions := kept.conditions.trans wired.conditions
  common := kept.handlers ▸ wired.common
  attached := kept.handlers ▸ wired.attached

theorem Reachable.wired {chip : Chip} (reached : chip.Reachable) : chip.Wired := by
  induction reached with
  | @attach config chip attached =>
    unfold Chip.attach at attached
    split at attached
    · cases attached
    · cases attached
      exact ⟨rfl, rfl, rfl⟩
  | perform op _ ih => exact ih.of_keepsWiring (perform_keepsWiring _ op)

theorem Wired.functionCount {chip : Chip} (wired : chip.Wired) : chip.card.functionCount = 1 := by
  rw [Card.functionCount, wired.conditions]
  decide

theorem Wired.present {chip : Chip} (wired : chip.Wired) : 1 ≤ chip.card.functionCount :=
  Fin.le_of_eq wired.functionCount.symm

end Chip

end WlanCard
