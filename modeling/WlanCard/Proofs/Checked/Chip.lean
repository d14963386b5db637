import WlanCard.Proofs.Checked.Attached
import WlanCard.Proofs.Checked.Target
import WlanCard.Proofs.Chip.Firing
import WlanCard.Proofs.Chip.History

/-!
# The chip in steps that can fault

The life of a chip, from its configuration through every operation, in steps that can fault. Nothing
faults in a life of less than 2^64 operations (`life_never_faults`), and the outcome is the one of
the total definitions.

An operation uses up one of what the target can count: it resets the chip, or it writes one byte, or
it accepts one byte for a block that is written later. Attaching a chip is one of the operations,
since it resets the chip; and 2^64 operations are too many if all of them do (`resets_overflow`).
-/

namespace WlanCard.Chip

open Checked

/-! ## Operations -/

/-- Passes the interrupt line of the target on to the card. -/
def checkedSyncIrq (chip : Chip) : Checked Chip := do
  let card ← chip.card.checkedSetFunctionIrq 0 chip.target.host.irqLine
  return ⟨{ chip.attached with card := card }⟩

/-- Resets the chip. -/
def checkedReset (chip : Chip) : Checked Chip := do
  let attached ← chip.attached.checkedReset Target.checkedFunctions
  checkedSyncIrq ⟨attached⟩

/-- A chip with the given configuration, if that describes one. -/
def checkedAttach (config : Config) : Checked (Except ConfigError Chip) :=
  match config.validate with
  | .error e => .ok (.error e)
  | .ok () => do
    let f ← index 8 1
    let card := (Card.new (.chip config.mode)).setHandler f .attached
    let chip ← checkedReset ⟨⟨card, Target.powerOn config⟩⟩
    return .ok chip

/-- Does the first work that is due by `limit`, if there is any. -/
def checkedFireNext (limit : Nat) (chip : Chip) : Checked (Bool × Chip) := do
  let popped ← chip.target.clock.checkedPopDue limit
  let t := { chip.target with clock := popped.2 }
  match popped.1 with
  | none => return (false, chip.setTarget t)
  | some event =>
    let fired ← t.checkedFire event
    let synced ← (chip.setTarget fired).checkedSyncIrq
    return (true, synced)

theorem checkedSyncIrq_eq (chip : Chip) : chip.checkedSyncIrq = .ok chip.syncIrq :=
  ok_bind (chip.card.checkedSetFunctionIrq_eq 0 chip.target.host.irqLine) rfl

theorem checkedFireNext_eq (limit : Nat) (chip : Chip) :
    chip.checkedFireNext limit = .ok (match chip.target.popDue limit with
      | (none, t) => (false, chip.setTarget t)
      | (some event, t) => (true, (chip.setTarget t).fire event)) := by
  refine ok_bind (Clock.checkedPopDue_eq ..) ?_
  have popped : chip.target.popDue limit = ((chip.target.clock.popDue limit).1,
    { chip.target with clock := (chip.target.clock.popDue limit).2 }) := rfl
  rw [popped]
  cases (chip.target.clock.popDue limit).1 with
  | none => rfl
  | some event => exact ok_bind (Target.checkedFire_eq ..) (ok_bind (checkedSyncIrq_eq _) rfl)

/-- Does all work due by `limit`, in order. -/
def checkedRunDue (limit : Nat) (chip : Chip) : Checked Chip :=
  match _next : chip.checkedFireNext limit with
  | .error fault => .error fault
  | .ok (false, chip) => .ok chip
  | .ok (true, fired) => checkedRunDue limit fired
termination_by chip.target.load
decreasing_by
  rw [checkedFireNext_eq] at _next
  split at _next
  · cases _next
  next event t popped =>
    cases _next
    exact Target.load_fire_lt popped

/-- Advances virtual time, which stops at the last tick. -/
def checkedAdvance (chip : Chip) (ticks : Nat) : Checked Chip := do
  let limit := Clock.tickAfter chip.now ticks
  let chip ← chip.checkedRunDue limit
  return chip.setTarget { chip.target with clock := chip.target.clock.advanceTo limit }

/-- Performs one operation. -/
def checkedPerform (chip : Chip) : Operation → Checked (Card.Answer × Chip)
  | .command number argument => do
    let done ← chip.attached.checkedCommand Target.checkedFunctions number argument
    let synced ← checkedSyncIrq ⟨done.2⟩
    return (.response done.1, synced)
  | .writeData value => do
    let written ← chip.attached.checkedWriteData Target.checkedFunctions value
    let synced ← checkedSyncIrq ⟨written⟩
    return (.nothing, synced)
  | .readData => do
    let done ← chip.attached.checkedReadData Target.checkedFunctions
    let synced ← checkedSyncIrq ⟨done.2⟩
    return (.byte done.1, synced)
  | .reset => do
    let reset ← chip.checkedReset
    return (.nothing, reset)
  | .raiseCpu bits => do
    let synced ← checkedSyncIrq
      (chip.setTarget { chip.target with host := chip.target.host.raiseCpu bits })
    return (.nothing, synced)
  | .raiseError bits => do
    let synced ← checkedSyncIrq
      (chip.setTarget { chip.target with host := chip.target.host.raiseError bits })
    return (.nothing, synced)
  | .advance ticks => do
    let advanced ← chip.checkedAdvance ticks
    return (.nothing, advanced)

/-- Performs operations one after the other; gives their answers and the chip that they leave. -/
def checkedRun : List Operation → Chip → Checked (List Card.Answer × Chip)
  | [], chip => .ok ([], chip)
  | op :: ops, chip => do
    let first ← chip.checkedPerform op
    let rest ← checkedRun ops first.2
    return (first.1 :: rest.1, rest.2)

/-- The life of a chip: attached, and operated. -/
def checkedLife (config : Config) (ops : List Operation) :
    Checked (Except ConfigError (List Card.Answer × Chip)) := do
  let attached ← checkedAttach config
  match attached with
  | .error e => return .error e
  | .ok chip =>
    let lived ← checkedRun ops chip
    return .ok lived

/-- What operations answer, one after the other. -/
def answers : List Operation → Chip → List Card.Answer
  | [], _ => []
  | op :: ops, chip => (chip.perform op).1 :: answers ops (chip.perform op).2

/-! ## Without a fault -/

variable {chip : Chip} {k : Nat}

/-- A chip that can go through `k` more operations. -/
def Ready (k : Nat) (chip : Chip) : Prop :=
  chip.attached.Ready (fun k t => t.Affords k) k

/-- Of the card only the interrupt line changes. -/
theorem syncIrq_ready {attached : Attached Target}
    (ready : attached.Ready (fun k t => t.Affords k) k) : (syncIrq ⟨attached⟩).Ready k where
  books := ready.books.of_keepsFlow (syncIrq_keepsFlow ⟨attached⟩)
  fits := ready.fits
  room := ready.room

/-- Of the target only what it has counted matters. -/
theorem Ready.setTarget (ready : chip.Ready k) {t : Target}
    (kept : ∀ j, chip.target.Affords j → t.Affords j) : (chip.setTarget t).Ready k where
  books := ready.books
  fits := ready.fits
  room := kept _ ready.room

theorem Ready.less {j : Nat} (le : j ≤ k) (ready : chip.Ready k) : chip.Ready j where
  books := ready.books
  fits := ready.fits
  room := Target.Affords.less (Nat.add_le_add_right le _) ready.room

theorem checkedReset_eq (ready : chip.Ready (k + 1)) :
    chip.checkedReset = .ok chip.reset ∧ chip.reset.Ready k := by
  obtain ⟨ran, ready⟩ := Attached.reset_ready Target.checkedFunctions_agrees ready
  exact ⟨ok_bind ran (checkedSyncIrq_eq _), syncIrq_ready ready⟩

/-- **Doing what comes due** faults never. -/
theorem checkedRunDue_eq (limit : Nat) (chip : Chip) :
    chip.checkedRunDue limit = .ok (chip.runDue limit) := by
  induction chip using runDue.induct limit with
  | case1 chip t popped =>
    have next : chip.checkedFireNext limit = .ok (false, chip.setTarget t) := by
      rw [checkedFireNext_eq, popped]
    rw [checkedRunDue, runDue_of_none popped]
    split
    next same => cases next.symm.trans same
    next same =>
      cases next.symm.trans same
      rfl
    next same => cases next.symm.trans same
  | case2 chip event t popped ih =>
    have next : chip.checkedFireNext limit = .ok (true, (chip.setTarget t).fire event) := by
      rw [checkedFireNext_eq, popped]
    rw [checkedRunDue, runDue_of_some popped]
    split
    next same => cases next.symm.trans same
    next same => cases next.symm.trans same
    next same =>
      cases next.symm.trans same
      exact ih

/-- Doing what comes due uses nothing up. -/
theorem runDue_ready (limit : Nat) (ready : chip.Ready k) : (chip.runDue limit).Ready k := by
  induction chip using runDue.induct limit with
  | case1 chip t popped =>
    rw [runDue_of_none popped]
    exact ready.setTarget fun j room => room.popDue popped
  | case2 chip event t popped ih =>
    rw [runDue_of_some popped]
    refine ih (syncIrq_ready (Ready.setTarget (ready.setTarget fun j room => room.popDue popped) ?_))
    exact fun j room => Target.fire_affords event room

/-- **One operation** does not fault, and uses up one of what is left. -/
theorem checkedPerform_eq (op : Operation) (ready : chip.Ready (k + 1)) :
    chip.checkedPerform op = .ok (chip.perform op) ∧ (chip.perform op).2.Ready k := by
  have agrees := Target.checkedFunctions_agrees
  have idle : chip.Ready k := ready.less (Nat.le_succ k)
  cases op with
  | command number argument =>
    obtain ⟨ran, left⟩ := Attached.command_ready agrees number argument ready
    exact ⟨ok_bind ran (ok_bind (checkedSyncIrq_eq _) rfl), syncIrq_ready left⟩
  | writeData value =>
    obtain ⟨ran, left⟩ := Attached.writeData_ready agrees value ready
    exact ⟨ok_bind ran (ok_bind (checkedSyncIrq_eq _) rfl), syncIrq_ready left⟩
  | readData =>
    obtain ⟨ran, left⟩ := Attached.readData_ready agrees ready
    exact ⟨ok_bind ran (ok_bind (checkedSyncIrq_eq _) rfl), syncIrq_ready left⟩
  | reset =>
    obtain ⟨ran, left⟩ := checkedReset_eq ready
    exact ⟨ok_bind ran rfl, left⟩
  | raiseCpu bits | raiseError bits =>
    refine ⟨ok_bind (checkedSyncIrq_eq _) rfl, syncIrq_ready (idle.setTarget fun j room => ?_)⟩
    exact room.of_eq rfl (fun _ => rfl) rfl
  | advance ticks =>
    refine ⟨ok_bind (ok_bind (checkedRunDue_eq ..) rfl) rfl, ?_⟩
    exact (runDue_ready _ idle).setTarget fun j room => room.of_eq rfl (fun _ => rfl) rfl

/-- **A run** of as many operations as are left does not fault. -/
theorem checkedRun_eq (ops : List Operation) (ready : chip.Ready ops.length) :
    checkedRun ops chip = .ok (answers ops chip, run ops chip) := by
  induction ops generalizing chip with
  | nil => rfl
  | cons op ops ih =>
    obtain ⟨ran, left⟩ := checkedPerform_eq op ready
    exact ok_bind ran (ok_bind (ih left) rfl)

/-- The tuples of the chip have addresses. -/
theorem chip_addressable (mode : BusMode) : (CardModel.chip mode).layout.Addressable := by
  unfold Layout.Addressable
  cases mode <;> decide

theorem assemble_ready (config : Config) (short : k < 2 ^ 64) : (assemble config).Ready k where
  books := (Attached.new_bookkept (.chip config.mode)).of_eq rfl rfl rfl rfl
  fits := chip_addressable config.mode
  room := Target.powerOn_affords config short

theorem checkedAttach_eq (config : Config) (short : k + 1 < 2 ^ 64) :
    checkedAttach config = .ok (attach config) ∧
      ∀ chip, attach config = .ok chip → chip.Ready k := by
  unfold checkedAttach attach
  cases config.validate with
  | error e => exact ⟨rfl, by rintro _ ⟨⟩⟩
  | ok =>
    obtain ⟨ran, left⟩ := checkedReset_eq (assemble_ready config short)
    refine ⟨ok_bind (index_eq (k := 1) rfl) (ok_bind ran rfl), ?_⟩
    rintro _ ⟨⟩
    exact left

/-- **Nothing that a guest does makes a chip fault.** Whatever the configuration, and whatever is
done to the chip that it describes: in less than 2^64 operations, attaching included, no index is
out of range, no shift is as wide as its word, no sum or product overflows, no difference is
negative, and the bootloader and the firmware are handed whole windows. What the operations answer
and what they make of the chip is what the total definitions say. -/
theorem life_never_faults (config : Config) (ops : List Operation) (short : ops.length + 1 < 2 ^ 64) :
    checkedLife config ops =
      .ok ((attach config).map fun chip => (answers ops chip, run ops chip)) := by
  obtain ⟨ran, ready⟩ := checkedAttach_eq config short
  refine ok_bind ran ?_
  cases attached : attach config with
  | error e => rfl
  | ok chip => exact ok_bind (checkedRun_eq ops (ready chip attached)) rfl

/-- The host selects a card, writes the last byte of the last window, opens a transfer to the last
address of all, writes one byte more than it asked for and reads one; the processor reports
everything; the chip is reset, and time runs to its end. -/
def boundaries : List Operation :=
  [.command 5 0x10fe0000, .command 3 0, .command 7 0x45670000, .command 52 0x904ffe00,
    .command 53 0x93fffe01, .writeData 0xff, .writeData 0xff, .readData, .raiseCpu 0xff, .reset,
    .advance 0xffffffffffffffff]

theorem life_never_faults_boundaries :
    boundaries.length + 1 < 2 ^ 64 ∧
      answers boundaries (assemble {}).reset =
        [.response ⟨.r4, [0x90, 0xfe, 0, 0]⟩, .response ⟨.r6, [0x45, 0x67, 0, 0]⟩,
          .response ⟨.r1b, [0, 0, 0x1e, 0]⟩, .response ⟨.r5, [0, 0, 0x10, 0]⟩,
          .response ⟨.r5, [0, 0, 0x20, 0]⟩, .nothing, .nothing, .byte 0, .nothing, .nothing,
          .nothing] ∧
      checkedLife {} boundaries =
        .ok (.ok (answers boundaries (assemble {}).reset, run boundaries (assemble {}).reset)) := by
  have short : boundaries.length + 1 < 2 ^ 64 := by decide
  exact ⟨short, by decide +kernel, life_never_faults {} boundaries short⟩

/-- A reset is one too many if the clock is in the last epoch. -/
theorem checkedRun_resets {n : Nat} (last : chip.target.clock.epoch + n + 1 = 2 ^ 64) :
    checkedRun (List.replicate (n + 1) .reset) chip = .error .overflow := by
  induction n generalizing chip with
  | zero =>
    have full : chip.target.clock.checkedOpenEpoch = .error .overflow :=
      error_bind (if_neg (by omega))
    exact error_bind (error_bind (error_bind (error_bind (error_bind full))))
  | succ n ih =>
    have opened : chip.target.clock.checkedOpenEpoch = .ok chip.target.clock.openEpoch :=
      Clock.checkedOpenEpoch_eq (by omega)
    have reset : chip.checkedReset = .ok chip.reset :=
      ok_bind (ok_bind (ok_bind opened rfl) rfl) (checkedSyncIrq_eq _)
    have next : chip.reset.target.clock.epoch + n + 1 = 2 ^ 64 := by
      show chip.target.clock.epoch + 1 + n + 1 = 2 ^ 64
      omega
    rw [List.replicate_succ]
    exact ok_bind (ok_bind reset rfl) (error_bind (ih next))

/-- **The bound is sharp**: attaching a chip and resetting it, 2^64 operations altogether, opens one
epoch too many. -/
theorem resets_overflow {config : Config} (attached : attach config = .ok chip) {n : Nat}
    (many : n + 1 = 2 ^ 64) : checkedLife config (List.replicate n .reset) = .error .overflow := by
  obtain ⟨n, rfl⟩ : ∃ m, n = m + 1 := ⟨n - 1, by omega⟩
  have ran : checkedAttach config = .ok (.ok chip) :=
    attached ▸ (checkedAttach_eq config (k := 0) (by decide)).1
  have epoch : chip.target.clock.epoch = 1 := by
    rw [target_attach attached]
    rfl
  have last : chip.target.clock.epoch + n + 1 = 2 ^ 64 := by omega
  exact ok_bind ran (error_bind (checkedRun_resets last))

end WlanCard.Chip
