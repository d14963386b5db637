import WlanCard.Proofs.Card.SerialBus
import WlanCard.Proofs.Chip.Announcement

/-!
# Chips on a serial bus

The card of a chip on a serial bus stays at the beginning of enumeration, so nothing that the host does
reaches the target (`noWrite_happenings`): it is reset, it reports what its own side raises, and time
goes by. None of that gets the bootloader done, brings up a firmware or sends a message
(`Untouched.undergo`).
-/

namespace WlanCard

/-! ## Targets that nobody writes to -/

/-- A target that is still where it was at power-on: the bootloader is not done, no firmware has taken
over, and nothing has been sent. -/
structure Target.Untouched (t : Target) : Prop where
  boot : t.boot.done = false
  firmware : t.firmware = none
  sent : t.sent = []

namespace Target

variable {t : Target}

/-- Work that comes due does nothing for a target without a firmware but settle credits. -/
theorem Untouched.fire (found : t.Untouched) (event : Deferred) : (t.fire event).Untouched where
  boot := (congrArg Bootloader.done (fire_boot t event)).trans found.boot
  firmware := (fire_unloaded_iff t event).mpr found.firmware
  sent := by
    by_cases announcing : event = .alive
    · have same : t.announce = t := by
        unfold announce
        rw [found.firmware]
      rw [announcing]
      exact (congrArg (·.sent) same).trans found.sent
    · exact (fire_other announcing).2.trans found.sent

theorem Untouched.doneBy (found : t.Untouched) (tick : Nat) : (t.doneBy tick).Untouched := by
  have popped : ∀ {s u : Target} {answer}, s.Untouched → s.popDue tick = (answer, u) →
      u.Untouched := by
    intro s u answer found popped
    rw [eq_of_popDue popped]
    exact ⟨found.boot, found.firmware, found.sent⟩
  have drained := (drain_keeps (fun s => s.Untouched) (fun _ _ found rest => popped found rest)
    (fun _ event _ found fired => (popped found fired).fire event) found).1
  exact ⟨drained.boot, drained.firmware, drained.sent⟩

/-- **Whatever happens to a target** but a write leaves it untouched. -/
theorem Untouched.undergo (found : t.Untouched) {h : Happening}
    (noWrite : ∀ address value, h ≠ .write address value) : (t.undergo h).Untouched := by
  cases h with
  | reset => exact ⟨rfl, rfl, found.sent⟩
  | read address | raiseCpu bits | raiseError bits => exact ⟨found.boot, found.firmware, found.sent⟩
  | write address value => exact absurd rfl (noWrite address value)
  | advance ticks => exact found.doneBy _

theorem Untouched.undergone {course : List Happening} (found : t.Untouched)
    (noWrite : ∀ h ∈ course, ∀ address value, h ≠ .write address value) :
    (t.undergone course).Untouched := by
  induction course generalizing t with
  | nil => exact found
  | cons h course ih =>
    obtain ⟨first, rest⟩ := List.forall_mem_cons.mp noWrite
    exact ih (found.undergo first) rest

end Target

/-! ## The card of such a chip -/

namespace Chip

variable {model : CardModel} {chip : Chip}

theorem runDue_unenumerated (limit : Nat) (found : chip.card.Unenumerated model) :
    (chip.runDue limit).card.Unenumerated model := by
  induction chip using runDue.induct limit with
  | case1 chip t popped =>
    rw [runDue_of_none popped]
    exact found
  | case2 chip event t popped ih =>
    rw [runDue_of_some popped]
    exact ih (found.setFunctionIrq 0 _)

theorem perform_unenumerated (found : chip.card.Unenumerated model) (op : Operation) :
    (chip.perform op).2.card.Unenumerated model := by
  have card := Attached.perform_unenumerated Target.functions (a := chip.attached) found
  cases op with
  | command number argument => exact (card (.command number argument)).setFunctionIrq 0 _
  | writeData value => exact (card (.writeData value)).setFunctionIrq 0 _
  | readData => exact (card .readData).setFunctionIrq 0 _
  | reset => exact (card .reset).setFunctionIrq 0 _
  | raiseCpu bits | raiseError bits => exact found.setFunctionIrq 0 _
  | advance ticks => exact runDue_unenumerated _ found

/-- The host writes nothing to the target of a chip whose card is not enumerated. -/
theorem noWrite_happenings (found : chip.card.Unenumerated model) {op : Operation} {h : Happening}
    (mem : h ∈ chip.happenings op) (address : UInt32) (value : UInt8) :
    h ≠ .write address value := by
  have silent : ∀ op : Card.Operation, op ≠ .reset → h ∉ chip.accessed op := by
    intro op other
    have closed : ¬ chip.attached.card.phase.Open := by
      rw [show chip.attached.card.phase = _ from found.phase]
      decide
    unfold accessed
    rw [Attached.exchanges_closed Target.functions closed other]
    exact List.not_mem_nil
  cases op with
  | command number argument => exact absurd mem (silent (.command number argument) nofun)
  | writeData byte => exact absurd mem (silent (.writeData byte) nofun)
  | readData => exact absurd mem (silent .readData nofun)
  | reset | raiseCpu bits | raiseError bits | advance ticks =>
    rw [List.mem_singleton.mp mem]
    nofun

theorem run_untouched (ops : List Operation) (found : chip.card.Unenumerated model)
    (target : chip.target.Untouched) : (chip.run ops).target.Untouched := by
  induction ops generalizing chip with
  | nil => exact target
  | cons op ops ih =>
    refine ih (perform_unenumerated found op) ?_
    rw [target_perform]
    exact target.undergone fun h mem => noWrite_happenings found mem

/-- **A serial bus never gets past the beginning of enumeration.** A card on such a bus stays there in
every run, without address or transfer, with its interrupt line low and its registers as they were at
power-on, but for the interrupt lines of its functions; nothing but a reset reaches the functions, and
only two commands are answered. The target of a chip on such a bus never gets its bootloader done, has
no firmware, and sends nothing. -/
theorem serial_bus_never_enumerated :
    (∀ {σ : Type} (fs : Functions σ) (model : CardModel) (s : σ) (ops : List Card.Operation),
      model.mode = .spi →
      let start : Attached σ := ⟨Card.new model, s⟩
      (start.run fs ops).card.Unenumerated model ∧
        ∀ event ∈ start.trace fs ops, event.Elementary) ∧
    ∀ (config : Config) (chip : Chip) (ops : List Operation),
      config.mode = .spi → attach config = .ok chip →
      (chip.run ops).target.boot.done = false ∧ (chip.run ops).target.firmware = none ∧
        (chip.run ops).target.sent = [] := by
  constructor
  · intro σ fs model s ops serial start
    exact start.run_unenumerated fs ops (Card.unenumerated_new serial)
  · intro config chip ops serial attached
    have card : chip.card.Unenumerated (.chip config.mode) := by
      unfold attach at attached
      split at attached
      · cases attached
      · cases attached
        have new : (Card.new (.chip config.mode)).Unenumerated (.chip config.mode) :=
          Card.unenumerated_new serial
        exact ((new.setHandler 1 .attached).reset).setFunctionIrq 0 _
    have target : chip.target.Untouched := by
      rw [target_attach attached]
      exact ⟨rfl, rfl, rfl⟩
    have left := run_untouched ops card target
    exact ⟨left.boot, left.firmware, left.sent⟩

/-- A host that goes on as if the card were on a native bus gets nowhere. -/
def probing : List Operation :=
  [.command 5 0x10fe0000, .command 3 0, .command 7 0x45670000, .command 52 0x92000800, .readData,
    .advance 1000]

theorem serial_bus_never_enumerated_probing :
    let model := CardModel.chip .spi
    let card : Attached Unit := ⟨Card.new model, ()⟩
    let chip := (assemble { mode := .spi }).reset
    (card.run .numbered [.command 5 0x10fe0000, .command 3 0]).card.Unenumerated model ∧
      attach { mode := .spi } = .ok chip ∧ (chip.run probing).target.boot.done = false ∧
      (chip.run probing).target.firmware = none ∧ (chip.run probing).target.sent = [] := by
  obtain ⟨cards, chips⟩ := serial_bus_never_enumerated
  intro model card chip
  exact ⟨(cards .numbered model () [.command 5 0x10fe0000, .command 3 0] rfl).1, rfl,
    chips { mode := .spi } chip probing rfl rfl⟩

end Chip

end WlanCard
