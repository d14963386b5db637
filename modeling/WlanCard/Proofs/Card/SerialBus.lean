import WlanCard.Proofs.Card.Enumeration
import WlanCard.Proofs.Card.Reset

/-!
# Cards on a serial bus

A card on a serial bus publishes no address, and nothing else leads out of the beginning of
enumeration: there it accepts three commands only (`Unenumerated.legal_iff`), and none of them touches
more than the status, the readiness and the number of the last command (`command_unenumerated`). So the
card stays unenumerated through every operation (`perform_unenumerated`), and all operations are
answered without looking at a register (`event_elementary`).
-/

namespace WlanCard

namespace Card

/-- A card of a given model on a serial bus, at the beginning of enumeration. Its registers are those
of a card that has just been powered on, but for the interrupt lines of the functions. -/
structure Unenumerated (model : CardModel) (c : Card) : Prop where
  mode : c.mode = .spi
  conditions : c.conditions = model.conditions
  phase : c.phase = .initialization
  address : c.address = 0
  transfer : c.transfer = none
  area : ∃ interruptPending, c.area =
    { CommonArea.powerOn model.layout (functionCountOf model.conditions) with interruptPending }
  irq : c.irq = false

/-- An operation answered without looking at a register: nothing but a reset reaches the functions,
reading gives zeros, and the commands answered are those for the operating conditions and for the
checksums. -/
structure Event.Elementary (e : Event) : Prop where
  exchanges : e.exchanges = if e.operation = .reset then [⟨.reset, []⟩] else []
  readData : e.operation = .readData → e.answer = .byte 0
  command : ∀ number argument, e.operation = .command number argument →
    ∃ r, e.answer = .response r ∧ (r.bytes ≠ [] ↔ number = 5 ∨ number = 59) ∧
      (number = 5 → r.kind = .r4) ∧ (number = 59 → r.kind = .r1)

variable {model : CardModel} {c : Card}

theorem unenumerated_new (serial : model.mode = .spi) : (Card.new model).Unenumerated model where
  mode := serial
  conditions := rfl
  phase := rfl
  address := rfl
  transfer := rfl
  area := ⟨0, rfl⟩
  irq := rfl

namespace Unenumerated

/-- What of a card enumeration does not look at. -/
theorem noted (found : c.Unenumerated model) (status : Status) (ready : Bool)
    (activeCommand : UInt8) :
    { c with status, ready, activeCommand }.Unenumerated model where
  mode := found.mode
  conditions := found.conditions
  phase := found.phase
  address := found.address
  transfer := found.transfer
  area := found.area
  irq := found.irq

theorem setHandler (found : c.Unenumerated model) (f : FunctionNumber) (handler : Handler) :
    (c.setHandler f handler).Unenumerated model := by
  unfold Card.setHandler
  split
  · exact found
  · exact ⟨found.mode, found.conditions, found.phase, found.address, found.transfer, found.area,
      found.irq⟩

theorem setFunctionIrq (found : c.Unenumerated model) (line : Fin 8) (level : Bool) :
    (c.setFunctionIrq line level).Unenumerated model := by
  obtain ⟨pending, area⟩ := found.area
  have driven : (c.area.setInterruptPending line level).interruptEnable = 0 := by
    rw [area]
    rfl
  exact {
    mode := found.mode
    conditions := found.conditions
    phase := found.phase
    address := found.address
    transfer := found.transfer
    area := ⟨_, by
      show c.area.setInterruptPending line level = _
      rw [area]
      rfl⟩
    irq := updateIrq_low driven }

theorem reset (found : c.Unenumerated model) : c.reset.updateIrq.Unenumerated model := by
  obtain ⟨pending, area⟩ := found.area
  have count : c.functionCount = functionCountOf model.conditions :=
    congrArg functionCountOf found.conditions
  have registers : c.area.reset c.functionCount =
      CommonArea.powerOn model.layout (functionCountOf model.conditions) := by
    rw [area, count]
    rfl
  exact {
    mode := found.mode
    conditions := found.conditions
    phase := rfl
    address := rfl
    transfer := rfl
    area := ⟨0, registers⟩
    irq := updateIrq_low rfl }

/-- **Three commands are accepted**, and the rest is refused. -/
theorem legal_iff (found : c.Unenumerated model) (number : UInt8) :
    c.Legal number ↔ number = 0 ∨ number = 5 ∨ number = 59 := by
  have numbered : ∀ n : UInt8, number = n ↔ number.toNat = n.toNat := fun n =>
    UInt8.toNat_inj.symm
  rw [numbered, numbered, numbered]
  unfold Legal
  rw [found.mode, found.phase]
  generalize number.toNat = n
  split <;> simp_all

end Unenumerated

end Card

namespace Attached

variable {σ : Type} {fs : Functions σ} {model : CardModel} {a : Attached σ}

/-! ## Responses -/

theorem respond_kind (kind : ResponseKind) (last : Status) (c : Card) :
    (respond kind last c).1.kind = kind := by
  cases kind <;> (unfold respond; dsimp only; split <;> rfl)

/-- A response that is not silenced has bytes, unless it is none. -/
theorem respond_bytes (kind : ResponseKind) (some : kind ≠ .r0) (last : Status) {c : Card}
    (down : (respond kind last c).2.status.has .illegalCommand = false) :
    (respond kind last c).1.bytes ≠ [] := by
  have spoken : ∀ {count : Nat} {n : Nat} (x : BitVec n), Word.bigEndian (count + 1) x ≠ [] := by
    intro count n x empty
    have length := Word.length_bigEndian (count + 1) x
    rw [empty] at length
    cases length
  have told := Bool.eq_false_iff.mp down
  cases kind with
  | r0 => exact absurd rfl some
  | r1 =>
    have built : (respond .r1 last c).1 = (Response.normal .r1 last c.status).1 := if_neg told
    rw [built]
    exact spoken _
  | r1b =>
    have built : (respond .r1b last c).1 = (Response.normal .r1b last c.status).1 := if_neg told
    rw [built]
    exact spoken _
  | r4 =>
    have built : (respond .r4 last c).1 = Response.operatingConditions c.conditions c.ready :=
      if_neg told
    rw [built]
    exact spoken _
  | r5 =>
    have built : (respond .r5 last c).1 =
        (Response.direct c.status c.phase c.mode c.directData).1 := if_neg told
    rw [built]
    unfold Response.direct
    cases c.mode <;> exact List.cons_ne_nil _ _
  | r6 =>
    have built : (respond .r6 last c).1 = Response.publishedAddress c.status c.address :=
      if_neg told
    rw [built]
    exact List.append_ne_nil_of_right_ne_nil _ (List.cons_ne_nil _ _)

/-! ## Operations -/

/-- **A command changes** no more of an unenumerated card than its status, its readiness and the number
of the last command. -/
theorem command_unenumerated (fs : Functions σ) (found : a.card.Unenumerated model) (number : UInt8)
    (argument : UInt32) :
    ∃ status ready activeCommand, (a.command fs number argument).2 =
      { a with card := { a.card with status, ready, activeCommand } } := by
  by_cases legal : a.card.Legal number
  · unfold Attached.command
    rw [execute_of_legal fs argument legal]
    rcases (found.legal_iff number).mp legal with rfl | rfl | rfl
    · exact ⟨_, a.card.ready, 0, rfl⟩
    · let found := (a.prepare 5 (Command.ofWire 5 argument)).card
      obtain ⟨ready, agreed⟩ : ∃ ready, found.agree argument = { found with ready } := by
        unfold Card.agree
        split
        · exact ⟨found.ready, rfl⟩
        · exact ⟨true, rfl⟩
      show ∃ _ _ _, Attached.mk (respond .r4 a.card.status (found.agree argument)).2 a.device = _
      rw [agreed]
      exact ⟨_, ready, 5, rfl⟩
    · exact ⟨_, a.card.ready, 59, rfl⟩
  · exact ⟨_, a.card.ready, number, congrArg Prod.snd (command_of_not_legal fs argument legal)⟩

/-- **No operation leads** out of the beginning of enumeration. -/
theorem perform_unenumerated (fs : Functions σ) (found : a.card.Unenumerated model)
    (op : Card.Operation) : (a.perform fs op).2.card.Unenumerated model := by
  have idle : a.card.phase ≠ .transfer := by
    rw [found.phase]
    nofun
  cases op with
  | command number argument =>
    obtain ⟨status, ready, activeCommand, done⟩ := command_unenumerated fs found number argument
    show (a.command fs number argument).2.card.Unenumerated model
    rw [done]
    exact found.noted status ready activeCommand
  | writeData value =>
    show (a.writeData fs value).card.Unenumerated model
    rw [writeData_idle fs value idle]
    exact found
  | readData =>
    show (a.readData fs).2.card.Unenumerated model
    rw [readData_idle fs idle]
    exact found
  | setFunctionIrq line level => exact found.setFunctionIrq line level
  | setHandler f handler => exact found.setHandler f handler
  | reset => exact found.reset

/-- **A command is answered** if it asks for the operating conditions or for checksums. -/
theorem command_elementary (fs : Functions σ) (found : a.card.Unenumerated model) (number : UInt8)
    (argument : UInt32) :
    ((a.command fs number argument).1.bytes ≠ [] ↔ number = 5 ∨ number = 59) ∧
      (number = 5 → (a.command fs number argument).1.kind = .r4) ∧
      (number = 59 → (a.command fs number argument).1.kind = .r1) := by
  by_cases legal : a.card.Legal number
  · have down := command_of_legal fs argument legal
    have executed := execute_of_legal fs argument legal
    rcases (found.legal_iff number).mp legal with rfl | rfl | rfl
    · rw [command_goIdle]
      exact ⟨by decide, nofun, nofun⟩
    · unfold Attached.command at down ⊢
      rw [executed] at down ⊢
      exact ⟨iff_of_true (respond_bytes .r4 nofun a.card.status down) (.inl rfl),
        fun _ => respond_kind .r4 a.card.status _, nofun⟩
    · unfold Attached.command at down ⊢
      rw [executed] at down ⊢
      exact ⟨iff_of_true (respond_bytes .r1 nofun a.card.status down) (.inr rfl), nofun,
        fun _ => respond_kind .r1 a.card.status _⟩
  · have other : ¬ (number = 5 ∨ number = 59) := fun known =>
      legal ((found.legal_iff number).mpr (.inr known))
    rw [command_of_not_legal fs argument legal]
    exact ⟨iff_of_false (not_not.mpr rfl) other, fun same => absurd (.inl same) other,
      fun same => absurd (.inr same) other⟩

theorem event_elementary (fs : Functions σ) (found : a.card.Unenumerated model)
    (op : Card.Operation) : (a.event fs op).Elementary where
  exchanges := by
    show a.exchanges fs op = if op = .reset then _ else _
    split
    next reset =>
      rw [reset]
      rfl
    next noReset => exact exchanges_closed fs (by rw [found.phase]; decide) noReset
  readData := by
    rintro rfl
    show Card.Answer.byte (a.readData fs).1 = _
    rw [readData_idle fs (by rw [found.phase]; nofun)]
  command := by
    rintro number argument rfl
    exact ⟨_, rfl, command_elementary fs found number argument⟩

/-- **A card on a serial bus** stays at the beginning of enumeration in every run. -/
theorem run_unenumerated (fs : Functions σ) (ops : List Card.Operation)
    (found : a.card.Unenumerated model) :
    (a.run fs ops).card.Unenumerated model ∧ ∀ event ∈ a.trace fs ops, event.Elementary := by
  induction ops generalizing a with
  | nil => exact ⟨found, fun _ mem => nomatch mem⟩
  | cons op ops ih =>
    obtain ⟨last, rest⟩ := ih (perform_unenumerated fs found op)
    refine ⟨last, fun event mem => ?_⟩
    rcases List.mem_cons.mp mem with rfl | mem
    · exact event_elementary fs found op
    · exact rest event mem

end Attached

end WlanCard
