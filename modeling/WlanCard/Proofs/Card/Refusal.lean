import WlanCard.Proofs.Card.Forgetting

/-!
# Refused commands

`Card.Legal` is the table of the commands that a card accepts: by number, for its bus, its phase and
whether it is ready. A command outside it is refused, whatever its argument (`refusal_eq_none_iff`),
and refusing changes nothing but the status and the number of the last command: the flag of an illegal
command is up afterwards, and the response is empty (`command_of_not_legal`).

A command inside the table never ends with that flag: the card clears it when the command comes, and
nothing that a command does raises it (`carryOut_cleared`). So the flag tells the two apart
(`illegalCommand_iff_not_legal`).
-/

namespace WlanCard

/-! ## The table -/

/-- The commands that a card accepts, by number. -/
def Card.Legal (c : Card) (number : UInt8) : Prop :=
  match number.toNat with
  | 0 => True
  | 3 => c.mode = .native ∧ c.ready = true ∧ (c.phase = .initialization ∨ c.phase = .standby)
  | 5 => c.phase = .initialization
  | 7 => c.mode = .native ∧ (c.phase = .standby ∨ c.phase = .command)
  | 15 =>
    c.mode = .native ∧ (c.phase = .initialization ∨ c.phase = .standby ∨ c.phase = .command)
  | 52 => c.phase = .command ∨ c.phase = .transfer
  | 53 => c.phase = .command
  | 59 => c.mode = .spi
  | _ => False

namespace Command

theorem accept_eq_none_iff (inPhase : Bool) : refusal.accept inPhase = none ↔ inPhase = true := by
  cases inPhase <;> decide

/-- A check that refuses is passed if nothing is refused by it or by what follows. -/
theorem refused_or_eq_none_iff {bad : Prop} [Decidable bad] {why : Refusal} {rest : Option Refusal} :
    (if bad then some why else rest) = none ↔ ¬ bad ∧ rest = none := by
  split <;> simp [*]

/-- A card accepts the commands of its table, whatever their arguments. -/
theorem refusal_eq_none_iff (c : Card) (number : UInt8) (argument : UInt32) :
    (ofWire number argument).refusal c.mode c.ready c.phase = none ↔ c.Legal number := by
  have native : c.mode = .native ↔ ¬ c.mode = .spi := by cases c.mode <;> decide
  unfold ofWire Card.Legal
  generalize number.toNat = n
  split <;>
    simp [refusal, refused_or_eq_none_iff, accept_eq_none_iff, native, and_assoc]

end Command

instance (c : Card) (number : UInt8) : Decidable (c.Legal number) :=
  decidable_of_iff _ (Command.refusal_eq_none_iff c number 0)

/-! ## The flag -/

namespace Status

/-- None of the flags that the next command clears is up. -/
def Cleared (s : Status) : Prop :=
  s.clear forgotten = s

theorem cleared_clear (s : Status) : (s.clear forgotten).Cleared :=
  s.clear_forgotten

/-- Clearing more raises nothing. -/
theorem Cleared.clear {s : Status} (cleared : s.Cleared) (mask : UInt32) : (s.clear mask).Cleared := by
  unfold Cleared
  rw [clear_comm, cleared]

/-- An error is raised beside those flags. -/
theorem Cleared.raise {s : Status} (cleared : s.Cleared) {mask : UInt32}
    (apart : mask &&& ~~~forgotten = mask) : (s.raise mask).Cleared := by
  unfold Cleared
  rw [raise_clear, cleared, apart]

theorem Cleared.has_illegalCommand {s : Status} (cleared : s.Cleared) :
    s.has .illegalCommand = false := by
  have gone := meet_clear_eq_zero s forgotten Flag.illegalCommand.mask (by decide)
  rw [cleared] at gone
  simp only [has, gone]
  decide

theorem has_raise (s : Status) (f : Flag) : (s.raise f.mask).has f = true := by
  have absorbs : (s.bits ||| f.mask) &&& f.mask = f.mask := by
    apply UInt32.toBitVec_inj.mp
    rw [UInt32.toBitVec_and, UInt32.toBitVec_or]
    ext i below
    simp only [BitVec.getElem_and, BitVec.getElem_or]
    cases f.mask.toBitVec[i] <;> simp
  simp only [has, meet, raise, absorbs, BEq.rfl]

/-- A flag outside a mask stays when the mask is cleared. -/
theorem has_clear (s : Status) {f : Flag} {mask : UInt32} (apart : ~~~mask &&& f.mask = f.mask) :
    (s.clear mask).has f = s.has f := by
  simp only [has, meet, clear, UInt32.and_assoc, apart]

/-- The status after a command has been refused. On a serial bus it is reported, if without a byte, and
reporting clears what it clears. -/
def afterRefusal (s : Status) (mode : BusMode) : Status :=
  let raised := (s.clear forgotten).raise Flag.illegalCommand.mask
  match mode with
  | .native => raised
  | .spi => raised.clear classC

theorem has_afterRefusal (s : Status) (mode : BusMode) :
    (s.afterRefusal mode).has .illegalCommand = true := by
  have up : ((s.clear forgotten).raise Flag.illegalCommand.mask).has .illegalCommand = true :=
    has_raise ..
  unfold afterRefusal
  cases mode with
  | native => exact up
  | spi => exact (has_clear _ (by decide)).trans up

end Status

namespace Attached

variable {σ : Type} {number : UInt8} {command : Command} {a : Attached σ}

theorem prepare_cleared (number : UInt8) (command : Command) (a : Attached σ) :
    (a.prepare number command).card.status.Cleared := by
  simp only [prepare, noteCommand]
  split <;> exact Status.cleared_clear _

/-- Carrying out a command raises none of the flags that the next command clears. -/
theorem carryOut_cleared (fs : Functions σ) (cleared : a.card.status.Cleared) :
    (a.carryOut fs command).2.card.status.Cleared := by
  cases command with
  | goIdle | sendRelativeAddress | crcSwitch | unknown => exact cleared
  | sendOperatingConditions conditions =>
    simp only [carryOut, Card.agree]
    split <;> exact cleared
  | select address =>
    simp only [carryOut, Card.select]
    split <;> split <;> exact cleared
  | goInactive address =>
    simp only [carryOut, Card.goInactive]
    split <;> exact cleared
  | direct q =>
    -- a direct access does not look at these flags, so it leaves them as they were: not up
    have same : a.forget id = a := congrArg (Attached.mk · a.device) (Card.forget_eq_self cleared rfl)
    have done : (a.direct fs q).forget id = a.direct fs q := by
      rw [← direct_forget rfl, same]
    exact congrArg (·.card.status) done
  | extended q =>
    simp only [carryOut, Card.openTransfer]
    split
    · exact cleared.raise (by decide)
    · split <;> exact cleared

/-- Building a response raises none of these flags either. -/
theorem respond_cleared (kind : ResponseKind) (last : Status) {c : Card} (cleared : c.status.Cleared) :
    (respond kind last c).2.status.Cleared := by
  cases kind with
  | r0 | r4 | r6 => exact cleared
  | r1 | r1b | r5 => exact cleared.clear _

/-- No response stays none when it is silenced. -/
theorem respond_r0 (last : Status) (c : Card) : respond .r0 last c = (Response.none, c) := by
  unfold respond
  dsimp only
  split <;> rfl

/-- A command of the table is carried out. -/
theorem execute_of_legal (fs : Functions σ) (argument : UInt32) (legal : a.card.Legal number) :
    a.execute fs number argument =
      (a.prepare number (Command.ofWire number argument)).carryOut fs
        (Command.ofWire number argument) :=
  execute_of_accepted fs rfl ((Command.refusal_eq_none_iff a.card number argument).mpr legal)

/-- **An accepted command** ends without the flag of an illegal command. -/
theorem command_of_legal (fs : Functions σ) (argument : UInt32) (legal : a.card.Legal number) :
    (a.command fs number argument).2.card.status.has .illegalCommand = false := by
  unfold Attached.command
  rw [execute_of_legal fs argument legal]
  exact (respond_cleared _ _ (carryOut_cleared fs (prepare_cleared ..))).has_illegalCommand

/-! ## A refused command -/

/-- A command outside the table is refused. -/
theorem refusal_of_not_legal (argument : UInt32) (illegal : ¬ a.card.Legal number) :
    a.refusal (Command.ofWire number argument) ≠ none :=
  mt (Command.refusal_eq_none_iff a.card number argument).mp illegal

/-- A command outside the table is noted as the last one, whatever the phase. -/
theorem prepare_of_not_legal {argument : UInt32} (illegal : ¬ a.card.Legal number) :
    a.prepare number (Command.ofWire number argument) =
      { a with
        card.status := a.card.status.clear Status.forgotten
        card.activeCommand := number } := by
  have refused := refusal_of_not_legal argument illegal
  unfold prepare noteCommand
  dsimp only
  split
  next asked running => exact absurd (asked ▸ (refusal_direct_iff _).mpr (.inr running)) refused
  next => rfl

/-- A response is silenced while the flag of an illegal command is up. -/
theorem respond_silenced {kind : ResponseKind} {last : Status} {c : Card}
    (up : (respond kind last c).2.status.has .illegalCommand = true) :
    (respond kind last c).1 = ⟨kind, []⟩ := by
  cases kind <;> exact (if_pos up).trans rfl

/-- **A refused command** raises the flag of an illegal command and is answered by nothing. Nothing
else of the card changes, but for the number of the last command. -/
theorem command_of_not_legal (fs : Functions σ) (argument : UInt32)
    (illegal : ¬ a.card.Legal number) :
    a.command fs number argument =
      (⟨a.card.refuse.1, []⟩,
        { a with
          card.status := a.card.status.afterRefusal a.card.mode
          card.activeCommand := number }) := by
  obtain ⟨why, refused⟩ := Option.ne_none_iff_exists'.mp (refusal_of_not_legal argument illegal)
  let found : Card :=
    { a.card with
      status := a.card.status.clear Status.forgotten
      activeCommand := number }
  have after : (respond found.refuse.1 a.card.status found.refuse.2).2 =
      { found with status := a.card.status.afterRefusal a.card.mode } := by
    unfold Card.refuse Status.afterRefusal
    cases a.card.mode <;> rfl
  have up : (respond found.refuse.1 a.card.status found.refuse.2).2.status.has .illegalCommand = true := by
    rw [after]
    exact Status.has_afterRefusal ..
  have silent := respond_silenced up
  unfold Attached.command
  rw [execute_of_refused fs rfl refused, prepare_of_not_legal illegal]
  exact Prod.ext silent (congrArg (Attached.mk · a.device) after)

/-- **The table is exact**: after a command the flag of an illegal command is up exactly if the command
is outside the table. Then the response is empty, the functions behind the card are not reached, and
nothing of the card changes but its status and the number of the last command. -/
theorem illegalCommand_iff_not_legal (fs : Functions σ) (number : UInt8) (argument : UInt32)
    (a : Attached σ) :
    let done := a.command fs number argument
    (done.2.card.status.has .illegalCommand = true ↔ ¬ a.card.Legal number) ∧
      (¬ a.card.Legal number →
        done.1.bytes = [] ∧
        done.1.kind = (match a.card.mode with | .native => .r0 | .spi => .r1) ∧
        a.exchanges fs (.command number argument) = [] ∧
        done.2.device = a.device ∧
        done.2.card = { a.card with status := done.2.card.status, activeCommand := number }) := by
  intro done
  by_cases legal : a.card.Legal number
  · have down := command_of_legal fs argument legal
    exact ⟨⟨fun up => absurd (down.symm.trans up) nofun, fun other => absurd legal other⟩,
      fun other => absurd legal other⟩
  · have answered := command_of_not_legal fs argument legal
    have observed := command_of_not_legal (a := a.watched) fs.observed argument legal
    have quiet : a.exchanges fs (.command number argument) = [] :=
      congrArg (·.2.device.2) observed
    have card : done.2.card =
        { a.card with
          status := a.card.status.afterRefusal a.card.mode
          activeCommand := number } := congrArg (·.2.card) answered
    refine ⟨⟨fun _ => legal, fun _ => ?_⟩, fun _ => ⟨?_, ?_, quiet, ?_, ?_⟩⟩
    · rw [card]
      exact Status.has_afterRefusal ..
    · exact congrArg (·.1.bytes) answered
    · exact congrArg (·.1.kind) answered
    · exact congrArg (·.2.device) answered
    · rw [card]

/-- A selected card has agreed on operating conditions already. -/
theorem illegalCommand_iff_not_legal_numbered :
    ¬ Attached.numbered.card.Legal 5 ∧
      (Attached.numbered.command .numbered 5 0x10fe0000).2.card.status.has .illegalCommand = true ∧
      (Attached.numbered.command .numbered 5 0x10fe0000).1.bytes = [] := by
  have illegal : ¬ Attached.numbered.card.Legal 5 := by decide +kernel
  obtain ⟨up, changes⟩ := illegalCommand_iff_not_legal .numbered 5 0x10fe0000 Attached.numbered
  exact ⟨illegal, up.mpr illegal, (changes illegal).1⟩

end Attached

end WlanCard
