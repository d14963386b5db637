import WlanCard.Proofs.Card.Run
import WlanCard.Proofs.CommonArea.Access

/-!
# What operations leave alone

Two frames, from the wide to the narrow.

`Card.KeepsWiring` is what only the owner of a card changes: its operating conditions, its bus and
what answers its functions. Every operation but a change of handlers keeps it (`perform_keepsWiring`).

`Card.KeepsFlow` adds the data path: the phase, the transfer, the active command and the selected
function. A direct access keeps it unless it resets the card or aborts the transfer that runs
(`direct_keepsFlow`). Which direct requests do so is told by `DirectRequest.Resets` and
`DirectRequest.Aborts`; both go through the abort register, wherever the card's own registers answer.
-/

namespace WlanCard

/-! ## The abort register -/

namespace DirectRequest

/-- A direct request writes the abort register of a card: it goes to a function that the card has and
that the card's own registers answer. -/
def WritesAbort (q : DirectRequest) (c : Card) : Prop :=
  q.isWrite ∧ q.function ≤ c.functionCount ∧ c.handlers.get q.function = .common ∧
    q.address.toNat = CommonRegister.ioAbort.offset

/-- A direct request resets a card. -/
def Resets (q : DirectRequest) (c : Card) : Prop :=
  q.WritesAbort c ∧ q.value &&& CommonArea.resetBit ≠ 0

/-- A direct request asks a card to end the transfer on a function. -/
def Aborts (q : DirectRequest) (c : Card) (f : FunctionNumber) : Prop :=
  q.WritesAbort c ∧ q.value &&& CommonArea.resetBit = 0 ∧ q.value &&& CommonArea.abortMask ≠ 0 ∧
    FunctionNumber.ofBits q.value = f

instance (q : DirectRequest) (c : Card) : Decidable (q.WritesAbort c) :=
  inferInstanceAs (Decidable (_ ∧ _))

instance (q : DirectRequest) (c : Card) : Decidable (q.Resets c) :=
  inferInstanceAs (Decidable (_ ∧ _))

instance (q : DirectRequest) (c : Card) (f : FunctionNumber) : Decidable (q.Aborts c f) :=
  inferInstanceAs (Decidable (_ ∧ _))

end DirectRequest

namespace Card

/-! ## Wiring -/

/-- What of a card only its owner changes. -/
structure KeepsWiring (before after : Card) : Prop where
  conditions : after.conditions = before.conditions
  mode : after.mode = before.mode
  handlers : after.handlers = before.handlers

theorem KeepsWiring.refl (c : Card) : c.KeepsWiring c := ⟨rfl, rfl, rfl⟩

theorem KeepsWiring.trans {a b c : Card} (first : a.KeepsWiring b) (second : b.KeepsWiring c) :
    a.KeepsWiring c where
  conditions := second.conditions.trans first.conditions
  mode := second.mode.trans first.mode
  handlers := second.handlers.trans first.handlers

theorem KeepsWiring.functionCount {c d : Card} (kept : c.KeepsWiring d) :
    d.functionCount = c.functionCount :=
  congrArg functionCountOf kept.conditions

/-- Cards wired alike have the same abort register. -/
theorem KeepsWiring.writesAbort_iff {c d : Card} (kept : c.KeepsWiring d) (q : DirectRequest) :
    q.WritesAbort d ↔ q.WritesAbort c := by
  simp only [DirectRequest.WritesAbort, kept.functionCount, kept.handlers]

theorem KeepsWiring.resets_iff {c d : Card} (kept : c.KeepsWiring d) (q : DirectRequest) :
    q.Resets d ↔ q.Resets c := by
  simp only [DirectRequest.Resets, kept.writesAbort_iff]

theorem KeepsWiring.aborts_iff {c d : Card} (kept : c.KeepsWiring d) (q : DirectRequest)
    (f : FunctionNumber) : q.Aborts d f ↔ q.Aborts c f := by
  simp only [DirectRequest.Aborts, kept.writesAbort_iff]

theorem endTransfer_keepsWiring (c : Card) : c.KeepsWiring c.endTransfer := by
  unfold endTransfer
  split <;> exact ⟨rfl, rfl, rfl⟩

theorem abort_keepsWiring (c : Card) (f : FunctionNumber) : c.KeepsWiring (c.abort f) := by
  unfold abort
  split
  · exact endTransfer_keepsWiring c
  · exact .refl c

theorem select_keepsWiring (c : Card) (address : UInt16) : c.KeepsWiring (c.select address).2 := by
  unfold select
  split <;> split <;> exact ⟨rfl, rfl, rfl⟩

theorem openTransfer_keepsWiring (c : Card) (q : ExtendedRequest) :
    c.KeepsWiring (c.openTransfer q).2 := by
  unfold openTransfer
  dsimp only
  split
  · exact ⟨rfl, rfl, rfl⟩
  · split <;> exact ⟨rfl, rfl, rfl⟩

/-! ## The data path -/

/-- What of a card decides how data flows. -/
structure KeepsFlow (before after : Card) : Prop extends before.KeepsWiring after where
  phase : after.phase = before.phase
  transfer : after.transfer = before.transfer
  activeCommand : after.activeCommand = before.activeCommand
  functionSelect : after.area.functionSelect = before.area.functionSelect

theorem KeepsFlow.refl (c : Card) : c.KeepsFlow c := ⟨.refl c, rfl, rfl, rfl, rfl⟩

theorem KeepsFlow.trans {a b c : Card} (first : a.KeepsFlow b) (second : b.KeepsFlow c) :
    a.KeepsFlow c where
  toKeepsWiring := first.toKeepsWiring.trans second.toKeepsWiring
  phase := second.phase.trans first.phase
  transfer := second.transfer.trans first.transfer
  activeCommand := second.activeCommand.trans first.activeCommand
  functionSelect := second.functionSelect.trans first.functionSelect

theorem updateIrq_keepsFlow (c : Card) : c.KeepsFlow c.updateIrq :=
  ⟨⟨rfl, rfl, rfl⟩, rfl, rfl, rfl, rfl⟩

theorem setFunctionIrq_keepsFlow (c : Card) (line : Fin 8) (level : Bool) :
    c.KeepsFlow (c.setFunctionIrq line level) :=
  ⟨⟨rfl, rfl, rfl⟩, rfl, rfl, rfl, rfl⟩

/-- Registers that register accesses change do not decide how data flows. -/
theorem keepsFlow_of_area {c : Card} {area : CommonArea} (kept : c.area.Keeps area) :
    c.KeepsFlow { c with area := area } :=
  ⟨⟨rfl, rfl, rfl⟩, rfl, rfl, rfl, kept.functionSelect⟩

/-- Aborting the transfer on a function ends no other transfer. -/
theorem abort_of_ne {c : Card} {f : FunctionNumber}
    (apart : c.phase = .transfer → c.area.functionSelect ≠ f) : c.abort f = c := by
  have spared : c.canAbort f = false := by
    by_cases running : c.phase = .transfer
    · simp [canAbort, apart running]
    · simp [canAbort, running]
  simp only [abort, spared, Bool.false_eq_true, ↓reduceIte]

end Card

namespace Attached

variable {σ : Type}

/-! ## Every operation keeps the wiring -/

theorem apply_keepsWiring (fs : Functions σ) (a : Attached σ) (effect : CommonArea.Effect) :
    a.card.KeepsWiring (a.apply fs effect).card := by
  cases effect with
  | nothing => exact .refl a.card
  | interrupts => exact (Card.updateIrq_keepsFlow a.card).toKeepsWiring
  | busControl =>
    dsimp only [apply]
    split <;> exact ⟨rfl, rfl, rfl⟩
  | reset => exact ⟨rfl, rfl, rfl⟩
  | abort f => exact Card.abort_keepsWiring a.card f

theorem writeCommonByte_keepsWiring (fs : Functions σ) (address : UInt32) (value : UInt8)
    (a : Attached σ) : a.card.KeepsWiring (a.writeCommonByte fs address value).card := by
  unfold writeCommonByte
  let written := a.card.area.writeByte fs address.toNat value a.device
  have stored : a.card.KeepsWiring { a.card with area := written.2.1 } := ⟨rfl, rfl, rfl⟩
  exact stored.trans (apply_keepsWiring fs ⟨_, written.2.2⟩ written.1)

theorem writeCommon_keepsWiring (fs : Functions σ) (how : Addressing) (address : UInt32)
    (bytes : List UInt8) (a : Attached σ) :
    a.card.KeepsWiring (a.writeCommon fs how address bytes).card := by
  induction bytes generalizing address a with
  | nil => exact .refl a.card
  | cons value rest ih =>
    unfold writeCommon
    split
    · exact .refl a.card
    · exact (writeCommonByte_keepsWiring fs address value a).trans (ih ..)

theorem write_keepsWiring (fs : Functions σ) (f : FunctionNumber) (address : UInt32)
    (bytes : List UInt8) (how : Addressing) (a : Attached σ) :
    a.card.KeepsWiring (a.write fs f address bytes how).card := by
  unfold write
  split
  · exact writeCommon_keepsWiring ..
  · exact .refl a.card
  · exact .refl a.card

/-- A read keeps the data path as well. -/
theorem read_keepsFlow (fs : Functions σ) (f : FunctionNumber) (address : UInt32) (length : Nat)
    (how : Addressing) (a : Attached σ) :
    a.card.KeepsFlow (a.read fs f address length how).2.card := by
  unfold read
  split
  · exact Card.keepsFlow_of_area (CommonArea.read_keeps ..)
  · exact .refl a.card
  · exact .refl a.card

theorem direct_keepsWiring (fs : Functions σ) (q : DirectRequest) (a : Attached σ) :
    a.card.KeepsWiring (a.direct fs q).card := by
  have written : ∀ b : Attached σ, b.card.KeepsWiring (b.directWrite fs q).card := by
    intro b
    unfold directWrite
    split
    · exact write_keepsWiring ..
    · exact .refl b.card
  have read : ∀ b : Attached σ, b.card.KeepsWiring (b.directRead fs q).card := by
    intro b
    unfold directRead
    split
    · exact (read_keepsFlow fs q.function q.address 1 .incrementing b).toKeepsWiring.trans
        ⟨rfl, rfl, rfl⟩
    · exact .refl b.card
  unfold direct
  dsimp only
  split
  · exact ⟨rfl, rfl, rfl⟩
  · have noted : a.card.KeepsWiring { a.card with directData := q.value } := ⟨rfl, rfl, rfl⟩
    exact noted.trans ((written ⟨_, a.device⟩).trans (read _))

theorem carryOut_keepsWiring (fs : Functions σ) (a : Attached σ) (command : Command) :
    a.card.KeepsWiring (a.carryOut fs command).2.card := by
  cases command with
  | goIdle => exact .refl a.card
  | sendRelativeAddress => exact ⟨rfl, rfl, rfl⟩
  | sendOperatingConditions conditions =>
    simp only [carryOut, Card.agree]
    split <;> exact ⟨rfl, rfl, rfl⟩
  | select address => exact Card.select_keepsWiring a.card address
  | goInactive address =>
    simp only [carryOut, Card.goInactive]
    split <;> exact ⟨rfl, rfl, rfl⟩
  | direct q => exact direct_keepsWiring fs q a
  | extended q => exact Card.openTransfer_keepsWiring a.card q
  | crcSwitch => exact .refl a.card
  | unknown => exact .refl a.card

theorem prepare_keepsWiring (number : UInt8) (command : Command) (a : Attached σ) :
    a.card.KeepsWiring (a.prepare number command).card := by
  simp only [prepare, noteCommand]
  split <;> exact ⟨rfl, rfl, rfl⟩

theorem command_keepsWiring (fs : Functions σ) (number : UInt8) (argument : UInt32)
    (a : Attached σ) : a.card.KeepsWiring (a.command fs number argument).2.card := by
  have executed : a.card.KeepsWiring (a.execute fs number argument).2.card := by
    refine (prepare_keepsWiring number (Command.ofWire number argument) a).trans ?_
    unfold execute
    dsimp only
    split
    · exact carryOut_keepsWiring ..
    · exact ⟨rfl, rfl, rfl⟩
  exact executed.trans ⟨rfl, rfl, rfl⟩

theorem finish_keepsWiring (a : Attached σ) (finished : Bool × Transfer) :
    a.card.KeepsWiring
      (if finished.1 then { a with card := a.card.endTransfer }
        else a.setTransfer finished.2 : Attached σ).card := by
  split
  · exact Card.endTransfer_keepsWiring a.card
  · exact ⟨rfl, rfl, rfl⟩

theorem flush_keepsWiring (fs : Functions σ) (t : Transfer) (a : Attached σ) :
    a.card.KeepsWiring (a.flush fs t).card := by
  have written := write_keepsWiring fs t.function t.start t.staging.toList t.addressing a
  refine written.trans ?_
  unfold flush
  dsimp only
  split
  · exact finish_keepsWiring ..
  · exact .refl _

theorem writeData_keepsWiring (fs : Functions σ) (value : UInt8) (a : Attached σ) :
    a.card.KeepsWiring (a.writeData fs value).card := by
  unfold writeData
  split
  · exact .refl a.card
  · split
    · exact .refl a.card
    · dsimp only
      split
      · exact flush_keepsWiring ..
      · exact ⟨rfl, rfl, rfl⟩

theorem readData_keepsWiring (fs : Functions σ) (a : Attached σ) :
    a.card.KeepsWiring (a.readData fs).2.card := by
  unfold readData
  split
  · exact .refl a.card
  next t _ =>
    split
    · exact .refl a.card
    · have fetched : a.card.KeepsWiring (a.fetch fs t).2.card := by
        unfold fetch
        split
        · exact (read_keepsFlow ..).toKeepsWiring
        · exact .refl a.card
      refine fetched.trans ?_
      unfold moveOn
      dsimp only
      split
      · exact finish_keepsWiring ..
      · exact ⟨rfl, rfl, rfl⟩

/-- **Only its owner rewires a card**: every operation but a change of handlers keeps the wiring. -/
theorem perform_keepsWiring (fs : Functions σ) (a : Attached σ) (op : Card.Operation)
    (wired : ∀ f handler, op ≠ .setHandler f handler) :
    a.card.KeepsWiring (a.perform fs op).2.card := by
  cases op with
  | command number argument => exact command_keepsWiring ..
  | writeData value => exact writeData_keepsWiring ..
  | readData => exact readData_keepsWiring ..
  | setFunctionIrq line level => exact (Card.setFunctionIrq_keepsFlow ..).toKeepsWiring
  | setHandler f handler => exact absurd rfl (wired f handler)
  | reset => exact ⟨rfl, rfl, rfl⟩

/-! ## A direct access keeps the data path -/

/-- A byte written to the card's own registers keeps the data path, unless it resets the card or
aborts the transfer that runs. -/
theorem writeCommonByte_keepsFlow (fs : Functions σ) (address : UInt32) (value : UInt8)
    (a : Attached σ)
    (noReset : (a.card.area.writeByte fs address.toNat value a.device).1 ≠ .reset)
    (noAbort : a.card.phase = .transfer →
      (a.card.area.writeByte fs address.toNat value a.device).1 ≠ .abort a.card.area.functionSelect) :
    a.card.KeepsFlow (a.writeCommonByte fs address value).card := by
  have kept := CommonArea.writeByte_keeps fs address.toNat value a.card.area a.device
  have stored := Card.keepsFlow_of_area (c := a.card) kept
  unfold writeCommonByte
  dsimp only
  generalize a.card.area.writeByte fs address.toNat value a.device = written at *
  refine stored.trans ?_
  cases asked : written.1 with
  | nothing => exact .refl _
  | interrupts => exact Card.updateIrq_keepsFlow _
  | busControl =>
    dsimp only [apply]
    split
    · exact Card.updateIrq_keepsFlow _
    · exact .refl _
  | reset => exact absurd asked noReset
  | abort f =>
    have apart : a.card.phase = .transfer → written.2.1.functionSelect ≠ f := by
      rintro running rfl
      exact noAbort running (kept.functionSelect ▸ asked)
    dsimp only [apply]
    rw [Card.abort_of_ne apart]
    exact .refl _

/-- The writing half of a direct access keeps the data path, with the same exceptions. -/
theorem directWrite_keepsFlow (fs : Functions σ) (q : DirectRequest) (a : Attached σ)
    (present : q.function ≤ a.card.functionCount) (noReset : ¬ q.Resets a.card)
    (noAbort : a.card.phase = .transfer → ¬ q.Aborts a.card a.card.area.functionSelect) :
    a.card.KeepsFlow (a.directWrite fs q).card := by
  unfold directWrite
  split
  next writes =>
    unfold write
    split
    next own =>
      unfold writeCommon
      split
      · exact .refl a.card
      · refine writeCommonByte_keepsFlow fs q.address q.value a ?_ ?_
        · intro asked
          obtain ⟨here, set⟩ := (CommonArea.writeByte_reset_iff ..).mp asked
          exact noReset ⟨⟨writes, present, own, here⟩, set⟩
        · intro running asked
          obtain ⟨here, clear⟩ := (CommonArea.writeByte_abort_iff ..).mp asked
          exact noAbort running ⟨⟨writes, present, own, here⟩, clear⟩
    · exact .refl a.card
    · exact .refl a.card
  · exact .refl a.card

theorem directRead_keepsFlow (fs : Functions σ) (q : DirectRequest) (a : Attached σ) :
    a.card.KeepsFlow (a.directRead fs q).card := by
  unfold directRead
  split
  · exact (read_keepsFlow fs q.function q.address 1 .incrementing a).trans
      ⟨⟨rfl, rfl, rfl⟩, rfl, rfl, rfl, rfl⟩
  · exact .refl a.card

/-- **A direct access keeps the data path**, unless it resets the card or aborts the transfer that
runs. -/
theorem direct_keepsFlow (fs : Functions σ) (q : DirectRequest) (a : Attached σ)
    (noReset : ¬ q.Resets a.card)
    (noAbort : a.card.phase = .transfer → ¬ q.Aborts a.card a.card.area.functionSelect) :
    a.card.KeepsFlow (a.direct fs q).card := by
  unfold direct
  dsimp only
  split
  · exact ⟨⟨rfl, rfl, rfl⟩, rfl, rfl, rfl, rfl⟩
  next present =>
    have noted : a.card.KeepsFlow { a.card with directData := q.value } :=
      ⟨⟨rfl, rfl, rfl⟩, rfl, rfl, rfl, rfl⟩
    exact noted.trans
      ((directWrite_keepsFlow fs q ⟨_, a.device⟩ (Fin.not_lt.mp present) noReset noAbort).trans
        (directRead_keepsFlow fs q _))

end Attached

end WlanCard
