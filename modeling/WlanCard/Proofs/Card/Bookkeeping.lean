import WlanCard.Proofs.Card.Argument
import WlanCard.Proofs.Card.DataPath
import WlanCard.Proofs.Card.Responses

/-!
# The books of a transfer

A card has a transfer exactly while its phase says so, and the transfer it has is in order
(`Transfer.InOrder`): the staging buffer is as long as a block, the position lies within the block, and
the blocks that are left can still be counted. It goes to a function that the card has, the one that the
registers name as selected. `Card.Bookkept` puts this together.

The functions, and the card's own registers, are reached in the middle of a data byte, and what is
written there may reset the card or abort its transfer. Either way the whole data path goes or nothing of
it does (`Card.KeepsOrStops`), and the byte is booked only if it is still there (`flush_bookkept`).
`perform_bookkept` is the step over all operations.
-/

namespace WlanCard

/-! ## Transfers in order -/

namespace Transfer

/-- A transfer between two bytes: its sizes agree, and there is something left of it. -/
structure InOrder (t : Transfer) : Prop where
  blockLength_pos : 1 ≤ t.blockLength
  blockLength_le : t.blockLength ≤ maxBlockLength
  size : t.staging.size = t.blockLength
  offset : t.offset < t.blockLength
  blocks : ∀ count, t.blocks = .finite count → 1 ≤ count ∧ count ≤ 512

/-- **One byte further** a transfer is in order again, unless that was the last byte. -/
theorem InOrder.next {t next : Transfer} {staging : Array UInt8} (order : t.InOrder)
    (size : staging.size = t.blockLength)
    (further : { t with offset := t.offset + 1, staging := staging }.next? = some next) :
    next.InOrder ∧ next.function = t.function := by
  let passed : Transfer := { t with offset := t.offset + 1, staging := staging }
  change passed.next? = some next at further
  unfold next? at further
  split at further
  · split at further
    · cases further
    next more =>
      cases counted : t.blocks with
      | infinite =>
        have left : passed.finishBlock.2 = passed.nextBlock := by
          simp only [finishBlock, passed, counted]
        rw [left] at further
        cases further
        exact ⟨⟨order.blockLength_pos, order.blockLength_le, size, order.blockLength_pos,
          fun count finite => order.blocks count finite⟩, rfl⟩
      | finite count =>
        have some : count - 1 ≠ 0 := by
          intro last
          simp only [finishBlock, passed, counted, last, ↓reduceIte, not_true_eq_false] at more
        have left : passed.finishBlock.2 = { passed with blocks := .finite (count - 1) }.nextBlock := by
          simp only [finishBlock, passed, counted, some, ↓reduceIte]
        have bounds := order.blocks count counted
        rw [left] at further
        cases further
        refine ⟨⟨order.blockLength_pos, order.blockLength_le, size, order.blockLength_pos, ?_⟩, rfl⟩
        rintro _ ⟨⟩
        omega
  next room =>
    obtain rfl : passed = next := Option.some.inj further
    have within : t.offset + 1 < t.blockLength := by
      simpa only [passed, blockDone, decide_eq_true_eq, Nat.not_le] using room
    exact ⟨⟨order.blockLength_pos, order.blockLength_le, size, within, order.blocks⟩, rfl⟩

end Transfer

/-- A request that an argument makes counts less than 512. -/
theorem Command.count_extendedArgument (argument : UInt32) :
    (extendedArgument argument).count < 512 := by
  have field := ArgumentField.count.toNat_get argument 0 9 rfl rfl
  show (ArgumentField.count.get argument).toNat < 512
  omega

/-- So the transfer that it asks for is in order, in blocks of a usable length. -/
theorem Card.transferFor_inOrder {q : ExtendedRequest} (counts : q.count < 512) {length : Nat}
    (usable : 1 ≤ length ∧ length ≤ Transfer.maxBlockLength) :
    (Card.transferFor q length).InOrder where
  blockLength_pos := usable.1
  blockLength_le := usable.2
  size := Array.size_replicate
  offset := usable.1
  blocks := by
    intro count finite
    change q.blocks = .finite count at finite
    unfold ExtendedRequest.blocks at finite
    split at finite
    · split at finite
      · cases finite
      · cases finite
        decide
    · cases finite
      omega

/-! ## Cards with a transfer -/

namespace Card

/-- The books of a card agree: it has a transfer exactly while one runs, and that transfer is in order,
on the selected function, which the card has. -/
structure Bookkept (c : Card) : Prop where
  running : c.transfer.isSome = true ↔ c.phase = .transfer
  inOrder : ∀ t, c.transfer = some t → t.InOrder
  present : ∀ t, c.transfer = some t → t.function ≤ c.functionCount
  selected : ∀ t, c.transfer = some t → c.area.functionSelect = t.function

variable {c d : Card} {t : Transfer}

theorem bookkept_of_idle (idle : c.phase ≠ .transfer) (none : c.transfer = none) : c.Bookkept := by
  have no : ∀ t, c.transfer ≠ some t := fun t some => Option.some_ne_none t (some.symm.trans none)
  refine ⟨?_, fun t some => absurd some (no t), fun t some => absurd some (no t),
    fun t some => absurd some (no t)⟩
  rw [none]
  exact iff_of_false nofun idle

theorem bookkept_of_transfer (running : c.phase = .transfer) (held : c.transfer = some t)
    (order : t.InOrder) (present : t.function ≤ c.functionCount)
    (selected : c.area.functionSelect = t.function) : c.Bookkept := by
  have only : ∀ u, c.transfer = some u → u = t := fun u some => by
    rw [held] at some
    exact (Option.some.inj some).symm
  refine ⟨?_, fun u some => only u some ▸ order, fun u some => only u some ▸ present,
    fun u some => only u some ▸ selected⟩
  rw [held]
  exact iff_of_true rfl running

/-- The books speak of nothing else. -/
theorem Bookkept.of_eq (kept : c.Bookkept) (phase : d.phase = c.phase)
    (transfer : d.transfer = c.transfer) (functionSelect : d.area.functionSelect = c.area.functionSelect)
    (conditions : d.conditions = c.conditions) : d.Bookkept where
  running := by
    rw [transfer, phase]
    exact kept.running
  inOrder t held := kept.inOrder t (transfer ▸ held)
  present t held := by
    unfold functionCount
    rw [conditions]
    exact kept.present t (transfer ▸ held)
  selected t held := functionSelect.trans (kept.selected t (transfer ▸ held))

theorem Bookkept.of_keepsFlow (kept : c.Bookkept) (flow : c.KeepsFlow d) : d.Bookkept :=
  kept.of_eq flow.phase flow.transfer flow.functionSelect flow.conditions

theorem Bookkept.transfer_eq_none (kept : c.Bookkept) (idle : c.phase ≠ .transfer) :
    c.transfer = none :=
  Option.not_isSome_iff_eq_none.mp (mt kept.running.mp idle)

theorem endTransfer_transfer (c : Card) : c.endTransfer.transfer = none := by
  unfold endTransfer
  split <;> rfl

theorem endTransfer_bookkept (c : Card) : c.endTransfer.Bookkept :=
  bookkept_of_idle (by rw [endTransfer_phase]; nofun) c.endTransfer_transfer

/-- Data flows through the transfer that the card has. -/
theorem transfer_of_openDataPath (flowing : c.openDataPath? = some t) : c.transfer = some t := by
  unfold openDataPath? at flowing
  split at flowing
  · exact flowing
  · cases flowing

/-- **A byte is booked** on a card on which its transfer still runs. -/
theorem proceed_bookkept (running : c.phase = .transfer) (order : t.InOrder)
    (present : t.function ≤ c.functionCount) (selected : c.area.functionSelect = t.function)
    {staging : Array UInt8} (size : staging.size = t.blockLength) :
    (c.proceed { t with offset := t.offset + 1, staging := staging }).Bookkept := by
  unfold proceed
  split
  · exact endTransfer_bookkept c
  next next further =>
    obtain ⟨ordered, same⟩ := order.next size further
    exact bookkept_of_transfer running rfl ordered (same ▸ present) (selected.trans same.symm)

/-! ## What accesses leave -/

/-- The data path is as it was, or it is gone. -/
inductive KeepsOrStops (before after : Card) : Prop where
  | keeps (flow : before.KeepsFlow after)
  | stops (wiring : before.KeepsWiring after) (idle : after.phase ≠ .transfer)
    (none : after.transfer = none)

namespace KeepsOrStops

theorem refl (c : Card) : c.KeepsOrStops c := .keeps (.refl c)

theorem trans {a b c : Card} (first : a.KeepsOrStops b) (second : b.KeepsOrStops c) :
    a.KeepsOrStops c := by
  cases second with
  | stops wiring idle none =>
    cases first with
    | keeps flow => exact .stops (flow.toKeepsWiring.trans wiring) idle none
    | stops before _ _ => exact .stops (before.trans wiring) idle none
  | keeps later =>
    cases first with
    | keeps flow => exact .keeps (flow.trans later)
    | stops wiring idle none =>
      exact .stops (wiring.trans later.toKeepsWiring) (fun running => idle (later.phase ▸ running))
        (later.transfer.trans none)

theorem bookkept (left : c.KeepsOrStops d) (kept : c.Bookkept) : d.Bookkept := by
  cases left with
  | keeps flow => exact kept.of_keepsFlow flow
  | stops _ idle none => exact bookkept_of_idle idle none

/-- Where the transfer still runs, nothing has happened to it. -/
theorem keepsFlow (left : c.KeepsOrStops d) (running : d.phase = .transfer) : c.KeepsFlow d := by
  cases left with
  | keeps flow => exact flow
  | stops _ idle _ => exact absurd running idle

end KeepsOrStops

end Card

namespace Attached

variable {σ : Type} {a : Attached σ}

theorem apply_keepsOrStops (fs : Functions σ) (effect : CommonArea.Effect) (a : Attached σ) :
    a.card.KeepsOrStops (a.apply fs effect).card := by
  cases effect with
  | nothing => exact .refl a.card
  | interrupts => exact .keeps a.card.updateIrq_keepsFlow
  | busControl =>
    unfold apply
    dsimp only
    split
    · exact .keeps a.card.updateIrq_keepsFlow
    · exact .refl a.card
  | reset => exact .stops ⟨rfl, rfl, rfl⟩ nofun rfl
  | abort f =>
    show a.card.KeepsOrStops (a.card.abort f)
    unfold Card.abort
    split
    · exact .stops a.card.endTransfer_keepsWiring (by rw [Card.endTransfer_phase]; nofun)
        a.card.endTransfer_transfer
    · exact .refl a.card

theorem writeCommonByte_keepsOrStops (fs : Functions σ) (address : UInt32) (value : UInt8)
    (a : Attached σ) : a.card.KeepsOrStops (a.writeCommonByte fs address value).card := by
  have kept := CommonArea.writeByte_keeps fs address.toNat value a.card.area a.device
  let answer := a.card.area.writeByte fs address.toNat value a.device
  have stored : a.card.KeepsOrStops { a.card with area := answer.2.1 } :=
    .keeps (Card.keepsFlow_of_area kept)
  exact stored.trans (apply_keepsOrStops fs answer.1 ⟨_, answer.2.2⟩)

theorem writeCommon_keepsOrStops (fs : Functions σ) (how : Addressing) (address : UInt32)
    (bytes : List UInt8) (a : Attached σ) :
    a.card.KeepsOrStops (a.writeCommon fs how address bytes).card := by
  induction bytes generalizing address a with
  | nil => exact .refl a.card
  | cons value rest ih =>
    unfold writeCommon
    split
    · exact .refl a.card
    · exact (writeCommonByte_keepsOrStops fs address value a).trans (ih ..)

/-- **A write access** leaves the data path as it was, or stops it. -/
theorem write_keepsOrStops (fs : Functions σ) (f : FunctionNumber) (address : UInt32)
    (bytes : List UInt8) (how : Addressing) (a : Attached σ) :
    a.card.KeepsOrStops (a.write fs f address bytes how).card := by
  unfold write
  split
  · exact writeCommon_keepsOrStops ..
  · exact .refl a.card
  · exact .refl a.card

/-! ## Data -/

/-- The block that is fetched has the length of a block, and no card changes its data path for it. -/
theorem fetch_staging (fs : Functions σ) {t : Transfer} (size : t.staging.size = t.blockLength)
    (a : Attached σ) :
    ∃ staging : Array UInt8, staging.size = t.blockLength ∧
      (a.fetch fs t).1 = { t with staging := staging } ∧ a.card.KeepsFlow (a.fetch fs t).2.card := by
  unfold fetch
  split
  · refine ⟨_, ?_, rfl, read_keepsFlow ..⟩
    rw [List.size_toArray, length_read]
  · exact ⟨t.staging, size, rfl, .refl a.card⟩

theorem readData_bookkept (fs : Functions σ) (kept : a.card.Bookkept) :
    (a.readData fs).2.card.Bookkept := by
  unfold readData
  split
  · exact kept
  next t flowing =>
    split
    · exact kept
    · have held := Card.transfer_of_openDataPath flowing
      have order := kept.inOrder t held
      obtain ⟨staging, size, fetched, flow⟩ := fetch_staging fs order.size a
      have present : t.function ≤ (a.fetch fs t).2.card.functionCount := by
        rw [flow.functionCount]
        exact kept.present t held
      dsimp only
      rw [fetched, moveOn_eq]
      exact Card.proceed_bookkept (flow.phase.trans (Card.phase_of_openDataPath flowing)) order present
        (flow.functionSelect.trans (kept.selected t held)) size

/-- **A block handed over** is booked if its transfer still runs then, whatever the write has done. -/
theorem flush_bookkept (fs : Functions σ) {t : Transfer} (kept : a.card.Bookkept)
    (held : a.card.transfer = some t) (value : UInt8) (full : (t.put value).blockDone = true) :
    (a.flush fs (t.put value)).card.Bookkept := by
  let u := t.put value
  have left := write_keepsOrStops fs u.function u.start u.staging.toList u.addressing a
  unfold flush
  generalize a.write fs u.function u.start u.staging.toList u.addressing = written at *
  dsimp only
  split
  next running =>
    have flow := left.keepsFlow running
    have order := kept.inOrder t held
    have size : u.staging.size = t.blockLength := by
      rw [← order.size]
      exact Array.size_setIfInBounds
    have present : t.function ≤ written.card.functionCount := by
      rw [flow.functionCount]
      exact kept.present t held
    rw [finish_eq written full]
    exact Card.proceed_bookkept running order present
      (flow.functionSelect.trans (kept.selected t held)) size
  · exact left.bookkept kept

theorem writeData_bookkept (fs : Functions σ) (value : UInt8) (kept : a.card.Bookkept) :
    (a.writeData fs value).card.Bookkept := by
  unfold writeData
  split
  · exact kept
  next t flowing =>
    split
    · exact kept
    · have held := Card.transfer_of_openDataPath flowing
      have order := kept.inOrder t held
      dsimp only
      split
      next full => exact flush_bookkept fs kept held value full
      next room =>
        have size : (t.put value).staging.size = t.blockLength := by
          rw [← order.size]
          exact Array.size_setIfInBounds
        have stays : (a.card.proceed (t.put value)).Bookkept :=
          Card.proceed_bookkept (Card.phase_of_openDataPath flowing) order (kept.present t held)
            (kept.selected t held) size
        rwa [Card.proceed_of_room _ (Bool.eq_false_iff.mpr room)] at stays

/-! ## Commands -/

theorem direct_bookkept (fs : Functions σ) (q : DirectRequest) (kept : a.card.Bookkept) :
    (a.direct fs q).card.Bookkept := by
  by_cases missing : a.card.functionCount < q.function
  · rw [direct_of_missing fs missing]
    exact kept.of_eq rfl rfl rfl rfl
  · let noted : Attached σ := { a with card.directData := q.value }
    have before : noted.card.Bookkept := kept.of_eq rfl rfl rfl rfl
    have written : noted.card.KeepsOrStops (noted.directWrite fs q).card := by
      unfold directWrite
      split
      · exact write_keepsOrStops ..
      · exact .refl noted.card
    rw [direct_of_present fs missing]
    exact (written.bookkept before).of_keepsFlow (directRead_keepsFlow fs q _)

/-- An extended command that is carried out finds no transfer, and opens one that is in order. -/
theorem openTransfer_bookkept {c : Card} (kept : c.Bookkept) (idle : c.phase ≠ .transfer)
    {q : ExtendedRequest} (counts : q.count < 512) : (c.openTransfer q).2.Bookkept := by
  have none := kept.transfer_eq_none idle
  by_cases opens : c.Opens q
  · rw [Card.openTransfer_of_opens opens]
    exact Card.bookkept_of_transfer rfl rfl (Card.transferFor_inOrder counts opens.2) opens.1 rfl
  · have phase := Card.openTransfer_phase opens
    refine Card.bookkept_of_idle (phase ▸ idle) ?_
    unfold Card.openTransfer at phase ⊢
    dsimp only at phase ⊢
    split
    · exact none
    next present =>
      rw [if_neg present] at phase
      split at phase
      · exact none
      · exact absurd phase.symm idle

theorem carryOut_bookkept (fs : Functions σ) (kept : a.card.Bookkept) {command : Command}
    (accepted : a.refusal command = none) (counts : ∀ q, command = .extended q → q.count < 512) :
    (a.carryOut fs command).2.card.Bookkept := by
  by_cases running : a.card.phase = .transfer
  · rcases accepted_of_transfer running accepted with rfl | rfl | ⟨q, rfl⟩
    · exact kept
    · exact kept
    · exact direct_bookkept fs q kept
  · have none := kept.transfer_eq_none running
    cases command with
    | goIdle | crcSwitch | unknown => exact kept
    | sendRelativeAddress => exact Card.bookkept_of_idle (by rintro ⟨⟩) none
    | sendOperatingConditions conditions =>
      simp only [carryOut, Card.agree]
      split
      · exact kept
      · exact Card.bookkept_of_idle running none
    | select address =>
      simp only [carryOut, Card.select]
      split <;> split
      · exact Card.bookkept_of_idle (by rintro ⟨⟩) none
      · exact kept
      · exact kept
      · exact Card.bookkept_of_idle (by rintro ⟨⟩) none
    | goInactive address =>
      simp only [carryOut, Card.goInactive]
      split
      · exact Card.bookkept_of_idle (by rintro ⟨⟩) none
      · exact kept
    | direct q => exact direct_bookkept fs q kept
    | extended q => exact openTransfer_bookkept kept running (counts q rfl)

/-- Only the number 53 asks for a transfer, and its argument counts less than 512. -/
theorem count_of_ofWire {number : UInt8} {argument : UInt32} {q : ExtendedRequest}
    (named : Command.ofWire number argument = .extended q) : q.count < 512 := by
  unfold Command.ofWire at named
  split at named <;> cases named
  exact Command.count_extendedArgument argument

theorem command_bookkept (fs : Functions σ) (number : UInt8) (argument : UInt32)
    (kept : a.card.Bookkept) : (a.command fs number argument).2.card.Bookkept := by
  let command := Command.ofWire number argument
  have prepared : (a.prepare number command).card.Bookkept := by
    simp only [prepare, noteCommand]
    split <;> exact kept.of_eq rfl rfl rfl rfl
  have executed : (a.execute fs number argument).2.card.Bookkept := by
    cases refused : a.refusal command with
    | none =>
      rw [execute_of_accepted fs rfl refused]
      exact carryOut_bookkept fs prepared ((refusal_prepare ..).trans refused)
        fun q named => count_of_ofWire named
    | some why =>
      rw [execute_of_refused fs rfl refused]
      exact prepared.of_eq rfl rfl rfl rfl
  exact executed.of_eq rfl rfl rfl rfl

/-! ## Every operation -/

/-- **Every operation keeps the books.** -/
theorem perform_bookkept (fs : Functions σ) (op : Card.Operation) (kept : a.card.Bookkept) :
    (a.perform fs op).2.card.Bookkept := by
  cases op with
  | command number argument => exact command_bookkept fs number argument kept
  | writeData value => exact writeData_bookkept fs value kept
  | readData => exact readData_bookkept fs kept
  | setFunctionIrq line level => exact kept.of_keepsFlow (a.card.setFunctionIrq_keepsFlow line level)
  | setHandler f handler =>
    show (a.card.setHandler f handler).Bookkept
    unfold Card.setHandler
    split
    · exact kept
    · exact kept.of_eq rfl rfl rfl rfl
  | reset => exact Card.bookkept_of_idle nofun rfl

theorem new_bookkept (model : CardModel) : (Card.new model).Bookkept :=
  Card.bookkept_of_idle nofun rfl

theorem run_bookkept (fs : Functions σ) (ops : List Card.Operation) (kept : a.card.Bookkept) :
    (a.run fs ops).card.Bookkept := by
  induction ops generalizing a with
  | nil => exact kept
  | cons op ops ih => exact ih (perform_bookkept fs op kept)

/-- **The books of every run agree.** Whatever functions stand behind a new card and whatever is done to
it, it has a transfer exactly while its phase says that one runs. The transfer has blocks of 1 to 2048
bytes, a staging buffer of just that length and a position within it, between 1 and 512 blocks left if
they are counted at all, addresses that move by one or not at all, and a function that the operating
conditions tell of. The registers name that function as the selected one, so that an abort finds the
transfer exactly if it asks for its function. -/
theorem transfer_books_agree (fs : Functions σ) (model : CardModel) (s : σ)
    (ops : List Card.Operation) :
    let start : Attached σ := ⟨Card.new model, s⟩
    let now := (start.run fs ops).card
    (now.transfer.isSome = true ↔ now.phase = .transfer) ∧
      ∀ t, now.transfer = some t →
        (1 ≤ t.blockLength ∧ t.blockLength ≤ 2048) ∧
        t.staging.size = t.blockLength ∧ t.offset < t.blockLength ∧
        (∀ count, t.blocks = .finite count → 1 ≤ count ∧ count ≤ 512) ∧
        (t.addressing.stride = 0 ∨ t.addressing.stride = 1) ∧
        t.function ≤ Card.functionCountOf model.conditions ∧
        now.area.functionSelect = t.function ∧
        ∀ f, now.canAbort f = true ↔ f = t.function := by
  intro start now
  have kept : now.Bookkept := run_bookkept fs ops (a := start) (new_bookkept model)
  refine ⟨kept.running, fun t held => ?_⟩
  have order := kept.inOrder t held
  have selected := kept.selected t held
  have running : now.phase = .transfer := kept.running.mp (by rw [held]; rfl)
  have stride : t.addressing.stride = 0 ∨ t.addressing.stride = 1 := by
    cases t.addressing with
    | fixed => exact .inl rfl
    | incrementing => exact .inr rfl
  have present : t.function ≤ Card.functionCountOf model.conditions := by
    rw [show model.conditions = now.conditions from (run_conditions fs ops start).symm]
    exact kept.present t held
  have native : now.mode = .native := (run_enumerated fs model s ops).native_of_open (.inr running)
  have aborts : ∀ f, now.canAbort f = true ↔ f = t.function := by
    intro f
    simp only [Card.canAbort, running, native, selected, BEq.rfl, Bool.true_and, Bool.and_true,
      beq_iff_eq]
    exact eq_comm
  exact ⟨⟨order.blockLength_pos, order.blockLength_le⟩, order.size, order.offset, order.blocks, stride,
    present, selected, aborts⟩

/-- The host opens a transfer of two blocks of two bytes to function 1, and writes one byte. -/
def blockBegun : List Card.Operation :=
  [.setHandler 1 .attached, .command 5 0x10fe0000, .command 3 0, .command 7 0x45670000,
    .command 52 0x80022002, .command 53 0x9c000002, .writeData 0xa5]

theorem transfer_books_agree_begun :
    let now := (Attached.run .numbered blockBegun ⟨Card.new plainModel, ()⟩).card
    ∃ t, now.transfer = some t ∧ t.offset < t.blockLength ∧ t.staging.size = t.blockLength ∧
      (t.blocks = .finite 2 ∧ 2 ≤ 512) ∧ now.canAbort 1 = true := by
  obtain ⟨running, agree⟩ := transfer_books_agree .numbered plainModel () blockBegun
  obtain ⟨t, held⟩ := Option.isSome_iff_exists.mp (running.mpr (by decide +kernel))
  obtain ⟨-, size, offset, counted, -, -, selected, aborts⟩ := agree t held
  have function : (1 : FunctionNumber) = t.function := selected ▸ (by decide +kernel)
  have blocks : t.blocks = .finite 2 := by
    have two : ((Attached.run .numbered blockBegun ⟨Card.new plainModel, ()⟩).card.transfer.map
        (·.blocks)) = some (.finite 2) := by decide +kernel
    rw [held] at two
    exact Option.some.inj two
  exact ⟨t, held, offset, size, ⟨blocks, (counted 2 blocks).2⟩, (aborts 1).mpr function⟩

end Attached

end WlanCard
