import WlanCard.Proofs.Card.Opening
import WlanCard.Proofs.Card.ReadTransfer
import WlanCard.Proofs.Card.WriteTransfer

/-!
# Aborting a transfer

A byte written to the abort register, without the bit that asks for a reset, ends the transfer that it
names, or it changes nothing but what the card reports (`command_aborted`). Which of the two it does
depends on the function of the transfer that runs; function 0 cannot be named (`Card.aborted_eq`).

An aborted transfer leaves nothing behind: the card is what it would be after the abort of any other
transfer, whatever was staged, and the transfer opened next moves the bytes of its own request
(`Attached.MovesOwn`). Where the abort names another function, everything goes on as if it had not been
written (`abort_hits_addressed_transfer`).
-/

namespace WlanCard

/-! ## The abort register -/

namespace Card

/-- The card after a byte without the reset bit has been written to its abort register. -/
def aborted (value : UInt8) (c : Card) : Card :=
  if value &&& CommonArea.abortMask = 0 then c else c.abort (.ofBits value)

theorem aborted_relabel (r : Relabelling) (value : UInt8) (c : Card) :
    (c.relabel r).aborted value = (c.aborted value).relabel r := by
  unfold aborted
  split
  · rfl
  · exact abort_relabel r c _

theorem aborted_keepsWiring (c : Card) (value : UInt8) : c.KeepsWiring (c.aborted value) := by
  unfold aborted
  split
  · exact .refl c
  · exact c.abort_keepsWiring _

/-- A byte names function 0 exactly if it has none of the bits that name one. -/
theorem abortMask_eq_zero_iff (value : UInt8) :
    value &&& CommonArea.abortMask = 0 ↔ value.toNat % 8 = 0 := by
  have digit : (value &&& CommonArea.abortMask).toNat = value.toNat % 2 ^ 3 := by
    rw [UInt8.toNat_and]
    exact Nat.and_two_pow_sub_one_eq_mod value.toNat 3
  rw [← UInt8.toNat_inj, digit]
  rfl

/-- A byte written to the abort register hits the transfer that runs. -/
def Hits (c : Card) (value : UInt8) : Prop :=
  value &&& CommonArea.abortMask ≠ 0 ∧ c.canAbort (.ofBits value) = true

instance (c : Card) (value : UInt8) : Decidable (c.Hits value) :=
  inferInstanceAs (Decidable (_ ∧ _))

/-- **An abort** ends the transfer that it hits, and does nothing else. -/
theorem aborted_eq (c : Card) (value : UInt8) :
    c.aborted value = if c.Hits value then c.endTransfer else c := by
  unfold aborted abort
  by_cases zero : value &&& CommonArea.abortMask = 0
  · have missed : ¬ c.Hits value := fun hits => hits.1 zero
    rw [if_pos zero, if_neg missed]
  · rw [if_neg zero]
    exact if_congr (and_iff_right zero).symm rfl rfl

/-- It hits the transfer whose function it names, and no transfer of function 0. -/
theorem hits_iff {c : Card} {t : Transfer} (kept : c.Bookkept) (native : c.mode = .native)
    (held : c.transfer = some t) (value : UInt8) :
    c.Hits value ↔ value.toNat % 8 = t.function.val ∧ t.function ≠ 0 := by
  have running : c.phase = .transfer := kept.running.mp (by rw [held]; rfl)
  have selected := kept.selected t held
  have named : c.canAbort (.ofBits value) = true ↔ value.toNat % 8 = t.function.val := by
    simp only [canAbort, running, native, selected, BEq.rfl, Bool.true_and, Bool.and_true, beq_iff_eq]
    rw [eq_comm, ← Fin.val_inj]
    rfl
  unfold Hits
  rw [named, ne_eq, abortMask_eq_zero_iff, and_comm]
  refine and_congr_right fun same => not_congr ?_
  rw [same]
  exact Fin.val_inj (b := 0)

/-- What an aborted transfer was leaves no trace. -/
theorem aborted_setTransfer {c : Card} {value : UInt8} (hits : c.Hits value) (other : Option Transfer) :
    ({ c with transfer := other } : Card).aborted value = c.aborted value := by
  have ended : ({ c with transfer := other } : Card).endTransfer = c.endTransfer := by
    unfold endTransfer
    split <;> rfl
  have hits' : ({ c with transfer := other } : Card).Hits value := hits
  rw [aborted_eq, aborted_eq, if_pos hits, if_pos hits', ended]

/-- The labels of a card whose next response brings a byte and tells nothing else. -/
def bringing (byte : UInt8) : Relabelling where
  status _ := .powerOn
  number := id
  data _ := byte

end Card

namespace Attached

variable {σ : Type} {a : Attached σ}

theorem writeCommonByte_aborted (fs : Functions σ) {address : UInt32}
    (here : address.toNat = CommonRegister.ioAbort.offset) {value : UInt8}
    (clear : value &&& CommonArea.resetBit = 0) (a : Attached σ) :
    a.writeCommonByte fs address value = { a with card := a.card.aborted value } := by
  let effect : CommonArea.Effect :=
    if value &&& CommonArea.abortMask = 0 then .nothing else .abort (.ofBits value)
  have written : a.card.area.writeByte fs CommonRegister.ioAbort.offset value a.device =
      (effect, a.card.area, a.device) := by
    have asked := CommonArea.writeByte_ioAbort fs value a.card.area a.device
    have area := CommonArea.writeByte_ioAbort_area fs value a.card.area a.device
    rw [clear] at asked
    refine Prod.ext (asked.trans ?_) (Prod.ext area rfl)
    simp only [effect, bne_self_eq_false, Bool.false_eq_true, ↓reduceIte, bne_iff_ne, ne_eq, ite_not]
  unfold writeCommonByte Card.aborted
  rw [here, written]
  dsimp only [effect]
  split <;> rfl

/-- A direct access during a transfer keeps the number of the last command. -/
theorem noteCommand_running {c : Card} (running : c.phase = .transfer) (number : UInt8)
    (q : DirectRequest) : noteCommand number (.direct q) c = c := by
  unfold noteCommand
  rw [running]

/-- The card that a direct access finds during a transfer. -/
theorem asked_running (running : a.card.phase = .transfer) (regular : a.card.Regular)
    (q : DirectRequest) : a.asked q = a.relabel (Card.bringing q.value) := by
  unfold asked prepare
  dsimp only
  rw [noteCommand_running (by exact running)]
  exact congrArg (fun status => ({ a with
    card := { a.card with status := status, directData := q.value } } : Attached σ))
    regular.clear_status

/-- Such an access that writes to the abort register aborts. -/
theorem directWrite_aborted (fs : Functions σ) {q : DirectRequest}
    (running : a.card.phase = .transfer) (regular : a.card.Regular) (writes : q.WritesAbort a.card)
    (clear : q.value &&& CommonArea.resetBit = 0) :
    (a.asked q).directWrite fs q =
      { a with card := (a.card.aborted q.value).relabel (Card.bringing q.value) } := by
  obtain ⟨isWrite, -, own, here⟩ := writes
  have asked := asked_running running regular q
  have inside : ¬ CommonArea.registersEnd ≤ q.address.toNat := by rw [here]; decide
  have handler : (a.asked q).card.handlers.get q.function = .common := by
    rw [asked]
    exact own
  unfold directWrite
  rw [if_pos isWrite, write_own fs handler, CommonArea.placed, if_neg inside]
  refine (writeCommonByte_aborted fs here clear (a.asked q)).trans ?_
  rw [asked, ← Card.aborted_relabel]
  rfl

/-- What it answers is the byte that it has written, or, if it reads that back, the zero that the abort
register reads as. -/
theorem directDone_aborted (fs : Functions σ) {argument : UInt32}
    (running : a.card.phase = .transfer) (regular : a.card.Regular)
    (writes : (Command.directArgument argument).WritesAbort a.card)
    (clear : (Command.directArgument argument).value &&& CommonArea.resetBit = 0) :
    let q := Command.directArgument argument
    a.directDone fs argument =
      { a with
        card :=
          (a.card.aborted q.value).relabel (Card.bringing (if q.readBack then 0 else q.value)) } := by
  intro q
  have written := directWrite_aborted fs running regular writes clear
  obtain ⟨isWrite, present, own, here⟩ := writes
  have handler : ((a.card.aborted q.value).relabel (Card.bringing q.value)).handlers.get q.function =
      .common := by
    show (a.card.aborted q.value).handlers.get q.function = .common
    rw [(a.card.aborted_keepsWiring q.value).handlers]
    exact own
  rw [directDone_of_present fs (Fin.not_lt.mpr present), written]
  unfold directRead readsBack read
  rw [handler, here, isWrite]
  cases q.readBack <;> rfl

/-- **A byte written to the abort register**, without the reset bit, during a transfer: the response
tells the phase after it, and no function is called. -/
theorem command_aborted (fs : Functions σ) {argument : UInt32} (running : a.card.phase = .transfer)
    (regular : a.card.Regular) (writes : (Command.directArgument argument).WritesAbort a.card)
    (clear : (Command.directArgument argument).value &&& CommonArea.resetBit = 0) :
    let q := Command.directArgument argument
    let left := a.card.aborted q.value
    let data := if q.readBack then 0 else q.value
    a.command fs Card.directNumber argument =
      (⟨.r5, [0x00, 0x00, left.phase.code <<< 4, data]⟩,
        { a with card := { left with status := .powerOn, directData := data } }) := by
  intro q left data
  have native : left.mode = .native :=
    (a.card.aborted_keepsWiring q.value).mode.trans (regular.native (.inr running))
  have executed : a.execute fs Card.directNumber argument = (.r5, a.directDone fs argument) := by
    rw [execute_of_accepted fs (ofWire_directNumber argument)
      ((refusal_direct_iff _).mpr (.inr running))]
    rfl
  rw [directDone_aborted fs running regular writes clear] at executed
  rw [command_of_executed false executed regular.status rfl fun _ => native]
  dsimp only
  rw [Response.expected_r5 left.phase ?_ UInt8.or_zero]
  · rfl
  · rfl

end Attached

/-! ## Handlers of function 0 -/

namespace Card

theorem setHandler_zero (c : Card) (f : FunctionNumber) (handler : Handler) :
    (c.setHandler f handler).handlers.get 0 = c.handlers.get 0 := by
  unfold setHandler
  split
  · rfl
  next other =>
    have apart : f.val ≠ 0 := fun same => other (Fin.val_inj.mp same)
    exact Vector.getElem_setIfInBounds_ne _ apart

end Card

namespace Attached

open Card

variable {σ : Type} {fs : Functions σ} {a : Attached σ}

/-- **Function 0** stays the card's own registers. -/
theorem run_ownZero (fs : Functions σ) (ops : List Operation)
    (own : a.card.handlers.get 0 = .common) : (a.run fs ops).card.handlers.get 0 = .common := by
  induction ops generalizing a with
  | nil => exact own
  | cons op ops ih =>
    refine ih ?_
    by_cases rewired : ∃ f handler, op = .setHandler f handler
    · obtain ⟨f, handler, rfl⟩ := rewired
      exact (a.card.setHandler_zero f handler).trans own
    · have wired : ∀ f handler, op ≠ .setHandler f handler := by
        rintro f handler rfl
        exact rewired ⟨f, handler, rfl⟩
      rw [(perform_keepsWiring fs a op wired).handlers]
      exact own

/-! ## The next transfer -/

/-- A card has just opened the transfer that a request asks for, and moves the bytes of that transfer
only: it starts at the address of the request with nothing staged, writes the blocks that the host sends
from now on, or reads and hands out the blocks asked for, one after the other. -/
structure MovesOwn (fs : Functions σ) (q : ExtendedRequest) (length : Nat) (a : Attached σ) : Prop where
  fresh : a.card.transfer = some (Card.transferFor q length)
  writes : q.direction = .write → a.card.handlers.get q.function = .attached →
    ∀ ops : List Operation, (∀ op ∈ ops, op.Spares a.card q.function) →
      (Event.dataExchanges (a.trace fs ops)).map (·.access) =
        q.writes length (Operation.bytesWritten ops)
  reads : q.direction = .read → a.card.handlers.get q.function = .attached →
    ∀ ops : List Operation, (∀ op ∈ ops, op.Spares a.card q.function) →
      let trace := a.trace fs ops
      let k := ops.count .readData
      let n := q.blocks.within length k
      (Event.dataExchanges trace).map (·.access) =
          (List.range ((n + length - 1) / length)).map (q.blockRead length) ∧
        Event.bytesRead trace = (Event.answered trace).take n ++ List.replicate (k - n) 0

/-- **A transfer that has been opened** moves its own bytes, whatever the card has done before. -/
theorem command_extended_movesOwn (fs : Functions σ) {argument : UInt32}
    (idle : a.card.phase = .command) (opens : a.card.Opens (Command.extendedArgument argument)) :
    (a.command fs extendedNumber argument).2.MovesOwn fs (Command.extendedArgument argument)
      (a.card.blockLengthFor (Command.extendedArgument argument)) := by
  let q := Command.extendedArgument argument
  let length := a.card.blockLengthFor q
  have flows := command_extended_opens fs argument idle opens
  have pos : 0 < length := opens.2.1
  have left := q.not_exhausted_zero pos
  have place := Transfer.standsAt_new q length
  refine ⟨flows.transfer, fun direction bound ops spares => ?_, fun direction bound ops spares => ?_⟩
  · have start : (a.command fs extendedNumber argument).2.card.Delivers q length [] :=
      ⟨.inr ⟨left, _, flows, place, HoldsTail.nil⟩, (q.writes_nil length).symm⟩
    have done : ((a.command fs extendedNumber argument).2.run fs ops).card.Delivers q length
        ((a.command fs extendedNumber argument).2.trace fs ops) :=
      run_spared (fun log c => c.Delivers q length log)
      (fun _ _ _ bound spares delivers => delivers_perform delivers pos direction bound spares)
      (.refl _) bound spares start
    have sent : Event.bytesWritten ((a.command fs extendedNumber argument).2.trace fs ops) =
        Operation.bytesWritten ops := by
      rw [Event.bytesWritten, map_operation_trace]
    rw [done.writes, sent]
  · intro trace k n
    have start : (a.command fs extendedNumber argument).2.card.HandsOut q length [] := by
      refine ⟨.inr ⟨left, _, flows, place, ?_⟩, rfl, rfl, ?_⟩
      · exact (if_pos (Nat.zero_mod length)).symm
      · have none : q.blocks.within length (Event.bytesRead []).length = 0 :=
          q.blocks.within_zero length
        rw [none]
        rfl
    have done : ((a.command fs extendedNumber argument).2.run fs ops).card.HandsOut q length trace :=
      run_spared (fun log c => c.HandsOut q length log)
      (fun _ _ _ bound spares hands => handsOut_perform hands pos direction bound spares)
      (.refl _) bound spares start
    obtain ⟨-, -, reads, bytes⟩ := done
    have count : (Event.bytesRead trace).length = k := length_bytesRead_trace fs ops _
    rw [count] at reads bytes
    exact ⟨reads.trans (q.flatMap_readsAt pos k), bytes⟩

/-! ## Aborts -/

/-- A write to the abort register of function 0 is one on every card that has its own registers
there. -/
theorem writesAbort_zero {q : DirectRequest} {c : Card} (common : c.handlers.get 0 = .common)
    (zero : q.function = 0) (isWrite : q.isWrite = true)
    (here : q.address.toNat = CommonRegister.ioAbort.offset) : q.WritesAbort c := by
  refine ⟨isWrite, ?_, ?_, here⟩
  · rw [zero]
    exact Fin.zero_le _
  · rw [zero]
    exact common

section Abort

variable {argument : UInt32}

/-- **An abort that hits** ends the transfer, and what the card is then does not depend on it. -/
theorem command_hits (fs : Functions σ) (running : a.card.phase = .transfer)
    (regular : a.card.Regular) (writes : (Command.directArgument argument).WritesAbort a.card)
    (clear : (Command.directArgument argument).value &&& CommonArea.resetBit = 0)
    (hits : a.card.Hits (Command.directArgument argument).value) :
    let done := a.command fs directNumber argument
    done.2.card.phase = .command ∧ done.2.card.transfer = none ∧
      ∀ other : Transfer,
        Attached.command fs directNumber argument { a with card.transfer := some other } = done := by
  intro done
  have eq : done = _ := command_aborted fs running regular writes clear
  have ended : a.card.aborted (Command.directArgument argument).value = a.card.endTransfer :=
    (aborted_eq ..).trans (if_pos hits)
  refine ⟨?_, ?_, fun other => ?_⟩
  · rw [eq]
    exact (congrArg Card.phase ended).trans a.card.endTransfer_phase
  · rw [eq]
    exact (congrArg Card.transfer ended).trans a.card.endTransfer_transfer
  · have other_eq := command_aborted fs (a := { a with card.transfer := some other }) running
      ⟨regular.status, regular.native⟩ writes clear
    refine other_eq.trans ?_
    dsimp only
    rw [aborted_setTransfer hits, eq]

/-- **An abort that misses** changes nothing but what the card reports. -/
theorem command_misses (fs : Functions σ) (running : a.card.phase = .transfer)
    (regular : a.card.Regular) (writes : (Command.directArgument argument).WritesAbort a.card)
    (clear : (Command.directArgument argument).value &&& CommonArea.resetBit = 0)
    (misses : ¬ a.card.Hits (Command.directArgument argument).value) :
    ∃ data, (a.command fs directNumber argument).2 = a.relabel (bringing data) := by
  have same : a.card.aborted (Command.directArgument argument).value = a.card :=
    (aborted_eq ..).trans (if_neg misses)
  rw [command_aborted fs running regular writes clear, same]
  exact ⟨_, rfl⟩

end Abort

/-- **An abort hits exactly the transfer that it names.** During any transfer, a byte without the reset
bit is written to the abort register. If it names the function of the transfer, and that is not
function 0, the card is in the command phase without a transfer when the command returns. What it is
then does not depend on the transfer that ran, so nothing that was staged is ever handed over. Data is
ignored until a command opens the next transfer, which moves its own bytes only. If the byte names
another function, or the transfer goes to function 0, the transfer is as it was, and everything goes on
as if the byte had not been written. No function is called either way. -/
theorem abort_hits_addressed_transfer (fs : Functions σ) (model : CardModel) (s : σ)
    (ops : List Operation) (argument : UInt32) :
    let now := Attached.run fs ops ⟨Card.new model, s⟩
    let q := Command.directArgument argument
    let done := now.command fs 52 argument
    now.card.phase = .transfer →
    q.isWrite = true → q.address.toNat = 0x06 →
    (q.function = 0 ∨
      q.function ≤ now.card.functionCount ∧ now.card.handlers.get q.function = .common) →
    q.value &&& 0x08 = 0 →
    ∃ t, now.card.transfer = some t ∧
      now.exchanges fs (.command 52 argument) = [] ∧ done.2.device = now.device ∧
      (q.value.toNat % 8 = t.function.val ∧ t.function ≠ 0 →
        done.2.card.phase = .command ∧ done.2.card.transfer = none ∧
        (∀ other : Transfer,
          Attached.command fs 52 argument { now with card.transfer := some other } = done) ∧
        ∀ later, (∀ turn ∈ done.2.history fs later, ¬ turn.Opens) →
          done.2.IgnoresData fs later ∧
          ∀ next,
            let left := done.2.run fs later
            let asked := Command.extendedArgument next
            left.card.phase = .command → left.card.Opens asked →
              (left.command fs 53 next).2.MovesOwn fs asked (left.card.blockLengthFor asked)) ∧
      (¬ (q.value.toNat % 8 = t.function.val ∧ t.function ≠ 0) →
        done.2.card.transfer = some t ∧ done.2.card.phase = .transfer ∧
        done.2.card.activeCommand = now.card.activeCommand ∧ done.2.card.area = now.card.area ∧
        ∀ later, done.2.trace fs later = now.trace fs later ∧
          (done.2.run fs later).unreported = (now.run fs later).unreported) := by
  intro now q done running writes here own clear
  have reached : now.Reached fs := run_reached fs model s ops
  have regular : now.card.Regular := reached.regular
  have native : now.card.mode = .native := regular.native (.inr running)
  have kept : now.card.Bookkept := run_bookkept fs ops (new_bookkept model)
  obtain ⟨t, held⟩ := Option.isSome_iff_exists.mp (kept.running.mpr running)
  have asks : q.WritesAbort now.card := by
    rcases own with zero | ⟨present, own⟩
    · exact writesAbort_zero (run_ownZero fs ops rfl) zero writes here
    · exact ⟨writes, present, own, here⟩
  have hits := hits_iff kept native held q.value
  have eq := command_aborted fs running regular asks clear
  have noted := command_aborted fs.observed (a := now.watched) running regular asks clear
  refine ⟨t, held, congrArg (·.2.device.2) noted, congrArg (·.2.device) eq, fun named => ?_,
    fun spared => ?_⟩
  · obtain ⟨phase, none, other⟩ :=
      command_hits fs running regular asks clear (hits.mpr named)
    refine ⟨phase, none, other, fun later closed => ⟨?_, fun next idle opens => ?_⟩⟩
    · have idle : done.2.card.phase ≠ .transfer := fun running => nomatch phase.symm.trans running
      exact ignoresData_of_idle fs closed idle
    · exact command_extended_movesOwn fs idle opens
  · obtain ⟨data, left⟩ : ∃ data, done.2 = now.relabel (bringing data) :=
      command_misses fs running regular asks clear (mt hits.mp spared)
    have after : done.2.Reached fs := reached.perform (.command 52 argument)
    rw [left] at after ⊢
    exact ⟨held, running, rfl, rfl, trace_unreported after reached rfl⟩

/-- With one byte of a block staged for function 1, the host aborts function 1 and, instead, function 2. -/
theorem abort_hits_addressed_transfer_begun :
    let now := Attached.run .numbered blockBegun ⟨Card.new plainModel, ()⟩
    now.card.phase = .transfer ∧
      (now.command .numbered 52 0x80000c01).2.card.transfer = none ∧
      (now.command .numbered 52 0x80000c01).2.IgnoresData .numbered [.writeData 0x5a] ∧
      (now.command .numbered 52 0x80000c02).2.trace .numbered [.writeData 0x5a] =
        now.trace .numbered [.writeData 0x5a] := by
  intro now
  have running : now.card.phase = .transfer := by decide +kernel
  have one : now.card.transfer.map (·.function) = some 1 := by decide +kernel
  obtain ⟨t, held, -, -, hit, -⟩ := abort_hits_addressed_transfer .numbered plainModel () blockBegun
    0x80000c01 running (by decide) (by decide) (.inl (by decide)) (by decide)
  obtain ⟨u, held', -, -, -, spared⟩ := abort_hits_addressed_transfer .numbered plainModel ()
    blockBegun 0x80000c02 running (by decide) (by decide) (.inl (by decide)) (by decide)
  have named : t.function = 1 := by
    rw [held] at one
    exact Option.some.inj one
  have other : u.function = 1 := by
    rw [held'] at one
    exact Option.some.inj one
  obtain ⟨-, none, -, after⟩ := hit (by rw [named]; decide)
  obtain ⟨-, -, -, -, same⟩ := spared (by rw [other]; decide)
  refine ⟨running, none, (after [.writeData 0x5a] ?_).1, (same [.writeData 0x5a]).1⟩
  rintro turn mem ⟨_, command, -⟩
  obtain rfl := List.mem_singleton.mp mem
  cases command

end Attached

end WlanCard
