import WlanCard.Proofs.Card.Transfer

/-!
# Moving bytes through a transfer

What the operations of a transfer do where the function behind it is the card's own device.

An extended command opens a transfer exactly for a function that the card has and a usable block
length (`command_extended_opens_iff`); data then flows through the transfer that its argument asks
for (`command_extended_opens`). From there on a byte is one step of `Card.proceed`, together with the
one access that it completes or begins (`writeData_flowing`, `readData_flowing`). A byte in the wrong
direction, or after the end, is no step at all.

`Card.Operation.Spares` names the operations that leave the transfer on a function alone. Other than
by bytes of data they keep the progress made (`perform_spared_progress`).
-/

namespace WlanCard

namespace Card

/-- The length that the blocks of a transfer are to have, usable or not. -/
def blockLengthFor (c : Card) (q : ExtendedRequest) : Nat :=
  if q.blockMode then c.area.blockLength q.function else 1

theorem transferBlockLength_eq (c : Card) (q : ExtendedRequest) :
    c.transferBlockLength? q =
      if 1 ≤ c.blockLengthFor q ∧ c.blockLengthFor q ≤ Transfer.maxBlockLength then
        some (c.blockLengthFor q)
      else none := by
  unfold transferBlockLength? blockLengthFor
  split <;> rfl

/-- An extended command opens a transfer: it goes to a function that the card has, and the blocks
have a usable length. -/
def Opens (c : Card) (q : ExtendedRequest) : Prop :=
  q.function ≤ c.functionCount ∧
    1 ≤ c.blockLengthFor q ∧ c.blockLengthFor q ≤ Transfer.maxBlockLength

instance (c : Card) (q : ExtendedRequest) : Decidable (c.Opens q) :=
  inferInstanceAs (Decidable (_ ∧ _))

theorem openTransfer_of_opens {c : Card} {q : ExtendedRequest} (opens : c.Opens q) :
    c.openTransfer q =
      (.r5,
        { c with
          directData := 0
          area := { c.area with functionSelect := q.function }
          transfer := some (transferFor q (c.blockLengthFor q))
          phase := .transfer }) := by
  obtain ⟨present, usable⟩ := opens
  have length : ({ c with directData := 0 } : Card).transferBlockLength? q =
      some (c.blockLengthFor q) := by
    rw [transferBlockLength_eq, if_pos]
    · rfl
    · exact usable
  have there : ¬ ({ c with directData := 0 } : Card).functionCount < q.function :=
    Fin.not_lt.mpr present
  unfold openTransfer
  dsimp only
  rw [if_neg there, length]

theorem openTransfer_phase {c : Card} {q : ExtendedRequest} (closed : ¬ c.Opens q) :
    (c.openTransfer q).2.phase = c.phase := by
  unfold openTransfer
  dsimp only
  split
  · rfl
  next present =>
    have length : ({ c with directData := 0 } : Card).transferBlockLength? q = none := by
      rw [transferBlockLength_eq, if_neg]
      exact fun usable => closed ⟨Fin.not_lt.mp present, usable⟩
    rw [length]

/-- An operation leaves a transfer on a function alone: it moves a byte of data, drives an interrupt
line, or is a direct command that neither resets the card nor aborts that transfer. -/
def Operation.Spares (c : Card) (f : FunctionNumber) : Operation → Prop
  | .command number argument =>
    number = directNumber ∧ ¬ (Command.directArgument argument).Resets c ∧
      ¬ (Command.directArgument argument).Aborts c f
  | .writeData _ | .readData | .setFunctionIrq .. => True
  | .setHandler .. | .reset => False

instance (c : Card) (f : FunctionNumber) : (op : Operation) → Decidable (op.Spares c f)
  | .command .. => inferInstanceAs (Decidable (_ ∧ _))
  | .writeData _ | .readData | .setFunctionIrq .. => inferInstanceAs (Decidable True)
  | .setHandler .. | .reset => inferInstanceAs (Decidable False)

/-- Which operations spare a transfer is a matter of the wiring. -/
theorem KeepsWiring.spares {c d : Card} (kept : c.KeepsWiring d) {f : FunctionNumber}
    {op : Operation} (spares : op.Spares c f) : op.Spares d f := by
  cases op with
  | command number argument =>
    obtain ⟨direct, noReset, noAbort⟩ := spares
    exact ⟨direct, mt (kept.resets_iff _).mp noReset, mt (kept.aborts_iff _ f).mp noAbort⟩
  | writeData _ | readData | setFunctionIrq _ _ => trivial
  | setHandler _ _ | reset => exact spares

end Card

namespace Attached

variable {σ : Type}

/-! ## Opening -/

theorem refusal_extended {a : Attached σ} (q : ExtendedRequest) (idle : a.card.phase = .command) :
    a.refusal (.extended q) = none := by
  simp only [refusal, Command.refusal, Command.refusal.accept, idle, decide_true, ↓reduceIte]

theorem ofWire_extendedNumber (argument : UInt32) :
    Command.ofWire Card.extendedNumber argument = .extended (Command.extendedArgument argument) :=
  rfl

theorem execute_extended (fs : Functions σ) (argument : UInt32) {a : Attached σ}
    (idle : a.card.phase = .command) :
    a.execute fs Card.extendedNumber argument =
      let q := Command.extendedArgument argument
      let found := a.prepare Card.extendedNumber (.extended q)
      ((found.card.openTransfer q).1, { found with card := (found.card.openTransfer q).2 }) :=
  execute_of_accepted fs (ofWire_extendedNumber argument) (refusal_extended _ idle)

/-- An extended command goes to no function by itself. -/
theorem command_extended_device (fs : Functions σ) (argument : UInt32) {a : Attached σ}
    (idle : a.card.phase = .command) :
    (a.command fs Card.extendedNumber argument).2.device = a.device := by
  unfold command
  rw [execute_extended fs argument idle]
  rfl

/-- **Opening a transfer**: data flows through the transfer that the argument asks for. -/
theorem command_extended_opens (fs : Functions σ) (argument : UInt32) {a : Attached σ}
    (idle : a.card.phase = .command) (opens : a.card.Opens (Command.extendedArgument argument)) :
    (a.command fs Card.extendedNumber argument).2.card.Flows
      (Card.transferFor (Command.extendedArgument argument)
        (a.card.blockLengthFor (Command.extendedArgument argument))) := by
  let q := Command.extendedArgument argument
  have found : (a.prepare Card.extendedNumber (.extended q)).card.Opens q := opens
  unfold command
  rw [execute_extended fs argument idle]
  dsimp only
  rw [Card.openTransfer_of_opens found, respond_r5]
  exact {
    phase := rfl
    clean := Status.meets_dataErrors_clear _
    activeCommand := rfl
    transfer := rfl
    functionSelect := rfl }

/-- In the command phase, an extended command opens a transfer exactly if it can. -/
theorem command_extended_opens_iff (fs : Functions σ) (argument : UInt32) {a : Attached σ}
    (idle : a.card.phase = .command) :
    (a.command fs Card.extendedNumber argument).2.card.phase = .transfer ↔
      a.card.Opens (Command.extendedArgument argument) := by
  refine ⟨fun started => ?_, fun opens => (command_extended_opens fs _ idle opens).phase⟩
  refine Decidable.byContradiction fun closed => ?_
  let q := Command.extendedArgument argument
  have found : ¬ (a.prepare Card.extendedNumber (.extended q)).card.Opens q := closed
  have phase := Card.openTransfer_phase found
  unfold command at started
  rw [execute_extended fs argument idle] at started
  have stays : (a.prepare Card.extendedNumber (.extended q)).card.phase = .transfer :=
    phase.symm.trans started
  simp only [prepare, noteCommand, idle, reduceCtorEq] at stays

/-! ## Bytes -/

/-- The state of the functions once a written byte has passed: a complete block is handed over. -/
def afterPut (fs : Functions σ) (t : Transfer) (s : σ) : σ :=
  if t.blockDone then fs.write t.function t.start t.staging.toList t.addressing s else s

/-- The staging buffer for the next byte to be read, and the state of the functions: the first byte
of a block fetches it. -/
def beforeTake (fs : Functions σ) (t : Transfer) (s : σ) : Array UInt8 × σ :=
  if t.offset = 0 then
    let answer := fs.read t.function t.start t.blockLength t.addressing s
    (answer.1.toArray, answer.2)
  else (t.staging, s)

/-- Where a block is done, what follows it is the next place of the transfer. -/
theorem finish_eq (a : Attached σ) {t : Transfer} (full : t.blockDone = true) :
    (if t.finishBlock.1 then { a with card := a.card.endTransfer } else a.setTransfer t.finishBlock.2) =
      { a with card := a.card.proceed t } := by
  rw [Card.proceed_of_full _ full]
  split <;> rfl

/-- Moving on after a byte leads to the next place of the transfer. -/
theorem moveOn_eq (t : Transfer) (a : Attached σ) :
    a.moveOn t = { a with card := a.card.proceed t.advance } := by
  unfold moveOn
  dsimp only
  split
  next full => exact finish_eq a full
  next room =>
    rw [Card.proceed_of_room _ (Bool.eq_false_iff.mpr room)]
    rfl

/-- **A written byte** goes into the staging buffer; the last one of a block completes one write. -/
theorem writeData_flowing (fs : Functions σ) (value : UInt8) {a : Attached σ} {t : Transfer}
    (flows : a.card.Flows t) (direction : t.direction = .write)
    (bound : a.card.handlers.get t.function = .attached) :
    a.writeData fs value =
      { card := a.card.proceed (t.put value), device := afterPut fs (t.put value) a.device } := by
  have written : a.write fs (t.put value).function (t.put value).start (t.put value).staging.toList
      (t.put value).addressing =
      { a with
        device := fs.write (t.put value).function (t.put value).start (t.put value).staging.toList
          (t.put value).addressing a.device } :=
    write_attached fs bound ..
  unfold writeData
  rw [flows.openDataPath]
  simp only [direction]
  unfold afterPut
  split
  next full =>
    unfold flush
    rw [written]
    dsimp only
    rw [if_pos flows.phase]
    exact finish_eq ⟨a.card, _⟩ full
  next room =>
    rw [Card.proceed_of_room _ (Bool.eq_false_iff.mpr room)]
    rfl

/-- **A read byte** comes from the staging buffer; the first one of a block makes one read. -/
theorem readData_flowing (fs : Functions σ) {a : Attached σ} {t : Transfer} (flows : a.card.Flows t)
    (direction : t.direction = .read) (bound : a.card.handlers.get t.function = .attached) :
    a.readData fs =
      let taken := beforeTake fs t a.device
      (taken.1.getD t.offset 0,
        { card := a.card.proceed { t with offset := t.offset + 1, staging := taken.1 }
          device := taken.2 }) := by
  unfold readData
  rw [flows.openDataPath]
  dsimp only
  split
  next against =>
    rw [direction] at against
    cases against
  · unfold fetch beforeTake
    split
    · rw [read_attached fs bound, moveOn_eq]
      rfl
    · rw [moveOn_eq]
      rfl

theorem writeData_idle (fs : Functions σ) (value : UInt8) {a : Attached σ}
    (idle : a.card.phase ≠ .transfer) : a.writeData fs value = a := by
  unfold writeData
  rw [Card.openDataPath_eq_none idle]

theorem readData_idle (fs : Functions σ) {a : Attached σ} (idle : a.card.phase ≠ .transfer) :
    a.readData fs = (0, a) := by
  unfold readData
  rw [Card.openDataPath_eq_none idle]

/-- A byte written to a transfer towards the host is lost. -/
theorem writeData_against (fs : Functions σ) (value : UInt8) {a : Attached σ} {t : Transfer}
    (flows : a.card.Flows t) (direction : t.direction = .read) : a.writeData fs value = a := by
  unfold writeData
  rw [flows.openDataPath]
  simp only [direction]

/-- A byte read from a transfer towards the card is zero. -/
theorem readData_against (fs : Functions σ) {a : Attached σ} {t : Transfer}
    (flows : a.card.Flows t) (direction : t.direction = .write) : a.readData fs = (0, a) := by
  unfold readData
  rw [flows.openDataPath]
  simp only [direction]

/-- A written byte leads to the one write that it completes. -/
theorem exchanges_writeData_flowing (fs : Functions σ) (value : UInt8) {a : Attached σ}
    {t : Transfer} (flows : a.card.Flows t) (direction : t.direction = .write)
    (bound : a.card.handlers.get t.function = .attached) :
    a.exchanges fs (.writeData value) = (afterPut fs.observed (t.put value) (a.device, [])).2 := by
  unfold exchanges perform
  dsimp only
  rw [writeData_flowing fs.observed value (a := a.watched) flows direction bound]
  rfl

/-- A read byte leads to the one read that it begins with. -/
theorem exchanges_readData_flowing (fs : Functions σ) {a : Attached σ} {t : Transfer}
    (flows : a.card.Flows t) (direction : t.direction = .read)
    (bound : a.card.handlers.get t.function = .attached) :
    a.exchanges fs .readData =
      if t.offset = 0 then
        [⟨.read t.function t.start t.blockLength t.addressing,
          (fs.read t.function t.start t.blockLength t.addressing a.device).1⟩]
      else [] := by
  unfold exchanges perform
  dsimp only
  rw [readData_flowing fs.observed (a := a.watched) flows direction bound, beforeTake]
  split <;> rfl

/-- A byte that is lost leads to nothing. -/
theorem exchanges_writeData_lost (fs : Functions σ) (value : UInt8) {a : Attached σ}
    (lost : a.watched.writeData fs.observed value = a.watched) :
    a.exchanges fs (.writeData value) = [] := by
  unfold exchanges perform
  dsimp only
  rw [lost]
  rfl

theorem exchanges_readData_lost (fs : Functions σ) {a : Attached σ}
    (lost : a.watched.readData fs.observed = (0, a.watched)) : a.exchanges fs .readData = [] := by
  unfold exchanges perform
  dsimp only
  rw [lost]
  rfl

/-! ## Other operations -/

/-- **Operations that spare a transfer** keep the progress that it has made. -/
theorem perform_spared_progress (fs : Functions σ) {a : Attached σ} {op : Card.Operation}
    {q : ExtendedRequest} {length k : Nat} {staged : Array UInt8 → Prop}
    (progress : a.card.Progress q length k staged) (spares : op.Spares a.card q.function)
    (noData : op.isData = false) : (a.perform fs op).2.card.Progress q length k staged := by
  cases op with
  | command number argument =>
    obtain ⟨rfl, noReset, noAbort⟩ := spares
    rcases progress with ⟨spent, idle⟩ | ⟨left, t, flows, stands, held⟩
    · exact .inl ⟨spent, command_direct_phase fs argument idle noReset⟩
    · have selected : a.card.area.functionSelect = q.function :=
        flows.functionSelect.trans stands.function
      have kept := command_direct_keepsFlow fs argument flows.phase noReset (selected ▸ noAbort)
      have clean := command_direct_clean fs argument (.inr flows.phase)
      exact .inr ⟨left, t, flows.of_keepsFlow kept clean, stands, held⟩
  | setFunctionIrq line level => exact progress.setFunctionIrq line level
  | writeData _ | readData => cases noData
  | setHandler _ _ | reset => exact spares.elim

/-- **Runs of a transfer**: what each operation that spares the transfer keeps, as long as the card's
device answers the function, holds of a whole run of them. -/
theorem run_spared {fs : Functions σ} {f : FunctionNumber}
    (inv : List Card.Event → Card → Prop)
    (step : ∀ log (b : Attached σ) op, b.card.handlers.get f = .attached → op.Spares b.card f →
      inv log b.card → inv (log ++ [b.event fs op]) (b.perform fs op).2.card)
    {a b : Attached σ} (wired : a.card.KeepsWiring b.card) (bound : a.card.handlers.get f = .attached)
    {ops : List Card.Operation} (spares : ∀ op ∈ ops, op.Spares a.card f) (start : inv [] b.card) :
    inv (b.trace fs ops) (b.run fs ops).card := by
  have done : a.card.KeepsWiring (b.run fs ops).card ∧ inv (b.trace fs ops) (b.run fs ops).card := by
    refine trace_run_induction (fun log c => a.card.KeepsWiring c.card ∧ inv log c.card) ?_ spares
      ⟨wired, start⟩
    rintro log c op spares ⟨wired, holds⟩
    refine ⟨wired.trans (perform_keepsWiring fs c op ?_), ?_⟩
    · rintro g handler rfl
      exact spares
    · exact step log c op (wired.handlers ▸ bound) (wired.spares spares) holds
  exact done.2

end Attached

end WlanCard
