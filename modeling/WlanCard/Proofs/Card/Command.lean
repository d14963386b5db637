import WlanCard.Proofs.Card.Frame

/-!
# What commands do

Every command is carried out or refused (`execute_of_accepted`, `execute_of_refused`). A direct
command reaches a register in the command phase and while a transfer runs; `command_direct` says what
it answers and leaves: the access carried out on the card as the command found it, and a status
without any of the bits that the response reports. Its response is therefore never silenced, and no
data error outlives it.

While a transfer runs, a direct command that neither resets the card nor aborts the transfer keeps the
data path (`command_direct_keepsFlow`); in the command phase only a reset leaves that phase
(`command_direct_phase`).
-/

namespace WlanCard

namespace Status

/-- Where a mask has been cleared, a mask that it covers has no bits left. -/
theorem meet_clear_eq_zero (s : Status) (cleared mask : UInt32)
    (covered : ~~~cleared &&& mask = 0) : (s.clear cleared).meet mask = 0 := by
  simp only [meet, clear, UInt32.and_assoc, covered, UInt32.and_zero]

/-- No data error outlives a response that clears what it reports. -/
theorem meets_dataErrors_clear (s : Status) :
    (s.clear Response.directClearMask).meets dataErrors = false := by
  have gone := meet_clear_eq_zero s Response.directClearMask dataErrors (by decide)
  simp only [meets, gone, bne_self_eq_false]

theorem has_illegalCommand_clear (s : Status) :
    (s.clear Response.directClearMask).has .illegalCommand = false := by
  have gone := meet_clear_eq_zero s Response.directClearMask Flag.illegalCommand.mask (by decide)
  simp only [has, gone]
  decide

end Status

namespace Card

/-- The number of the command that reaches a register directly. -/
def directNumber : UInt8 := 52

/-- The card after a response that reports and clears its status. -/
def reported (c : Card) : Card :=
  { c with status := c.status.clear Response.directClearMask }

theorem reported_keepsFlow (c : Card) : c.KeepsFlow c.reported :=
  ⟨⟨rfl, rfl, rfl⟩, rfl, rfl, rfl, rfl⟩

end Card

namespace Attached

variable {σ : Type}

/-! ## Accepting and refusing -/

/-- What a command finds does not decide whether it is refused. -/
theorem refusal_prepare (number : UInt8) (noted command : Command) (a : Attached σ) :
    (a.prepare number noted).refusal command = a.refusal command := by
  have kept : (a.prepare number noted).card.mode = a.card.mode ∧
      (a.prepare number noted).card.ready = a.card.ready ∧
      (a.prepare number noted).card.phase = a.card.phase := by
    simp only [prepare, noteCommand]
    split <;> exact ⟨rfl, rfl, rfl⟩
  simp only [refusal, kept]

theorem execute_of_accepted (fs : Functions σ) {number : UInt8} {argument : UInt32}
    {command : Command} {a : Attached σ} (named : Command.ofWire number argument = command)
    (accepted : a.refusal command = none) :
    a.execute fs number argument = (a.prepare number command).carryOut fs command := by
  unfold execute
  simp only [named, refusal_prepare, accepted]

theorem execute_of_refused (fs : Functions σ) {number : UInt8} {argument : UInt32}
    {command : Command} {a : Attached σ} {why : Refusal}
    (named : Command.ofWire number argument = command) (refused : a.refusal command = some why) :
    a.execute fs number argument =
      let found := a.prepare number command
      (found.card.refuse.1, { found with card := found.card.refuse.2 }) := by
  unfold execute
  simp only [named, refusal_prepare, refused]

/-! ## Direct commands -/

/-- A response that reports and clears the status of a card is never silenced. -/
theorem respond_r5 (last : Status) (c : Card) :
    respond .r5 last c =
      ((Response.direct c.status c.phase c.mode c.directData).1, c.reported) := by
  unfold respond
  dsimp only [Response.direct]
  rw [Status.has_illegalCommand_clear]
  rfl

theorem ofWire_directNumber (argument : UInt32) :
    Command.ofWire Card.directNumber argument = .direct (Command.directArgument argument) := rfl

theorem refusal_direct_iff {a : Attached σ} (q : DirectRequest) :
    a.refusal (.direct q) = none ↔ a.card.phase = .command ∨ a.card.phase = .transfer := by
  simp only [refusal, Command.refusal, Command.refusal.accept, decide_eq_true_eq]
  split
  next reached => exact ⟨fun _ => reached, fun _ => rfl⟩
  next other => exact ⟨nofun, fun reached => absurd reached other⟩

/-- What a direct command does to the card as the command finds it. -/
def directDone (fs : Functions σ) (argument : UInt32) (a : Attached σ) : Attached σ :=
  let q := Command.directArgument argument
  (a.prepare Card.directNumber (.direct q)).direct fs q

/-- **Direct commands**: in the command phase and during a transfer the access is carried out, and
the response tells of the card after it. -/
theorem command_direct (fs : Functions σ) (argument : UInt32) {a : Attached σ}
    (reached : a.card.phase = .command ∨ a.card.phase = .transfer) :
    a.command fs Card.directNumber argument =
      let b := a.directDone fs argument
      ((Response.direct b.card.status b.card.phase b.card.mode b.card.directData).1,
        { b with card := b.card.reported }) := by
  unfold command
  rw [execute_of_accepted fs (ofWire_directNumber argument) ((refusal_direct_iff _).mpr reached)]
  simp only [carryOut, respond_r5, directDone]

/-- No data error outlives a direct command. -/
theorem command_direct_clean (fs : Functions σ) (argument : UInt32) {a : Attached σ}
    (reached : a.card.phase = .command ∨ a.card.phase = .transfer) :
    (a.command fs Card.directNumber argument).2.card.status.meets Status.dataErrors = false := by
  rw [command_direct fs argument reached]
  exact Status.meets_dataErrors_clear _

/-- **A direct command keeps the data path** of a transfer, unless it resets the card or aborts that
transfer. -/
theorem command_direct_keepsFlow (fs : Functions σ) (argument : UInt32) {a : Attached σ}
    (running : a.card.phase = .transfer)
    (noReset : ¬ (Command.directArgument argument).Resets a.card)
    (noAbort : ¬ (Command.directArgument argument).Aborts a.card a.card.area.functionSelect) :
    a.card.KeepsFlow (a.command fs Card.directNumber argument).2.card := by
  let found := a.prepare Card.directNumber (.direct (Command.directArgument argument))
  have prepared : a.card.KeepsFlow found.card := by
    simp only [found, prepare, noteCommand, running]
    exact ⟨⟨rfl, rfl, rfl⟩, running.symm, rfl, rfl, rfl⟩
  have done : found.card.KeepsFlow (a.directDone fs argument).card := by
    refine direct_keepsFlow fs _ found ?_ fun _ => ?_
    · rwa [prepared.resets_iff]
    · rwa [prepared.aborts_iff, prepared.functionSelect]
  rw [command_direct fs argument (.inr running)]
  exact (prepared.trans done).trans (Card.reported_keepsFlow _)

/-- In the command phase, only a reset makes a direct command leave it. -/
theorem command_direct_phase (fs : Functions σ) (argument : UInt32) {a : Attached σ}
    (idle : a.card.phase = .command)
    (noReset : ¬ (Command.directArgument argument).Resets a.card) :
    (a.command fs Card.directNumber argument).2.card.phase = .command := by
  let found := a.prepare Card.directNumber (.direct (Command.directArgument argument))
  have wiring : a.card.KeepsWiring found.card := prepare_keepsWiring ..
  have phase : found.card.phase = .command := by
    simp only [found, prepare, noteCommand, idle]
  have done : found.card.KeepsFlow (a.directDone fs argument).card := by
    refine direct_keepsFlow fs _ found ?_ fun running => ?_
    · rwa [wiring.resets_iff]
    · rw [phase] at running
      cases running
  rw [command_direct fs argument (.inl idle)]
  exact done.phase.trans phase

/-! ## Functions that the card's device answers -/

theorem write_attached (fs : Functions σ) {f : FunctionNumber} {a : Attached σ}
    (bound : a.card.handlers.get f = .attached) (address : UInt32) (bytes : List UInt8)
    (how : Addressing) :
    a.write fs f address bytes how = { a with device := fs.write f address bytes how a.device } := by
  unfold write
  rw [bound]

theorem read_attached (fs : Functions σ) {f : FunctionNumber} {a : Attached σ}
    (bound : a.card.handlers.get f = .attached) (address : UInt32) (length : Nat) (how : Addressing) :
    a.read fs f address length how =
      ((fs.read f address length how a.device).1,
        { a with device := (fs.read f address length how a.device).2 }) := by
  unfold read
  rw [bound]

theorem directWrite_attached (fs : Functions σ) {q : DirectRequest} {a : Attached σ}
    (bound : a.card.handlers.get q.function = .attached) :
    a.directWrite fs q =
      { a with
        device := if q.isWrite then fs.write q.function q.address [q.value] .incrementing a.device
          else a.device } := by
  unfold directWrite
  rw [write_attached fs bound]
  split <;> rfl

theorem directRead_attached (fs : Functions σ) {q : DirectRequest} {a : Attached σ}
    (bound : a.card.handlers.get q.function = .attached) :
    a.directRead fs q =
      if readsBack q then
        let answer := fs.read q.function q.address 1 .incrementing a.device
        { card := { a.card with directData := answer.1.headD 0 }, device := answer.2 }
      else a := by
  unfold directRead
  rw [read_attached fs bound]

/-- A direct access to such a function is one access to the device, or two with a read-back. -/
theorem direct_attached (fs : Functions σ) {q : DirectRequest} {a : Attached σ}
    (present : q.function ≤ a.card.functionCount) (bound : a.card.handlers.get q.function = .attached) :
    a.direct fs q =
      let written := if q.isWrite then fs.write q.function q.address [q.value] .incrementing a.device
        else a.device
      let answer := fs.read q.function q.address 1 .incrementing written
      if readsBack q then
        { card := { a.card with directData := answer.1.headD 0 }, device := answer.2 }
      else { card := { a.card with directData := q.value }, device := written } := by
  let noted : Attached σ := { a with card.directData := q.value }
  have reached : ¬ noted.card.functionCount < q.function := Fin.not_lt.mpr present
  have bound' : noted.card.handlers.get q.function = .attached := bound
  show (if noted.card.functionCount < q.function then _ else (noted.directWrite fs q).directRead fs q)
    = _
  rw [if_neg reached, directWrite_attached fs bound', directRead_attached fs (by exact bound)]

/-- What a direct command does where the card's device answers, in the command phase: the access, and
an answer that ends in the byte read. -/
theorem command_direct_attached (fs : Functions σ) {q : DirectRequest}
    {argument : UInt32} (asks : Command.directArgument argument = q) {a : Attached σ}
    (idle : a.card.phase = .command) (present : q.function ≤ a.card.functionCount)
    (bound : a.card.handlers.get q.function = .attached) :
    let done := a.command fs Card.directNumber argument
    done.2.device = (a.direct fs q).device ∧
      done.1.bytes.getLastD 0 = (a.direct fs q).card.directData ∧
      done.2.card.phase = .command ∧ done.2.card.area = a.card.area := by
  subst asks
  let q := Command.directArgument argument
  let found := a.prepare Card.directNumber (.direct q)
  have wiring : a.card.KeepsWiring found.card := prepare_keepsWiring ..
  have kept : found.card.phase = .command ∧ found.card.area = a.card.area := by
    simp only [found, prepare, noteCommand, idle, and_self]
  obtain ⟨phase, area⟩ := kept
  have here := direct_attached fs present bound
  have there := direct_attached fs (a := found) (q := q) (wiring.functionCount ▸ present)
    (wiring.handlers ▸ bound)
  rw [command_direct fs argument (.inl idle)]
  dsimp only [directDone]
  rw [here, there]
  have device : found.device = a.device := rfl
  have last : ∀ (status : Status) (phase : Phase) (mode : BusMode) (data : UInt8),
      (Response.direct status phase mode data).1.bytes.getLastD 0 = data := by
    intro status phase mode data
    cases mode <;> rfl
  rw [last, device]
  dsimp only
  split
  · exact ⟨rfl, rfl, phase, area⟩
  · exact ⟨rfl, rfl, phase, area⟩

end Attached

end WlanCard
