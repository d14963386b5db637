import WlanCard.Proofs.Card.DataPath
import WlanCard.Proofs.Card.Forgetting

/-!
# Commands that do nothing, while a transfer runs

A command that the card ignores or refuses leaves the transfer that runs as it is, and calls no
function. Data flows on only if it is an extended command: the card notes the number of every command
but direct ones, and data flows while that number is the one that opens transfers. After any other
idle command the data lines are dead, until the transfer is aborted or the card is reset
(`idle_command_closes_data_path`).

Two runs are compared here, one with the idle command and one without. `Attached.forget` relates
them: they differ in forgotten things only.
-/

namespace WlanCard

namespace Card

/-- The operations by which a host goes on with a transfer: bytes of data and direct commands. -/
def Operation.GoesOn : Operation → Prop
  | .command number _ => number = directNumber
  | .writeData _ | .readData => True
  | _ => False

instance : (op : Operation) → Decidable op.GoesOn
  | .command .. => inferInstanceAs (Decidable (_ = _))
  | .writeData _ | .readData => inferInstanceAs (Decidable True)
  | .setFunctionIrq .. | .setHandler .. | .reset => inferInstanceAs (Decidable False)

/-- Operations without those that move bytes of data. -/
def Operation.withoutData (ops : List Operation) : List Operation :=
  ops.filter (!·.isData)

/-- The events of a trace that move no bytes of data. -/
def Event.withoutData (trace : List Event) : List Event :=
  trace.filter (!·.operation.isData)

/-- A byte of data was lost: it led to nothing, and the host read zero if anything. -/
def Event.Lost (event : Event) : Prop :=
  event.exchanges = [] ∧ (event.answer = .nothing ∨ event.answer = .byte 0)

theorem Operation.withoutData_cons (op : Operation) (ops : List Operation) :
    withoutData (op :: ops) = if op.isData then withoutData ops else op :: withoutData ops := by
  unfold withoutData
  cases data : op.isData <;>
    simp only [List.filter_cons, data, Bool.not_true, Bool.not_false, Bool.false_eq_true, ↓reduceIte]

theorem Event.withoutData_cons (event : Event) (trace : List Event) :
    withoutData (event :: trace) =
      if event.operation.isData then withoutData trace else event :: withoutData trace := by
  unfold withoutData
  cases data : event.operation.isData <;>
    simp only [List.filter_cons, data, Bool.not_true, Bool.not_false, Bool.false_eq_true, ↓reduceIte]

theorem Operation.withoutData_eq_self {ops : List Operation}
    (noData : ∀ op ∈ ops, op.isData = false) : withoutData ops = ops := by
  refine List.filter_eq_self.mpr fun op mem => ?_
  rw [noData op mem, Bool.not_false]

theorem Event.withoutData_eq_self {trace : List Event}
    (noData : ∀ op ∈ trace.map (·.operation), op.isData = false) : withoutData trace = trace := by
  refine List.filter_eq_self.mpr fun event mem => ?_
  rw [noData _ (List.mem_map_of_mem mem), Bool.not_false]

end Card

namespace Attached

open Card

variable {σ : Type} (fs : Functions σ)

/-- A command does nothing of its own: the card ignores it, or refuses it. -/
def Idle (a : Attached σ) (number : UInt8) (argument : UInt32) : Prop :=
  number = 0 ∨ ∃ why, a.refusal (Command.ofWire number argument) = some why

/-! ## Runs that differ in forgotten things only -/

theorem perform_congr {a b : Attached σ} (native : a.card.mode = .native)
    (alike : a.forget id = b.forget id) {op : Operation} (goesOn : op.GoesOn) :
    (a.perform fs op).1 = (b.perform fs op).1 ∧
      (a.perform fs op).2.forget id = (b.perform fs op).2.forget id := by
  cases op with
  | command number argument =>
    subst goesOn
    obtain ⟨response, after⟩ := command_direct_congr fs id rfl (fun _ => rfl) native alike argument
    exact ⟨congrArg Answer.response response, after⟩
  | writeData value =>
    refine ⟨rfl, ?_⟩
    show (a.writeData fs value).forget id = (b.writeData fs value).forget id
    rw [← writeData_forget, alike, writeData_forget]
  | readData =>
    have left := readData_forget fs a
    have right := readData_forget fs b
    rw [alike, right] at left
    obtain ⟨byte, after⟩ := Prod.mk.inj left
    exact ⟨congrArg Answer.byte byte.symm, after.symm⟩
  | setFunctionIrq _ _ | setHandler _ _ | reset => exact goesOn.elim

theorem watched_alike {a b : Attached σ} {note : UInt8 → UInt8} (alike : a.forget note = b.forget note) :
    a.watched.forget note = b.watched.forget note := by
  have card : a.card.forget note = b.card.forget note := congrArg Attached.card alike
  have device : a.device = b.device := (congrArg Attached.device alike :)
  show (⟨a.card.forget note, (a.device, [])⟩ : Attached (σ × List Exchange)) =
    ⟨b.card.forget note, (b.device, [])⟩
  rw [card, device]

theorem event_congr {a b : Attached σ} (native : a.card.mode = .native)
    (alike : a.forget id = b.forget id) {op : Operation} (goesOn : op.GoesOn) :
    a.event fs op = b.event fs op := by
  have answer := (perform_congr fs native alike goesOn).1
  have watched := (perform_congr fs.observed (a := a.watched) native (watched_alike alike) goesOn).2
  have exchanges : a.exchanges fs op = b.exchanges fs op := (congrArg (·.device.2) watched :)
  rw [event, event, answer, exchanges]

/-- Going on with a transfer keeps a native bus. -/
theorem perform_native {a : Attached σ} (native : a.card.mode = .native) {op : Operation}
    (goesOn : op.GoesOn) : (a.perform fs op).2.card.mode = .native := by
  have wired : ∀ f handler, op ≠ .setHandler f handler := by
    rintro f handler rfl
    exact goesOn
  exact (perform_keepsWiring fs a op wired).mode.trans native

/-- **Runs of a transfer** that start alike go on alike. -/
theorem trace_congr {ops : List Operation} (goesOn : ∀ op ∈ ops, op.GoesOn) {a b : Attached σ}
    (native : a.card.mode = .native) (alike : a.forget id = b.forget id) :
    a.trace fs ops = b.trace fs ops ∧ (a.run fs ops).card.phase = (b.run fs ops).card.phase := by
  induction ops generalizing a b with
  | nil => exact ⟨rfl, (congrArg (·.card.phase) alike :)⟩
  | cons op ops ih =>
    have here : op.GoesOn := goesOn op List.mem_cons_self
    have event := event_congr fs native alike here
    have next := (perform_congr fs native alike here).2
    obtain ⟨trace, phase⟩ := ih (fun op mem => goesOn op (List.mem_cons_of_mem _ mem))
      (perform_native fs native here) next
    refine ⟨?_, phase⟩
    show a.event fs op :: _ = b.event fs op :: _
    rw [event, trace]

/-! ## Runs whose data lines are dead -/

/-- One card is another, but its data lines are dead: its last command is not one that opens
transfers. -/
structure Silences (live dead : Attached σ) : Prop where
  native : dead.card.mode = .native
  alike : live.forget (fun _ => 0) = dead.forget fun _ => 0
  last : dead.card.activeCommand ≠ extendedNumber

theorem openDataPath_of_last {c : Card} (last : c.activeCommand ≠ extendedNumber) :
    c.openDataPath? = none := by
  simp only [openDataPath?, last, and_false, ↓reduceIte]

theorem writeData_of_last {a : Attached σ} (last : a.card.activeCommand ≠ extendedNumber)
    (value : UInt8) : a.writeData fs value = a := by
  unfold writeData
  rw [openDataPath_of_last last]

theorem readData_of_last {a : Attached σ} (last : a.card.activeCommand ≠ extendedNumber) :
    a.readData fs = (0, a) := by
  unfold readData
  rw [openDataPath_of_last last]

/-- A direct command opens no transfer. -/
theorem command_direct_last {a : Attached σ} (native : a.card.mode = .native)
    (last : a.card.activeCommand ≠ extendedNumber) (argument : UInt32) :
    (a.command fs directNumber argument).2.card.activeCommand ≠ extendedNumber := by
  let q := Command.directArgument argument
  have found : ∀ q, (a.prepare directNumber (.direct q)).card.activeCommand ≠ extendedNumber := by
    intro q
    simp only [prepare, noteCommand]
    split
    · exact last
    · intro same
      cases same
  cases refused : a.refusal (.direct q) with
  | some why =>
    rw [command_of_refused fs (ofWire_directNumber argument) native refused]
    exact found q
  | none =>
    rw [command_direct fs argument ((refusal_direct_iff q).mp refused)]
    -- A number that no card with dead data lines has noted is not noted by the access either.
    let note : UInt8 → UInt8 := fun number => if number = extendedNumber then 0 else number
    have kept : (a.directDone fs argument).forget note = a.directDone fs argument :=
      directDone_eq_forget fs rfl argument a fun q => if_neg (found q)
    have after : note (a.directDone fs argument).card.activeCommand =
        (a.directDone fs argument).card.activeCommand := (congrArg (·.card.activeCommand) kept :)
    intro opened
    rw [show (a.directDone fs argument).card.activeCommand = extendedNumber from opened] at after
    cases after

namespace Silences

variable {live dead : Attached σ}

/-- Bytes of data do nothing to a card whose data lines are dead. -/
theorem perform_data (silences : live.Silences dead) {op : Operation} (data : op.isData = true) :
    (dead.event fs op).Lost ∧ (dead.perform fs op).2 = dead := by
  cases op with
  | writeData value =>
    have kept := dead.writeData_of_last fs silences.last value
    have watched := dead.watched.writeData_of_last fs.observed silences.last value
    exact ⟨⟨exchanges_writeData_lost fs value watched, .inl rfl⟩, kept⟩
  | readData =>
    have kept := dead.readData_of_last fs silences.last
    have watched := dead.watched.readData_of_last fs.observed silences.last
    refine ⟨⟨exchanges_readData_lost fs watched, .inr ?_⟩, ?_⟩
    · exact congrArg (Answer.byte ·.1) kept
    · exact congrArg Prod.snd kept
  | command _ _ | setFunctionIrq _ _ | setHandler _ _ | reset => cases data

/-- Direct commands do not see that data lines are dead. -/
theorem perform_direct (silences : live.Silences dead) {op : Operation} (goesOn : op.GoesOn)
    (noData : op.isData = false) :
    dead.event fs op = live.event fs op ∧
      (live.perform fs op).2.Silences (dead.perform fs op).2 := by
  have native : live.card.mode = .native :=
    (congrArg (·.card.mode) silences.alike :).trans silences.native
  cases op with
  | command number argument =>
    subst goesOn
    have bare := command_direct_congr fs (fun _ => 0) rfl (fun _ => rfl) native silences.alike argument
    have watched := command_direct_congr fs.observed (a := live.watched) (fun _ => 0) rfl
      (fun _ => rfl) native (watched_alike silences.alike) argument
    refine ⟨?_, perform_native fs silences.native rfl, bare.2,
      command_direct_last fs silences.native silences.last argument⟩
    have answer : Answer.response (live.command fs directNumber argument).1 =
        .response (dead.command fs directNumber argument).1 := congrArg Answer.response bare.1
    have exchanges : live.exchanges fs (.command directNumber argument) =
        dead.exchanges fs (.command directNumber argument) := (congrArg (·.device.2) watched.2 :)
    unfold event perform
    dsimp only
    rw [answer, exchanges]
  | writeData _ | readData => cases noData
  | setFunctionIrq _ _ | setHandler _ _ | reset => exact goesOn.elim

/-- **Runs over dead data lines** lose the bytes of data, and are without them runs over live ones. -/
theorem trace (silences : live.Silences dead) {ops : List Operation}
    (goesOn : ∀ op ∈ ops, op.GoesOn) :
    Event.withoutData (dead.trace fs ops) = live.trace fs (Operation.withoutData ops) ∧
      (∀ event ∈ dead.trace fs ops, event.operation.isData → event.Lost) ∧
      (dead.run fs ops).card.phase = (live.run fs (Operation.withoutData ops)).card.phase := by
  induction ops generalizing live dead with
  | nil => exact ⟨rfl, nofun, (congrArg (·.card.phase) silences.alike :).symm⟩
  | cons op ops ih =>
    have here : op.GoesOn := goesOn op List.mem_cons_self
    have later : ∀ op ∈ ops, op.GoesOn := fun op mem => goesOn op (List.mem_cons_of_mem _ mem)
    rw [Attached.trace, run, Operation.withoutData_cons, Event.withoutData_cons]
    by_cases data : op.isData
    · obtain ⟨lost, kept⟩ := silences.perform_data fs data
      obtain ⟨events, allLost, phase⟩ := ih silences later
      rw [if_pos data, if_pos (by exact data), kept]
      refine ⟨events, ?_, phase⟩
      rintro event member
      rcases List.mem_cons.mp member with rfl | member
      · exact fun _ => lost
      · exact allLost event member
    · obtain ⟨same, next⟩ := silences.perform_direct fs here (Bool.eq_false_iff.mpr data)
      obtain ⟨events, allLost, phase⟩ := ih next later
      rw [if_neg data, if_neg (by exact data), same, events]
      refine ⟨rfl, ?_, phase⟩
      intro event member moves
      rcases List.mem_cons.mp member with rfl | member
      · exact absurd moves data
      · exact allLost event member moves

end Silences

/-! ## Idle commands -/

/-- **Idle commands** are not answered, and only noted. -/
theorem command_idle {a : Attached σ} {number : UInt8} {argument : UInt32}
    (native : a.card.mode = .native) (running : a.card.phase = .transfer)
    (idle : a.Idle number argument) :
    ∃ status : Status, status.clear Status.forgotten = a.card.status.clear Status.forgotten ∧
      a.command fs number argument =
        (Response.none, { a with card.status := status, card.activeCommand := number }) := by
  let cleared := a.card.status.clear Status.forgotten
  rcases idle with rfl | ⟨why, refused⟩
  · refine ⟨cleared, a.card.status.clear_forgotten, ?_⟩
    have noted : a.prepare 0 .goIdle =
        { a with card.status := cleared, card.activeCommand := 0 } := rfl
    have named : Command.ofWire 0 argument = .goIdle := rfl
    unfold command
    rw [execute_of_accepted fs named rfl, noted]
    unfold carryOut respond
    dsimp only
    split <;> rfl
  · refine ⟨cleared.raise Status.Flag.illegalCommand.mask, ?_, ?_⟩
    · have gone : Status.Flag.illegalCommand.mask &&& ~~~Status.forgotten = 0 := by decide
      rw [Status.raise_clear, Status.clear_forgotten, gone]
      exact congrArg Status.mk UInt32.or_zero
    · have noted : a.prepare number (Command.ofWire number argument) =
          { a with card.status := cleared, card.activeCommand := number } := by
        cases named : Command.ofWire number argument with
        | direct q =>
          have accepted := (refusal_direct_iff q).mpr (.inr running)
          rw [named, accepted] at refused
          cases refused
        | _ => rfl
      rw [command_of_refused fs rfl native refused, noted]
      rfl

/-- An idle command that is noted under another number than that of the transfer's silences it. -/
theorem silences_idle {a : Attached σ} {number : UInt8} {argument : UInt32}
    (native : a.card.mode = .native) (running : a.card.phase = .transfer)
    (idle : a.Idle number argument) (other : number ≠ extendedNumber) :
    a.Silences (a.command fs number argument).2 := by
  obtain ⟨status, same, noted⟩ := command_idle fs native running idle
  rw [noted]
  refine ⟨native, ?_, other⟩
  show (⟨{ a.card with status := a.card.status.clear _, activeCommand := 0 }, _⟩ : Attached σ) = _
  rw [← same]
  rfl

/-- An idle command that is noted under the number of the transfer's leaves no trace. -/
theorem alike_idle {a : Attached σ} {number : UInt8} {argument : UInt32}
    (native : a.card.mode = .native) (running : a.card.phase = .transfer)
    (idle : a.Idle number argument) (again : number = a.card.activeCommand) :
    (a.command fs number argument).2.forget id = a.forget id := by
  obtain ⟨status, same, noted⟩ := command_idle fs native running idle
  rw [noted]
  show (⟨{ a.card with status := status.clear _, activeCommand := number }, _⟩ : Attached σ) = _
  rw [same, again]
  rfl

/-- An idle command calls no function. -/
theorem exchanges_idle {a : Attached σ} {number : UInt8} {argument : UInt32}
    (native : a.card.mode = .native) (running : a.card.phase = .transfer)
    (idle : a.Idle number argument) : a.exchanges fs (.command number argument) = [] := by
  obtain ⟨status, _, noted⟩ := command_idle fs.observed (a := a.watched) native running idle
  unfold exchanges perform
  dsimp only
  rw [noted]
  rfl

/-- **An idle command during a transfer** calls nothing and leaves the transfer in place. Direct
commands after it are as if it had not been sent. So is everything if it is the extended command,
refused; after any other refused command the bytes of data are lost, and the transfer goes no further
than the direct commands take it. -/
theorem idle_command_closes_data_path {a : Attached σ} {number : UInt8} {argument : UInt32}
    (native : a.card.mode = .native) (running : a.card.phase = .transfer)
    (last : a.card.activeCommand = extendedNumber) (idle : a.Idle number argument)
    {ops : List Operation} (goesOn : ∀ op ∈ ops, op.GoesOn) :
    let b := (a.command fs number argument).2
    (a.exchanges fs (.command number argument) = [] ∧ b.device = a.device ∧
        b.card.phase = .transfer ∧ b.card.transfer = a.card.transfer ∧ b.card.area = a.card.area) ∧
      (number = extendedNumber ∨ (∀ op ∈ ops, op.isData = false) →
        b.trace fs ops = a.trace fs ops ∧ (b.run fs ops).card.phase = (a.run fs ops).card.phase) ∧
      (a.refusal (Command.ofWire number argument) ≠ none → number ≠ extendedNumber →
        Event.withoutData (b.trace fs ops) = a.trace fs (Operation.withoutData ops) ∧
          (∀ event ∈ b.trace fs ops, event.operation.isData → event.Lost) ∧
          (b.run fs ops).card.phase = (a.run fs (Operation.withoutData ops)).card.phase) := by
  intro b
  have closed (other : number ≠ extendedNumber) :=
    (silences_idle fs native running idle other).trace fs goesOn
  refine ⟨?_, ?_, fun _ => closed⟩
  · obtain ⟨status, _, noted⟩ := command_idle fs native running idle
    have kept : b = { a with card.status := status, card.activeCommand := number } :=
      congrArg Prod.snd noted
    rw [kept]
    exact ⟨exchanges_idle fs native running idle, rfl, running, rfl, rfl⟩
  · intro spared
    by_cases again : number = extendedNumber
    · have alike := alike_idle fs native running idle (again.trans last.symm)
      have wired : b.card.mode = .native := (command_keepsWiring fs number argument a).mode.trans native
      exact trace_congr fs goesOn wired alike
    · have noData : ∀ op ∈ ops, op.isData = false := spared.resolve_left again
      obtain ⟨events, _, phase⟩ := closed again
      have traced : ∀ op ∈ (b.trace fs ops).map (·.operation), op.isData = false := by
        rwa [map_operation_trace]
      rw [Operation.withoutData_eq_self noData] at events phase
      rw [Event.withoutData_eq_self traced] at events
      exact ⟨events, phase⟩

/-- The numbered card while it hands out two blocks of two bytes. -/
def numberedReading : Attached Unit :=
  (numbered.command .numbered extendedNumber 0x1c010202).2

/-- One byte read before a direct command and one after. -/
def twoReads : List Operation :=
  [.readData, .command directNumber 0x10002000, .readData]

theorem idle_command_closes_data_path_select :
    numberedReading.refusal (Command.ofWire 7 0x45670000) = some .wrongPhase ∧
      numberedReading.exchanges .numbered (.command 7 0x45670000) = [] ∧
      Event.withoutData ((numberedReading.command .numbered 7 0x45670000).2.trace .numbered twoReads) =
        numberedReading.trace .numbered [.command directNumber 0x10002000] ∧
      ((numberedReading.command .numbered 7 0x45670000).2.run .numbered twoReads).card.phase =
        .transfer := by
  have native : numberedReading.card.mode = .native := by decide +kernel
  have running : numberedReading.card.phase = .transfer := by decide +kernel
  have last : numberedReading.card.activeCommand = extendedNumber := by decide +kernel
  have refused : numberedReading.refusal (Command.ofWire 7 0x45670000) = some .wrongPhase := by
    decide +kernel
  have goesOn : ∀ op ∈ twoReads, op.GoesOn := by decide +kernel
  obtain ⟨⟨exchanges, _⟩, _, closes⟩ := idle_command_closes_data_path .numbered native running last
    (.inr ⟨_, refused⟩) goesOn
  obtain ⟨events, _, phase⟩ := closes (by decide +kernel) (by decide +kernel)
  exact ⟨refused, exchanges, events, phase.trans (by decide +kernel)⟩

/-- Commands that do nothing do disturb a transfer: the host would read 0x81. -/
theorem idle_commands_disturb_transfer :
    numberedReading.card.mode = .native ∧ numberedReading.card.phase = .transfer ∧
      numberedReading.card.activeCommand = extendedNumber ∧
      numberedReading.refusal (Command.ofWire 7 0x45670000) = some .wrongPhase ∧
      Event.bytesRead (numberedReading.trace .numbered [.readData]) = [0x81] ∧
      Event.bytesRead ((numberedReading.command .numbered 0 0).2.trace .numbered [.readData]) = [0] ∧
      Event.bytesRead ((numberedReading.command .numbered 7 0x45670000).2.trace .numbered
        [.readData]) = [0] := by
  decide +kernel

end Attached

end WlanCard
