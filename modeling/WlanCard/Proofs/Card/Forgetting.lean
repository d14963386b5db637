import WlanCard.Proofs.Card.Command
import WlanCard.Proofs.Card.Relabelling

/-!
# What accesses do not look at

No access to a function looks at the number of the last command, nor at the flags of it that the next
command clears. `Card.forget` is the card without those flags, and with another number instead; every
step of an access commutes with it (`direct_forget`, `writeData_forget`, `readData_forget`), as long
as a reset card, whose number is 0, is not told another.
-/

namespace WlanCard

/-- The flags of a command that the next command clears. -/
def Status.forgotten : UInt32 :=
  Flag.commandCrcError.mask ||| Flag.illegalCommand.mask

/-- Of an error that is raised, what commands clear is lost. -/
theorem Status.raise_clear (s : Status) (mask : UInt32) :
    (s.raise mask).clear forgotten = (s.clear forgotten).raise (mask &&& ~~~forgotten) := by
  have distributes : (s.bits ||| mask) &&& ~~~forgotten =
      s.bits &&& ~~~forgotten ||| mask &&& ~~~forgotten := by
    apply UInt32.toBitVec_inj.mp
    exact BitVec.and_or_distrib_right
  exact congrArg Status.mk distributes

theorem Status.clear_comm (s : Status) (first second : UInt32) :
    (s.clear first).clear second = (s.clear second).clear first := by
  unfold clear
  rw [UInt32.and_assoc, UInt32.and_comm (~~~first), ← UInt32.and_assoc]

theorem Status.clear_forgotten (s : Status) :
    (s.clear forgotten).clear forgotten = s.clear forgotten := by
  unfold clear
  rw [UInt32.and_assoc, UInt32.and_self]

/-- The card without the flags that the next command clears, and with another number noted as that of
the last command. -/
def Card.forget (note : UInt8 → UInt8) (c : Card) : Card :=
  { c with status := c.status.clear Status.forgotten, activeCommand := note c.activeCommand }

namespace Card

variable {note : UInt8 → UInt8}

theorem forget_eq_self {c : Card} (clear : c.status.clear Status.forgotten = c.status)
    (same : note c.activeCommand = c.activeCommand) : c.forget note = c := by
  unfold forget
  rw [clear, same]

/-- Forgetting puts other labels on a card. -/
def forgetting (note : UInt8 → UInt8) : Relabelling where
  status s := s.clear Status.forgotten
  number := note
  data := id

theorem forgetting_keepsReset (zero : note 0 = 0) : (forgetting note).KeepsReset := by
  have clear : Status.powerOn.clear Status.forgotten = Status.powerOn := by decide
  exact ⟨clear, zero, rfl⟩

end Card

namespace Attached

variable {σ : Type}

/-- A direct access to a function that the card does not have reports the error and does nothing. -/
theorem direct_of_missing (fs : Functions σ) {q : DirectRequest} {a : Attached σ}
    (missing : a.card.functionCount < q.function) :
    a.direct fs q =
      { a with
        card.directData := q.value
        card.status := a.card.status.raise Status.Flag.addressError.mask } :=
  if_pos missing

theorem direct_of_present (fs : Functions σ) {q : DirectRequest} {a : Attached σ}
    (present : ¬ a.card.functionCount < q.function) :
    a.direct fs q = ({ a with card.directData := q.value }.directWrite fs q).directRead fs q :=
  if_neg present

/-- The same of a card with its functions. -/
def forget (note : UInt8 → UInt8) (a : Attached σ) : Attached σ :=
  { a with card := a.card.forget note }

variable {note : UInt8 → UInt8} (zero : note 0 = 0) (fs : Functions σ)
include zero

/-! ## Accesses -/

theorem write_forget (f : FunctionNumber) (address : UInt32) (bytes : List UInt8)
    (how : Addressing) (a : Attached σ) :
    (a.forget note).write fs f address bytes how = (a.write fs f address bytes how).forget note :=
  write_relabel (Card.forgetting_keepsReset zero) fs f address bytes how a

omit zero in
theorem read_forget (f : FunctionNumber) (address : UInt32) (length : Nat) (how : Addressing)
    (a : Attached σ) :
    (a.forget note).read fs f address length how =
      ((a.read fs f address length how).1, (a.read fs f address length how).2.forget note) :=
  read_relabel fs (Card.forgetting note) f address length how a

theorem directWrite_forget (q : DirectRequest) (a : Attached σ) :
    (a.forget note).directWrite fs q = (a.directWrite fs q).forget note := by
  unfold directWrite
  split
  · exact write_forget zero fs ..
  · rfl

omit zero in
theorem directRead_forget (q : DirectRequest) (a : Attached σ) :
    (a.forget note).directRead fs q = (a.directRead fs q).forget note := by
  unfold directRead
  rw [read_forget]
  split <;> rfl

/-- **Direct accesses** do not look at what is forgotten. -/
theorem direct_forget (q : DirectRequest) (a : Attached σ) :
    (a.forget note).direct fs q = (a.direct fs q).forget note := by
  by_cases missing : a.card.functionCount < q.function
  · have kept : Status.Flag.addressError.mask &&& ~~~Status.forgotten =
        Status.Flag.addressError.mask := by decide
    have raised := a.card.status.raise_clear Status.Flag.addressError.mask
    rw [kept] at raised
    rw [direct_of_missing fs missing, direct_of_missing fs (a := a.forget note) missing]
    show (⟨{ a.card.forget note with
      directData := q.value, status := (a.card.status.clear _).raise _ }, _⟩ : Attached σ) = _
    rw [← raised]
    rfl
  · have written := directWrite_forget zero fs q { a with card.directData := q.value }
    rw [direct_of_present fs missing, direct_of_present fs (a := a.forget note) missing,
      ← directRead_forget, ← written]
    rfl

end Attached

/-! ## Data -/

/-- The errors that stop the data path are not among the flags that commands clear. -/
theorem Status.meets_dataErrors_clear_forgotten (s : Status) :
    (s.clear forgotten).meets dataErrors = s.meets dataErrors := by
  have apart : ~~~forgotten &&& dataErrors = dataErrors := by decide
  unfold meets meet clear
  rw [UInt32.and_assoc, apart]

theorem Card.openDataPath_forget (c : Card) : (c.forget id).openDataPath? = c.openDataPath? := by
  have same : (c.forget id).status.meets Status.dataErrors = c.status.meets Status.dataErrors :=
    c.status.meets_dataErrors_clear_forgotten
  unfold openDataPath?
  rw [same]
  rfl

namespace Attached

variable {σ : Type} (fs : Functions σ)

/-- **Written bytes** do not depend on what is forgotten. -/
theorem writeData_forget (value : UInt8) (a : Attached σ) :
    (a.forget id).writeData fs value = (a.writeData fs value).forget id :=
  writeData_relabel (r := Card.forgetting id) (Card.forgetting_keepsReset rfl) fs value
    a.card.openDataPath_forget

/-- **Read bytes** do not depend on what is forgotten. -/
theorem readData_forget (a : Attached σ) :
    (a.forget id).readData fs = ((a.readData fs).1, (a.readData fs).2.forget id) :=
  readData_relabel fs (r := Card.forgetting id) a.card.openDataPath_forget

/-! ## Direct commands -/

theorem prepare_forget {note : UInt8 → UInt8} (again : ∀ n, note (note n) = note n)
    (number : UInt8) (command : Command) (a : Attached σ) :
    ((a.forget note).prepare number command).forget note = (a.prepare number command).forget note := by
  have twice : (a.card.status.clear Status.forgotten).clear Status.forgotten =
      a.card.status.clear Status.forgotten := a.card.status.clear_forgotten
  have phase : (a.forget note).card.phase = a.card.phase := rfl
  unfold prepare noteCommand
  dsimp only
  rw [phase]
  split
  · show (⟨{ a.card with
      status := ((a.card.status.clear Status.forgotten).clear Status.forgotten).clear Status.forgotten
      activeCommand := note (note a.card.activeCommand) }, _⟩ : Attached σ) = _
    rw [again, twice]
    rfl
  · show (⟨{ a.card with
      status := ((a.card.status.clear Status.forgotten).clear Status.forgotten).clear Status.forgotten
      activeCommand := note number }, _⟩ : Attached σ) = _
    rw [twice]
    rfl

/-- Nothing that is forgotten is left once a command has been noted, but for its number. -/
theorem prepare_eq_forget {note : UInt8 → UInt8} (number : UInt8) (command : Command)
    (a : Attached σ)
    (same : note (a.prepare number command).card.activeCommand =
      (a.prepare number command).card.activeCommand) :
    (a.prepare number command).forget note = a.prepare number command := by
  have clear : (a.prepare number command).card.status.clear Status.forgotten =
      (a.prepare number command).card.status := by
    have status : (a.prepare number command).card.status = a.card.status.clear Status.forgotten := by
      simp only [prepare, noteCommand]
      split <;> rfl
    rw [status, Status.clear_forgotten]
  exact congrArg (Attached.mk · a.device) (Card.forget_eq_self clear same)

/-- A direct access that has been carried out leaves nothing to forget either. -/
theorem directDone_eq_forget {note : UInt8 → UInt8} (zero : note 0 = 0) (argument : UInt32)
    (a : Attached σ)
    (same : ∀ q, note (a.prepare Card.directNumber (.direct q)).card.activeCommand =
      (a.prepare Card.directNumber (.direct q)).card.activeCommand) :
    (a.directDone fs argument).forget note = a.directDone fs argument := by
  unfold directDone
  dsimp only
  rw [← direct_forget zero, prepare_eq_forget _ _ _ (same _)]

/-- A refused command on a native bus is not answered, and only noted. -/
theorem command_of_refused {number : UInt8} {argument : UInt32} {command : Command} {a : Attached σ}
    {why : Refusal} (named : Command.ofWire number argument = command)
    (native : a.card.mode = .native) (refused : a.refusal command = some why) :
    a.command fs number argument =
      let found := a.prepare number command
      (Response.none, { found with card := found.card.refuse.2 }) := by
  let found := a.prepare number command
  have mode : found.card.mode = .native :=
    (prepare_keepsWiring number command a).mode.trans native
  have kind : found.card.refuse.1 = .r0 := by
    rw [Card.refuse, mode]
  unfold Attached.command
  rw [execute_of_refused fs named refused]
  dsimp only
  rw [kind]
  unfold respond
  dsimp only
  split <;> rfl

theorem refuse_forget (note : UInt8 → UInt8) (a : Attached σ) :
    { a with card := a.card.refuse.2 : Attached σ }.forget note = a.forget note := by
  have lost : (a.card.status.raise Status.Flag.illegalCommand.mask).clear Status.forgotten =
      a.card.status.clear Status.forgotten := by
    have gone : Status.Flag.illegalCommand.mask &&& ~~~Status.forgotten = 0 := by decide
    rw [Status.raise_clear, gone]
    exact congrArg Status.mk UInt32.or_zero
  show (⟨{ a.card with
    status := (a.card.status.raise Status.Flag.illegalCommand.mask).clear Status.forgotten
    activeCommand := note a.card.activeCommand }, _⟩ : Attached σ) = _
  rw [lost]
  rfl

theorem prepare_congr {note : UInt8 → UInt8} (again : ∀ n, note (note n) = note n)
    {a b : Attached σ} (alike : a.forget note = b.forget note) (number : UInt8) (command : Command) :
    (a.prepare number command).forget note = (b.prepare number command).forget note := by
  rw [← prepare_forget again, alike, prepare_forget again]

theorem reported_forget (note : UInt8 → UInt8) (a : Attached σ) :
    { a with card := a.card.reported : Attached σ }.forget note =
      { a.forget note with card := (a.forget note).card.reported } := by
  have order := a.card.status.clear_comm Response.directClearMask Status.forgotten
  show (⟨{ a.card with
    status := (a.card.status.clear Response.directClearMask).clear Status.forgotten
    activeCommand := note a.card.activeCommand }, _⟩ : Attached σ) = _
  rw [order]
  rfl

/-- Direct accesses leave alike what differs in forgotten things only, and even the same status. -/
theorem directDone_congr {note : UInt8 → UInt8} (zero : note 0 = 0)
    (again : ∀ n, note (note n) = note n) {a b : Attached σ} (alike : a.forget note = b.forget note)
    (argument : UInt32) :
    (a.directDone fs argument).forget note = (b.directDone fs argument).forget note ∧
      (a.directDone fs argument).card.status = (b.directDone fs argument).card.status := by
  let q := Command.directArgument argument
  have found := prepare_congr again alike Card.directNumber (.direct q)
  have done : (a.directDone fs argument).forget note = (b.directDone fs argument).forget note := by
    unfold directDone
    dsimp only
    rw [← direct_forget zero, found, direct_forget zero]
  refine ⟨done, ?_⟩
  -- The flags that a status forgets were cleared before the access, which raises none of them.
  have clear : ∀ c : Attached σ, (c.directDone fs argument).forget id = c.directDone fs argument :=
    fun c => directDone_eq_forget fs rfl argument c fun _ => rfl
  have same : (a.directDone fs argument).card.status.clear Status.forgotten =
      (b.directDone fs argument).card.status.clear Status.forgotten :=
    (congrArg (·.card.status) done :)
  rw [← clear a, ← clear b]
  exact same

/-- **Direct commands** answer alike and leave alike what differs in forgotten things only. -/
theorem command_direct_congr (note : UInt8 → UInt8) (zero : note 0 = 0)
    (again : ∀ n, note (note n) = note n) {a b : Attached σ} (native : a.card.mode = .native)
    (alike : a.forget note = b.forget note) (argument : UInt32) :
    (a.command fs Card.directNumber argument).1 = (b.command fs Card.directNumber argument).1 ∧
      (a.command fs Card.directNumber argument).2.forget note =
        (b.command fs Card.directNumber argument).2.forget note := by
  let q := Command.directArgument argument
  have phase : a.card.phase = b.card.phase := (congrArg (·.card.phase) alike :)
  have mode : a.card.mode = b.card.mode := (congrArg (·.card.mode) alike :)
  have refusal : a.refusal (.direct q) = b.refusal (.direct q) :=
    (congrArg (·.refusal (.direct q)) alike :)
  cases refused : a.refusal (.direct q) with
  | some why =>
    have named := ofWire_directNumber argument
    have found := prepare_congr again alike Card.directNumber (.direct q)
    rw [command_of_refused fs named native refused,
      command_of_refused fs named (mode ▸ native) (refusal ▸ refused)]
    exact ⟨rfl, (refuse_forget note _).trans (found.trans (refuse_forget note _).symm)⟩
  | none =>
    have reached := (refusal_direct_iff q).mp refused
    obtain ⟨done, status⟩ := directDone_congr fs zero again alike argument
    have response : (a.directDone fs argument).card.phase = (b.directDone fs argument).card.phase ∧
        (a.directDone fs argument).card.mode = (b.directDone fs argument).card.mode ∧
        (a.directDone fs argument).card.directData = (b.directDone fs argument).card.directData :=
      ⟨(congrArg (·.card.phase) done :), (congrArg (·.card.mode) done :),
        (congrArg (·.card.directData) done :)⟩
    rw [command_direct fs argument reached, command_direct fs argument (phase ▸ reached)]
    dsimp only
    rw [reported_forget, reported_forget, done, status, response.1, response.2.1, response.2.2]
    exact ⟨rfl, rfl⟩

end Attached

end WlanCard
