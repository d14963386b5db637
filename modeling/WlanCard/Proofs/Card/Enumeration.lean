import WlanCard.Proofs.Card.DataPath
import WlanCard.Proofs.Card.InterruptRun
import WlanCard.Proofs.Card.Standing

/-!
# Enumeration gates all register access

The registers of a card are reached in the command phase and during transfers only: an operation that
finds the card elsewhere exchanges nothing with the functions behind it and leaves all registers alone,
but for the interrupt lines (`perform_closed`); a reset is the one exception.

A card is in these phases only if the host has enumerated it since the last reset (`Selected`): it has
agreed on operating conditions, after that the card has published an address, and after that the host
has selected the card under the address that it still has, and not deselected it since. `Enumerated`
is the invariant behind this, and `perform_enumerated` its step: one case for each move of enumeration.

A card that has been made inactive is silent from then on, until it is reset (`perform_inactive`).
-/

namespace WlanCard

/-! ## What the host has done -/

namespace Turn

variable {σ : Type}

/-- The host and the card agree on operating conditions. -/
def Agrees (t : Turn σ) : Prop :=
  ∃ argument, argument ≠ 0 ∧ t.Accepts 5 argument

/-- The card publishes a relative address. -/
def Publishes (t : Turn σ) : Prop :=
  ∃ argument, t.Accepts 3 argument

/-- The host selects the card under its relative address. -/
def Selects (t : Turn σ) (address : UInt16) : Prop :=
  ∃ argument, t.Accepts 7 argument ∧ Command.addressArgument argument = address ∧
    t.found.card.address = address

/-- The host selects another card. -/
def Deselects (t : Turn σ) : Prop :=
  ∃ argument, t.Accepts 7 argument ∧ Command.addressArgument argument ≠ t.found.card.address

end Turn

section

variable {σ : Type} (fs : Functions σ)

/-- Operating conditions have been agreed since the last reset. -/
def Agreed (log : List (Turn σ)) : Prop :=
  Since (fun _ t => t.Agrees) (fun t => ¬ t.Resets fs) log

/-- After that, a relative address has been published. -/
def Published (log : List (Turn σ)) : Prop :=
  Since (fun before t => Agreed fs before ∧ t.Publishes) (fun t => ¬ t.Resets fs) log

/-- After that, the card has been selected under this address, and no other card since. -/
def Selected (address : UInt16) (log : List (Turn σ)) : Prop :=
  Since (fun before t => Published fs before ∧ t.Selects address)
    (fun t => ¬ t.Resets fs ∧ ¬ t.Deselects) log

end

/-- An answer tells the host nothing: it has no bytes, or a byte that is zero. -/
def Card.Answer.Silent : Card.Answer → Prop
  | .nothing => True
  | .response r => r.bytes = []
  | .byte value => value = 0

/-- Registers can be reached in this phase. -/
def Phase.Open (phase : Phase) : Prop :=
  phase = .command ∨ phase = .transfer

instance (phase : Phase) : Decidable phase.Open :=
  inferInstanceAs (Decidable (_ ∨ _))

theorem Phase.not_open_standby : ¬ Phase.Open .standby := by decide

theorem Phase.not_open_inactive : ¬ Phase.Open .inactive := by decide

namespace Attached

variable {σ : Type} {fs : Functions σ} {a : Attached σ}

/-! ## Outside the open phases -/

/-- A card that accepts neither kind of register access carries commands out by itself, and all its
registers stay. -/
theorem carryOut_closed (fs : Functions σ) {number : UInt8} (argument : UInt32)
    (closed : ¬ a.card.phase.Open) (legal : a.card.Legal number) :
    (a.carryOut fs (Command.ofWire number argument)).2.device = a.device ∧
      (a.carryOut fs (Command.ofWire number argument)).2.card.area = a.card.area := by
  unfold Command.ofWire
  split
  case h_3 =>
    refine ⟨rfl, ?_⟩
    show (a.card.agree argument).area = a.card.area
    unfold Card.agree
    split <;> rfl
  case h_4 =>
    refine ⟨rfl, ?_⟩
    show (a.card.select _).2.area = a.card.area
    unfold Card.select
    split <;> split <;> rfl
  case h_5 =>
    refine ⟨rfl, ?_⟩
    show (a.card.goInactive _).area = a.card.area
    unfold Card.goInactive
    split <;> rfl
  case h_6 here =>
    obtain rfl : number = 52 := UInt8.toNat_inj.mp here
    exact absurd legal closed
  case h_7 here =>
    obtain rfl : number = 53 := UInt8.toNat_inj.mp here
    exact absurd (.inl legal) closed
  all_goals exact ⟨rfl, rfl⟩

theorem command_closed (fs : Functions σ) (number : UInt8) (argument : UInt32)
    (closed : ¬ a.card.phase.Open) :
    (a.command fs number argument).2.device = a.device ∧
      (a.command fs number argument).2.card.area = a.card.area := by
  by_cases legal : a.card.Legal number
  · let found := a.prepare number (Command.ofWire number argument)
    have same : found.card.standing = a.card.standing := prepare_standing ..
    have phase : found.card.phase = a.card.phase := congrArg Standing.phase same
    have area : found.card.area = a.card.area := by
      simp only [found, prepare, noteCommand]
      split <;> rfl
    obtain ⟨device, registers⟩ := carryOut_closed fs argument (a := found) (phase ▸ closed)
      ((prepare_legal_iff ..).mpr legal)
    show (a.execute fs number argument).2.device = _ ∧ (a.execute fs number argument).2.card.area = _
    rw [execute_of_legal fs argument legal]
    exact ⟨device, registers.trans area⟩
  · rw [command_of_not_legal fs argument legal]
    exact ⟨rfl, rfl⟩

/-- **Outside the open phases** an operation other than a reset does not reach the functions behind the
card, and changes no register but the interrupt lines. -/
theorem perform_closed (fs : Functions σ) {op : Card.Operation} (closed : ¬ a.card.phase.Open)
    (noReset : op ≠ .reset) :
    (a.perform fs op).2.device = a.device ∧
      ∃ interruptPending,
        (a.perform fs op).2.card.area = { a.card.area with interruptPending } := by
  have idle : a.card.phase ≠ .transfer := fun running => closed (.inr running)
  cases op with
  | command number argument =>
    obtain ⟨device, area⟩ := command_closed fs number argument closed
    exact ⟨device, _, area⟩
  | writeData value =>
    show (a.writeData fs value).device = _ ∧ ∃ _, (a.writeData fs value).card.area = _
    rw [writeData_idle fs value idle]
    exact ⟨rfl, _, rfl⟩
  | readData =>
    show (a.readData fs).2.device = _ ∧ ∃ _, (a.readData fs).2.card.area = _
    rw [readData_idle fs idle]
    exact ⟨rfl, _, rfl⟩
  | setFunctionIrq line level => exact ⟨rfl, _, rfl⟩
  | setHandler f handler =>
    refine ⟨rfl, a.card.area.interruptPending, ?_⟩
    show (a.card.setHandler f handler).area = _
    unfold Card.setHandler
    split <;> rfl
  | reset => exact absurd rfl noReset

theorem exchanges_closed (fs : Functions σ) {op : Card.Operation} (closed : ¬ a.card.phase.Open)
    (noReset : op ≠ .reset) : a.exchanges fs op = [] :=
  congrArg Prod.snd (perform_closed fs.observed (a := a.watched) closed noReset).1

/-! ## Selection -/

/-- A card leaves the open phases when another card is selected. -/
theorem closed_of_deselects (fs : Functions σ) {op : Card.Operation}
    (deselects : Turn.Deselects ⟨a, op⟩) : (a.perform fs op).2.card.phase = .standby := by
  obtain ⟨argument, ⟨rfl, legal⟩, other⟩ := deselects
  let found := a.prepare 7 (Command.ofWire 7 argument)
  have same : found.card.standing = a.card.standing := prepare_standing ..
  have address : found.card.address = a.card.address := congrArg Standing.address same
  have other' : Command.addressArgument argument ≠ found.card.address := address ▸ other
  show (a.execute fs 7 argument).2.card.phase = _
  rw [execute_of_legal fs argument legal]
  show (found.card.select (Command.addressArgument argument)).2.phase = _
  unfold Card.select
  split
  next standby => rw [if_neg other']; exact standby
  · rw [if_neg other']

/-- What the host has done with a card that stands so. -/
structure Enumerated (fs : Functions σ) (log : List (Turn σ)) (mode : BusMode) (s : Standing) :
    Prop where
  agreed : s.ready = true → Agreed fs log
  published : s.phase = .standby ∨ s.phase.Open → Published fs log
  selected : s.phase.Open → Selected fs s.address log
  native : s.phase ≠ .initialization → mode = .native

/-- Only a native card gets as far as to where registers can be reached. -/
theorem Enumerated.native_of_open {log : List (Turn σ)} {mode : BusMode} {s : Standing}
    (now : Enumerated fs log mode s) (reached : s.phase.Open) : mode = .native := by
  refine now.native fun beginning => ?_
  rcases reached with phase | phase <;> cases beginning.symm.trans phase

/-- At the beginning of enumeration, nothing is asked for. -/
theorem enumerated_of_beginning (fs : Functions σ) (log : List (Turn σ)) (mode : BusMode)
    {s : Standing} (phase : s.phase = .initialization) (ready : s.ready = false) :
    Enumerated fs log mode s where
  agreed up := by rw [ready] at up; cases up
  published further := by rw [phase] at further; exact absurd further (by decide)
  selected further := by rw [phase] at further; exact absurd further (by decide)
  native further := absurd phase further

/-- **A move of enumeration** keeps what the host has done, and is done by the host where it asks for
more. -/
theorem enumerated_moves {log : List (Turn σ)} {op : Card.Operation} {s : Standing}
    (now : Enumerated fs log a.card.mode a.card.standing) (spared : ¬ Turn.Resets fs ⟨a, op⟩)
    (left : Turn.Deselects ⟨a, op⟩ → s.phase = .standby) (moves : a.card.Moves op s) :
    Enumerated fs (log ++ [⟨a, op⟩]) a.card.mode s := by
  have keepAgreed : Agreed fs log → Agreed fs (log ++ [⟨a, op⟩]) := fun agreed =>
    since_concat.mpr (.inr ⟨agreed, spared⟩)
  have keepPublished : Published fs log → Published fs (log ++ [⟨a, op⟩]) := fun published =>
    since_concat.mpr (.inr ⟨published, spared⟩)
  have keepSelected : s.phase.Open → Selected fs a.card.address log →
      Selected fs a.card.address (log ++ [⟨a, op⟩]) := by
    refine fun further selected => since_concat.mpr (.inr ⟨selected, spared, fun other => ?_⟩)
    rw [left other] at further
    exact absurd further Phase.not_open_standby
  cases moves with
  | lasts lasts =>
    rcases lasts with rfl | ⟨running, rfl⟩
    · exact
      { agreed := fun up => keepAgreed (now.agreed up)
        published := fun further => keepPublished (now.published further)
        selected := fun further => keepSelected further (now.selected further)
        native := now.native }
    · have reached : a.card.standing.phase.Open := .inr running
      exact
      { agreed := fun up => keepAgreed (now.agreed up)
        published := fun _ => keepPublished (now.published (.inr reached))
        selected := fun further => keepSelected further (now.selected reached)
        native := fun _ => now.native_of_open reached }
  | @agrees argument legal some =>
    have phase : a.card.standing.phase = .initialization := legal
    exact
    { agreed := fun _ => since_concat.mpr (.inl ⟨argument, some, rfl, legal⟩)
      published := fun further => keepPublished (now.published further)
      selected := fun further => keepSelected further (now.selected further)
      native := fun further => absurd phase further }
  | @publishes argument legal =>
    have agreed : Agreed fs log := now.agreed legal.2.1
    exact
    { agreed := fun _ => keepAgreed agreed
      published := fun _ => since_concat.mpr (.inl ⟨agreed, argument, rfl, legal⟩)
      selected := fun further => absurd further Phase.not_open_standby
      native := fun _ => legal.1 }
  | @selects argument legal meant =>
    have published : Published fs log := now.published (legal.2.imp_right .inl)
    exact
    { agreed := fun up => keepAgreed (now.agreed up)
      published := fun _ => keepPublished published
      selected := fun _ =>
        since_concat.mpr (.inl ⟨published, argument, ⟨rfl, legal⟩, meant, rfl⟩)
      native := fun _ => legal.1 }
  | deselects legal other =>
    exact
    { agreed := fun up => keepAgreed (now.agreed up)
      published := fun _ => keepPublished (now.published (legal.2.imp_right .inl))
      selected := fun further => absurd further Phase.not_open_standby
      native := fun _ => legal.1 }
  | deactivates legal =>
    exact
    { agreed := fun up => keepAgreed (now.agreed up)
      published := fun further => absurd further (not_or.mpr ⟨nofun, Phase.not_open_inactive⟩)
      selected := fun further => absurd further Phase.not_open_inactive
      native := fun _ => legal.1 }
  | opens legal =>
    have reached : a.card.standing.phase.Open := .inl legal
    exact
    { agreed := fun up => keepAgreed (now.agreed up)
      published := fun _ => keepPublished (now.published (.inr reached))
      selected := fun further => keepSelected further (now.selected reached)
      native := fun _ => now.native_of_open reached }

theorem perform_enumerated (fs : Functions σ) {log : List (Turn σ)} (op : Card.Operation)
    (now : Enumerated fs log a.card.mode a.card.standing) :
    Enumerated fs (log ++ [⟨a, op⟩]) (a.perform fs op).2.card.mode
      (a.perform fs op).2.card.standing := by
  rw [perform_mode]
  rcases perform_moves fs op a with ⟨-, standing⟩ | ⟨spared, moves⟩
  · rw [standing]
    exact enumerated_of_beginning fs _ _ rfl rfl
  · exact enumerated_moves now spared (closed_of_deselects fs) moves

/-- A run from a new card is enumerated as it stands. -/
theorem run_enumerated (fs : Functions σ) (model : CardModel) (s : σ) (ops : List Card.Operation) :
    let start : Attached σ := ⟨Card.new model, s⟩
    Enumerated fs (start.history fs ops) (start.run fs ops).card.mode
      (start.run fs ops).card.standing :=
  history_induction (fun log b => Enumerated fs log b.card.mode b.card.standing)
    (fun _ _ op now => perform_enumerated fs op now) (enumerated_of_beginning fs [] _ rfl rfl) ops

/-! ## Inactive cards -/

/-- A native card that is inactive accepts nothing but the command that does nothing. -/
theorem eq_zero_of_legal {c : Card} {number : UInt8} (native : c.mode = .native)
    (inactive : c.phase = .inactive) (legal : c.Legal number) : number = 0 := by
  unfold Card.Legal at legal
  rw [native, inactive] at legal
  split at legal
  next here => exact UInt8.toNat_inj.mp here
  all_goals simp at legal

/-- The command that every card accepts is not answered. -/
theorem command_goIdle (fs : Functions σ) (argument : UInt32) (a : Attached σ) :
    (a.command fs 0 argument).1.bytes = [] := by
  have accepted : a.refusal .goIdle = none := rfl
  have named : Command.ofWire 0 argument = .goIdle := rfl
  unfold Attached.command
  rw [execute_of_accepted fs named accepted]
  dsimp only [carryOut]
  rw [respond_r0]
  rfl

theorem silent_of_inactive (fs : Functions σ) (op : Card.Operation) (native : a.card.mode = .native)
    (inactive : a.card.phase = .inactive) : (a.perform fs op).1.Silent := by
  cases op with
  | command number argument =>
    show (a.command fs number argument).1.bytes = []
    by_cases legal : a.card.Legal number
    · rw [eq_zero_of_legal native inactive legal]
      exact command_goIdle fs argument a
    · rw [command_of_not_legal fs argument legal]
  | readData =>
    show (a.readData fs).1 = 0
    rw [readData_idle fs (by rw [inactive]; nofun)]
  | writeData | setFunctionIrq | setHandler | reset => trivial

/-- **An inactive card stays so** until it is reset, and tells the host nothing. -/
theorem perform_inactive (fs : Functions σ) {op : Card.Operation} (native : a.card.mode = .native)
    (inactive : a.card.phase = .inactive) (noReset : op ≠ .reset) :
    (a.perform fs op).2.card.standing = a.card.standing ∧ a.exchanges fs op = [] := by
  have quiet : a.exchanges fs op = [] :=
    exchanges_closed fs (by rw [inactive]; exact Phase.not_open_inactive) noReset
  refine ⟨?_, quiet⟩
  have standing : a.card.standing.phase = .inactive := inactive
  rcases perform_moves fs op a with ⟨⟨_, mem, -⟩, -⟩ | ⟨-, moves⟩
  · have none : a.exchanges fs op ≠ [] := List.ne_nil_of_mem mem
    exact absurd quiet none
  generalize (a.perform fs op).2.card.standing = s at moves
  -- every other move needs a command that the card refuses
  have refuses : ∀ {number : UInt8}, number ≠ 0 → ¬ a.card.Legal number := fun other legal =>
    other (eq_zero_of_legal native inactive legal)
  cases moves with
  | lasts lasts =>
    rcases lasts with rfl | ⟨running, -⟩
    · rfl
    · rw [standing] at running
      cases running
  | agrees legal | publishes legal | selects legal | deselects legal | deactivates legal
  | opens legal => exact absurd legal (refuses (by decide))

theorem run_inactive (fs : Functions σ) {later : List Card.Operation} (noReset : .reset ∉ later)
    {a : Attached σ} (native : a.card.mode = .native) (inactive : a.card.phase = .inactive) :
    (a.run fs later).card.standing = a.card.standing ∧
      ∀ event ∈ a.trace fs later, event.exchanges = [] ∧ event.answer.Silent := by
  induction later generalizing a with
  | nil => exact ⟨rfl, fun _ mem => absurd mem List.not_mem_nil⟩
  | cons op later ih =>
    obtain ⟨first, noReset⟩ := not_or.mp (mt List.mem_cons.mpr noReset)
    obtain ⟨standing, quiet⟩ := perform_inactive fs native inactive (Ne.symm first)
    have phase : (a.perform fs op).2.card.phase = .inactive :=
      (congrArg Standing.phase standing).trans inactive
    obtain ⟨rest, silent⟩ := ih noReset ((perform_mode fs a op).trans native) phase
    refine ⟨rest.trans standing, fun event mem => ?_⟩
    rcases List.mem_cons.mp mem with rfl | mem
    · exact ⟨quiet, silent_of_inactive fs op native inactive⟩
    · exact silent event mem

/-- **Enumeration gates the registers**, in every run of a new card. An operation that finds the card
outside the open phases does not reach its functions and changes no register but the interrupt lines;
only a reset does either. The card is in an open phase only if the host has enumerated it since the
last reset and selected it under the address that it has. And a card that is inactive stays so until
the next reset, with its address, and answers nothing. -/
theorem enumeration_gates_registers (fs : Functions σ) (model : CardModel) (s : σ)
    (ops : List Card.Operation) :
    let start : Attached σ := ⟨Card.new model, s⟩
    let now := start.run fs ops
    (∀ t ∈ start.history fs ops, ¬ t.found.card.phase.Open →
      t.operation = .reset ∧ t.found.exchanges fs t.operation = [⟨.reset, []⟩] ∨
      t.found.exchanges fs t.operation = [] ∧
        ∃ interruptPending,
          (t.left fs).card.area = { t.found.card.area with interruptPending }) ∧
    (now.card.phase.Open → Selected fs now.card.address (start.history fs ops)) ∧
    (now.card.phase = .inactive → ∀ later, .reset ∉ later →
      (now.run fs later).card.phase = .inactive ∧
      (now.run fs later).card.address = now.card.address ∧
      ∀ event ∈ now.trace fs later, event.exchanges = [] ∧ event.answer.Silent) := by
  intro start now
  have enumerated := run_enumerated fs model s ops
  refine ⟨fun t _ closed => ?_, enumerated.selected, fun inactive later noReset => ?_⟩
  · by_cases reset : t.operation = .reset
    · rw [reset]
      exact .inl ⟨rfl, rfl⟩
    · exact .inr ⟨exchanges_closed fs closed reset, (perform_closed fs closed reset).2⟩
  · have native : now.card.mode = .native :=
      enumerated.native fun beginning => by cases inactive.symm.trans beginning
    obtain ⟨standing, silent⟩ := run_inactive fs noReset native inactive
    exact ⟨(congrArg Standing.phase standing).trans inactive, congrArg Standing.address standing,
      silent⟩

/-- The host selects a native card under the first address that it publishes. -/
def selecting : List Card.Operation :=
  [.command 5 0x00ff8000, .command 3 0, .command 7 0x45670000]

/-- It may then make the card inactive, which silences even the command that publishes addresses. -/
theorem enumeration_gates_registers_plain :
    let start : Attached Unit := ⟨Card.new plainModel, ()⟩
    let quiet := start.run .numbered (selecting ++ [.command 15 0x45670000])
    Selected .numbered (start.run .numbered selecting).card.address
        (start.history .numbered selecting) ∧
      ∀ event ∈ quiet.trace .numbered [.command 3 0, .readData], event.answer.Silent := by
  obtain ⟨-, selected, -⟩ := enumeration_gates_registers .numbered plainModel () selecting
  obtain ⟨-, -, silent⟩ := enumeration_gates_registers .numbered plainModel ()
    (selecting ++ [.command 15 0x45670000])
  refine ⟨selected (by decide +kernel), fun event mem => ?_⟩
  exact ((silent (by decide +kernel) _ (by decide)).2.2 event mem).2

end Attached

end WlanCard
