import WlanCard.Proofs.Card.History
import WlanCard.Proofs.Card.Replay

/-!
# How operations move a card through enumeration

`Card.standing` is what of a card enumeration is about: its phase, its relative address and whether it
is ready, on a layout that nothing changes. An access to a register leaves a card where it stood, but
for a transfer that may be over, unless it resets the card (`Led`).

`Card.Moves` are the moves of the other operations, each with the command that makes it, and
`perform_moves` is the inversion of one operation: it resets the card, or it makes one of these moves.
Whether it resets the card is told by its exchanges with the functions behind the card, which are reset
with it. The proofs ask for less than a list of exchanges: any mark will do that resets make and no
other access touches (`Functions.Marks`).
-/

namespace WlanCard

/-! ## Where a card stands -/

/-- How far a card has been enumerated, and what it is laid out as. -/
structure Standing where
  layout : Layout
  phase : Phase
  address : UInt16
  ready : Bool

namespace Standing

/-- At the beginning of enumeration. -/
def restarted (s : Standing) : Standing :=
  { s with phase := .initialization, address := 0, ready := false }

/-- With the transfer over. -/
def ended (s : Standing) : Standing :=
  { s with phase := .command }

/-- The same standing, but for a transfer that may be over. -/
def Lasts (before after : Standing) : Prop :=
  after = before ∨ before.phase = .transfer ∧ after = before.ended

theorem Lasts.trans {s t u : Standing} (first : s.Lasts t) (second : t.Lasts u) : s.Lasts u := by
  rcases first with rfl | ⟨running, rfl⟩
  · exact second
  · rcases second with rfl | ⟨again, -⟩
    · exact .inr ⟨running, rfl⟩
    · cases again

theorem Lasts.restarted {s t : Standing} (lasts : s.Lasts t) : t.restarted = s.restarted := by
  rcases lasts with rfl | ⟨-, rfl⟩ <;> rfl

/-- At the beginning of enumeration there is no transfer to end. -/
theorem Lasts.eq_restarted {s t : Standing} (lasts : s.restarted.Lasts t) : t = s.restarted := by
  rcases lasts with rfl | ⟨running, -⟩
  · rfl
  · cases running

end Standing

/-- Where a card stands. -/
def Card.standing (c : Card) : Standing where
  layout := c.area.layout
  phase := c.phase
  address := c.address
  ready := c.ready

namespace Card

theorem endTransfer_standing (c : Card) : c.endTransfer.standing = c.standing.ended := by
  unfold endTransfer
  split <;> rfl

theorem endTransfer_status (c : Card) : c.endTransfer.status = c.status := by
  unfold endTransfer
  split <;> rfl

/-- An abort ends a transfer, if it does anything. -/
theorem abort_lasts (c : Card) (f : FunctionNumber) : c.standing.Lasts (c.abort f).standing := by
  unfold abort
  split
  next can =>
    have running : c.phase = .transfer := by
      simp only [canAbort, Bool.and_eq_true, beq_iff_eq] at can
      exact can.1.1
    exact .inr ⟨running, endTransfer_standing c⟩
  · exact .inl rfl

theorem abort_status (c : Card) (f : FunctionNumber) : (c.abort f).status = c.status := by
  unfold abort
  split
  · exact endTransfer_status c
  · rfl

end Card

/-- Data flows only while a transfer runs. -/
theorem Card.phase_of_openDataPath {c : Card} {t : Transfer} (flowing : c.openDataPath? = some t) :
    c.phase = .transfer := by
  unfold openDataPath? at flowing
  split at flowing
  next running => exact running.1
  · cases flowing

/-! ## Resets, as the functions can tell -/

/-- A mark on the state of some functions that a reset makes and no other access touches. -/
structure Functions.Marks {σ : Type} (fs : Functions σ) (marked : σ → Prop) : Prop where
  reset : ∀ s, marked (fs.reset s)
  read : ∀ f address length how s, marked (fs.read f address length how s).2 ↔ marked s
  write : ∀ f address bytes how s, marked (fs.write f address bytes how s) ↔ marked s
  readStorage : ∀ f address s, marked (fs.readStorage f address s).2 ↔ marked s
  writeStorage : ∀ f address value s, marked (fs.writeStorage f address value s) ↔ marked s

/-- A note of a reset is such a mark. -/
theorem Functions.observed_marks {σ : Type} (fs : Functions σ) :
    fs.observed.Marks fun s => ∃ exchange ∈ s.2, exchange.access = .reset := by
  have other : ∀ (notes : List Exchange) (next : Exchange), next.access ≠ .reset →
      ((∃ exchange ∈ notes ++ [next], exchange.access = .reset) ↔
        ∃ exchange ∈ notes, exchange.access = .reset) := by
    intro notes next spared
    simp only [List.mem_append, List.mem_singleton, or_and_right, exists_or, exists_eq_left, spared,
      or_false]
  exact {
    reset := fun s => ⟨⟨.reset, []⟩, List.mem_append_right _ (List.mem_singleton_self _), rfl⟩
    read := fun _ _ _ _ s => other s.2 _ nofun
    write := fun _ _ _ _ s => other s.2 _ nofun
    readStorage := fun _ _ s => other s.2 _ nofun
    writeStorage := fun _ _ _ s => other s.2 _ nofun }

/-- So is a mark that is always there. -/
theorem Functions.marks_true {σ : Type} (fs : Functions σ) : fs.Marks fun _ => True where
  reset _ := trivial
  read _ _ _ _ _ := .rfl
  write _ _ _ _ _ := .rfl
  readStorage _ _ _ := .rfl
  writeStorage _ _ _ _ := .rfl

variable {σ : Type} {fs : Functions σ} {marked : σ → Prop}

namespace CommonArea

theorem readByte_marked (marks : fs.Marks marked) (address : Nat) (area : CommonArea) (s : σ) :
    marked (area.readByte fs address s).2.2 ↔ marked s := by
  unfold readByte
  split
  · rfl
  · unfold readFunction
    split
    · exact marks.readStorage ..
    · rfl
  · rfl

theorem read_marked (marks : fs.Marks marked) (how : Addressing) (address length : Nat)
    (area : CommonArea) (s : σ) : marked (read fs how address length area s).2.2 ↔ marked s := by
  induction length generalizing address area s with
  | zero => rfl
  | succ length ih =>
    unfold read
    split
    · exact (ih ..).trans (readByte_marked marks ..)
    · rfl

theorem writeByte_marked (marks : fs.Marks marked) (address : Nat) (value : UInt8)
    (area : CommonArea) (s : σ) : marked (area.writeByte fs address value s).2.2 ↔ marked s := by
  unfold writeByte
  split
  · rfl
  · unfold writeFunction
    split
    · exact marks.writeStorage ..
    · rfl
  · rfl

end CommonArea

namespace Attached

/-! ## Accesses -/

/-- How an access leaves a card: where it stood, with the status that it had, or reset. -/
inductive Led (marked : σ → Prop) (before after : Attached σ) : Prop where
  | stays (spared : marked after.device ↔ marked before.device)
    (standing : before.card.standing.Lasts after.card.standing)
    (status : after.card.status = before.card.status)
  | restarts (reset : marked after.device)
    (standing : after.card.standing = before.card.standing.restarted)
    (status : after.card.status = .powerOn)

variable {a b c : Attached σ}

theorem Led.refl (marked : σ → Prop) (a : Attached σ) : a.Led marked a :=
  .stays .rfl (.inl rfl) rfl

theorem Led.trans (first : a.Led marked b) (second : b.Led marked c) : a.Led marked c := by
  cases first with
  | stays spared standing status =>
    cases second with
    | stays spared' standing' status' =>
      exact .stays (spared'.trans spared) (standing.trans standing') (status'.trans status)
    | restarts reset' standing' status' =>
      exact .restarts reset' (standing'.trans standing.restarted) status'
  | restarts reset standing status =>
    cases second with
    | stays spared' standing' status' =>
      rw [standing] at standing'
      exact .restarts (spared'.mpr reset) standing'.eq_restarted (status'.trans status)
    | restarts reset' standing' status' =>
      refine .restarts reset' ?_ status'
      rw [standing', standing]
      rfl

/-- Only the layout of the registers matters for the standing. -/
theorem led_of_area {area : CommonArea} {s : σ} (layout : area.layout = a.card.area.layout)
    (spared : marked s ↔ marked a.device) :
    a.Led marked { card := { a.card with area := area }, device := s } := by
  refine .stays spared (.inl ?_) rfl
  unfold Card.standing
  rw [layout]

variable (marks : fs.Marks marked)
include marks

theorem apply_led (effect : CommonArea.Effect) (a : Attached σ) :
    a.Led marked (a.apply fs effect) := by
  cases effect with
  | nothing => exact .refl marked a
  | interrupts => exact .stays .rfl (.inl rfl) rfl
  | busControl =>
    unfold apply
    dsimp only
    split <;> exact .stays .rfl (.inl rfl) rfl
  | reset => exact .restarts (marks.reset _) rfl rfl
  | abort f => exact .stays .rfl (a.card.abort_lasts f) (a.card.abort_status f)

theorem writeCommonByte_led (address : UInt32) (value : UInt8) (a : Attached σ) :
    a.Led marked (a.writeCommonByte fs address value) := by
  have kept := CommonArea.writeByte_keeps fs address.toNat value a.card.area a.device
  have spared := CommonArea.writeByte_marked marks address.toNat value a.card.area a.device
  exact (led_of_area kept.layout spared).trans (apply_led marks _ _)

theorem writeCommon_led (how : Addressing) (address : UInt32) (bytes : List UInt8)
    (a : Attached σ) : a.Led marked (a.writeCommon fs how address bytes) := by
  induction bytes generalizing address a with
  | nil => exact .refl marked a
  | cons value rest ih =>
    unfold writeCommon
    split
    · exact .refl marked a
    · exact (writeCommonByte_led marks address value a).trans (ih ..)

theorem write_led (f : FunctionNumber) (address : UInt32) (bytes : List UInt8) (how : Addressing)
    (a : Attached σ) : a.Led marked (a.write fs f address bytes how) := by
  unfold write
  split
  · exact writeCommon_led marks ..
  · exact .stays (marks.write ..) (.inl rfl) rfl
  · exact .refl marked a

/-- A read resets nothing. -/
theorem read_spared (f : FunctionNumber) (address : UInt32) (length : Nat) (how : Addressing)
    (a : Attached σ) : marked (a.read fs f address length how).2.device ↔ marked a.device := by
  unfold read
  split
  · exact CommonArea.read_marked marks ..
  · exact marks.read ..
  · rfl

theorem read_led (f : FunctionNumber) (address : UInt32) (length : Nat) (how : Addressing)
    (a : Attached σ) : a.Led marked (a.read fs f address length how).2 := by
  unfold read
  split
  · exact led_of_area (CommonArea.read_keeps ..).layout (CommonArea.read_marked marks ..)
  · exact .stays (marks.read ..) (.inl rfl) rfl
  · exact .refl marked a

theorem directWrite_led (q : DirectRequest) (a : Attached σ) :
    a.Led marked (a.directWrite fs q) := by
  unfold directWrite
  split
  · exact write_led marks ..
  · exact .refl marked a

theorem directRead_led (q : DirectRequest) (a : Attached σ) : a.Led marked (a.directRead fs q) := by
  unfold directRead
  split
  · exact (read_led marks q.function q.address 1 .incrementing a).trans (.stays .rfl (.inl rfl) rfl)
  · exact .refl marked a

/-! ## Data -/

omit marks in
/-- What follows a finished block ends the transfer or goes on with it. -/
theorem finish_led (running : a.card.phase = .transfer) (finished : Bool × Transfer) :
    a.Led marked
      (if finished.1 then { a with card := a.card.endTransfer } else a.setTransfer finished.2) := by
  split
  · exact .stays .rfl (.inr ⟨running, a.card.endTransfer_standing⟩) a.card.endTransfer_status
  · exact .stays .rfl (.inl rfl) rfl

theorem writeData_led (value : UInt8) (a : Attached σ) : a.Led marked (a.writeData fs value) := by
  unfold writeData
  split
  · exact .refl marked a
  next t _ =>
    split
    · exact .refl marked a
    · dsimp only
      split
      · unfold flush
        dsimp only
        have written := write_led marks t.function t.start (t.put value).staging.toList t.addressing a
        refine written.trans ?_
        split
        next running => exact finish_led running _
        next => exact .refl marked _
      · exact .stays .rfl (.inl rfl) rfl

theorem fetch_led (t : Transfer) (a : Attached σ) : a.Led marked (a.fetch fs t).2 := by
  unfold fetch
  split
  · exact read_led marks ..
  · exact .refl marked a

theorem readData_led (a : Attached σ) : a.Led marked (a.readData fs).2 := by
  unfold readData
  split
  · exact .refl marked a
  next t flowing =>
    split
    · exact .refl marked a
    · have running : (a.fetch fs t).2.card.phase = .transfer := by
        have kept : a.card.KeepsFlow (a.fetch fs t).2.card := by
          unfold fetch
          split
          · exact read_keepsFlow ..
          · exact .refl a.card
        exact kept.phase.trans (Card.phase_of_openDataPath flowing)
      refine (fetch_led marks t a).trans ?_
      unfold moveOn
      dsimp only
      split
      · exact finish_led running _
      · exact .stays .rfl (.inl rfl) rfl

omit marks

/-- **Every operation but a command** leaves a card so. -/
theorem perform_led (marks : fs.Marks marked) {op : Card.Operation}
    (other : ∀ number argument, op ≠ .command number argument) (a : Attached σ) :
    a.Led marked (a.perform fs op).2 := by
  cases op with
  | command number argument => exact absurd rfl (other number argument)
  | writeData value => exact writeData_led marks value a
  | readData => exact readData_led marks a
  | setFunctionIrq line level => exact .stays .rfl (.inl rfl) rfl
  | setHandler f handler =>
    show a.Led marked { a with card := a.card.setHandler f handler }
    unfold Card.setHandler
    split
    · exact .refl marked a
    · exact .stays .rfl (.inl rfl) rfl
  | reset => exact .restarts (marks.reset _) rfl rfl

/-! ## Commands -/

/-- What a command finds stands where the card stood. -/
theorem prepare_standing (number : UInt8) (command : Command) (a : Attached σ) :
    (a.prepare number command).card.standing = a.card.standing := by
  simp only [prepare, noteCommand]
  split <;> rfl

/-- A response changes nothing but the status. -/
theorem command_standing (fs : Functions σ) (number : UInt8) (argument : UInt32) (a : Attached σ) :
    (a.command fs number argument).2.card.standing = (a.execute fs number argument).2.card.standing :=
  rfl

end Attached

namespace Card

/-- How an operation other than a reset moves a card through enumeration. -/
inductive Moves (c : Card) : Operation → Standing → Prop where
  /-- It does not, but for a transfer that may be over. -/
  | lasts {op : Operation} {s : Standing} (lasts : c.standing.Lasts s) : Moves c op s
  | agrees {argument : UInt32} (legal : c.Legal 5) (some : argument ≠ 0) :
    Moves c (.command 5 argument) { c.standing with ready := true }
  | publishes {argument : UInt32} (legal : c.Legal 3) :
    Moves c (.command 3 argument)
      { c.standing with phase := .standby, address := c.address + addressStep }
  | selects {argument : UInt32} (legal : c.Legal 7)
    (meant : Command.addressArgument argument = c.address) :
    Moves c (.command 7 argument) { c.standing with phase := .command }
  | deselects {argument : UInt32} (legal : c.Legal 7)
    (other : Command.addressArgument argument ≠ c.address) :
    Moves c (.command 7 argument) { c.standing with phase := .standby }
  | deactivates {argument : UInt32} (legal : c.Legal 15) :
    Moves c (.command 15 argument) { c.standing with phase := .inactive }
  | opens {argument : UInt32} (legal : c.Legal 53) :
    Moves c (.command 53 argument) { c.standing with phase := .transfer }

/-- Cards that stand alike and accept the same commands make the same moves. -/
theorem Moves.congr {c d : Card} {op : Operation} {s : Standing} (moves : c.Moves op s)
    (standing : c.standing = d.standing) (legal : ∀ number, c.Legal number → d.Legal number) :
    d.Moves op s := by
  have address : c.address = d.address := congrArg Standing.address standing
  cases moves with
  | lasts lasts => exact .lasts (standing ▸ lasts)
  | agrees here some => exact standing ▸ .agrees (legal 5 here) some
  | publishes here => exact standing ▸ address ▸ .publishes (legal 3 here)
  | selects here meant => exact standing ▸ .selects (legal 7 here) (address ▸ meant)
  | deselects here other => exact standing ▸ .deselects (legal 7 here) (address ▸ other)
  | deactivates here => exact standing ▸ .deactivates (legal 15 here)
  | opens here => exact standing ▸ .opens (legal 53 here)

end Card

namespace Attached

/-- How an operation leaves a card: reset, and marked so, or moved on in enumeration. -/
def Steps (marked : σ → Prop) (op : Card.Operation) (before after : Attached σ) : Prop :=
  marked after.device ∧ after.card.standing = before.card.standing.restarted ∨
    (marked after.device ↔ marked before.device) ∧ before.card.Moves op after.card.standing

variable {a b : Attached σ}

theorem Led.steps (led : a.Led marked b) (op : Card.Operation) : a.Steps marked op b := by
  cases led with
  | stays spared standing status => exact .inr ⟨spared, .lasts standing⟩
  | restarts reset standing status => exact .inl ⟨reset, standing⟩

/-- Where the functions are not reached, a move is a step. -/
theorem steps_of_moves {op : Card.Operation} {c : Card} (moves : a.card.Moves op c.standing) :
    a.Steps marked op { a with card := c } :=
  .inr ⟨.rfl, moves⟩

theorem carryOut_steps (marks : fs.Marks marked) {number : UInt8} (argument : UInt32)
    (legal : a.card.Legal number) :
    a.Steps marked (.command number argument)
      (a.carryOut fs (Command.ofWire number argument)).2 := by
  unfold Command.ofWire
  split
  next here => exact (Led.refl marked a).steps _
  next here =>
    obtain rfl : number = 3 := UInt8.toNat_inj.mp here
    exact steps_of_moves (.publishes legal)
  next here =>
    obtain rfl : number = 5 := UInt8.toNat_inj.mp here
    simp only [carryOut, Card.agree]
    split
    · exact (Led.refl marked a).steps _
    next some => exact steps_of_moves (.agrees legal some)
  next here =>
    obtain rfl : number = 7 := UInt8.toNat_inj.mp here
    simp only [carryOut, Card.select]
    split
    · split
      next meant => exact steps_of_moves (.selects legal meant)
      · exact (Led.refl marked a).steps _
    · split
      · exact (Led.refl marked a).steps _
      next other => exact steps_of_moves (.deselects legal other)
  next here =>
    obtain rfl : number = 15 := UInt8.toNat_inj.mp here
    simp only [carryOut, Card.goInactive]
    split
    · exact steps_of_moves (.deactivates legal)
    · exact (Led.refl marked a).steps _
  next here =>
    let q := Command.directArgument argument
    show a.Steps marked _ (a.direct fs q)
    by_cases missing : a.card.functionCount < q.function
    · rw [direct_of_missing fs missing]
      exact steps_of_moves (.lasts (.inl rfl))
    · rw [direct_of_present fs missing]
      have noted : a.Led marked { a with card.directData := q.value } := .stays .rfl (.inl rfl) rfl
      exact ((noted.trans (directWrite_led marks q _)).trans (directRead_led marks q _)).steps _
  next here =>
    obtain rfl : number = 53 := UInt8.toNat_inj.mp here
    simp only [carryOut, Card.openTransfer]
    split
    · exact steps_of_moves (.lasts (.inl rfl))
    · split
      · exact steps_of_moves (.lasts (.inl rfl))
      · exact steps_of_moves (.opens legal)
  · exact (Led.refl marked a).steps _
  · exact (Led.refl marked a).steps _

theorem prepare_legal_iff (number : UInt8) (noted : Command) (a : Attached σ) (other : UInt8) :
    (a.prepare number noted).card.Legal other ↔ a.card.Legal other := by
  have same := refusal_prepare number noted (Command.ofWire other 0) a
  rw [← Command.refusal_eq_none_iff _ other 0, ← Command.refusal_eq_none_iff _ other 0]
  exact Eq.congr_left same

theorem command_steps (marks : fs.Marks marked) (number : UInt8) (argument : UInt32)
    (a : Attached σ) :
    a.Steps marked (.command number argument) (a.command fs number argument).2 := by
  by_cases legal : a.card.Legal number
  · let found := a.prepare number (Command.ofWire number argument)
    have done := carryOut_steps marks (a := found) argument ((prepare_legal_iff ..).mpr legal)
    have same : found.card.standing = a.card.standing := prepare_standing ..
    have card : (a.command fs number argument).2.card.standing =
        (found.carryOut fs (Command.ofWire number argument)).2.card.standing := by
      rw [command_standing, execute_of_legal fs argument legal]
    have device : (a.command fs number argument).2.device =
        (found.carryOut fs (Command.ofWire number argument)).2.device := by
      show (a.execute fs number argument).2.device = _
      rw [execute_of_legal fs argument legal]
    unfold Steps
    rw [card, device, ← same]
    exact done.imp_right fun ⟨spared, moves⟩ =>
      ⟨spared, moves.congr same fun _ => (prepare_legal_iff ..).mp⟩
  · rw [command_of_not_legal fs argument legal]
    exact steps_of_moves (.lasts (.inl rfl))

/-- **How an operation moves a card**, with functions that mark resets. -/
theorem perform_steps (marks : fs.Marks marked) (op : Card.Operation) (a : Attached σ) :
    a.Steps marked op (a.perform fs op).2 := by
  cases op with
  | command number argument => exact command_steps marks number argument a
  | writeData | readData | setFunctionIrq | setHandler | reset =>
    refine (perform_led marks (fun number argument same => ?_) a).steps _
    cases same

/-- **One operation** resets the card, as its exchanges tell, or moves it on in enumeration. -/
theorem perform_moves (fs : Functions σ) (op : Card.Operation) (a : Attached σ) :
    Turn.Resets fs ⟨a, op⟩ ∧ (a.perform fs op).2.card.standing = a.card.standing.restarted ∨
      ¬ Turn.Resets fs ⟨a, op⟩ ∧ a.card.Moves op (a.perform fs op).2.card.standing := by
  have steps := perform_steps fs.observed_marks op a.watched
  have observed : (a.watched.perform fs.observed op).2.card = (a.perform fs op).2.card :=
    congrArg (·.2.card) (perform_observed fs op a [])
  have unmarked : ¬ ∃ exchange ∈ a.watched.device.2, exchange.access = .reset := by
    rintro ⟨_, mem, -⟩
    cases mem
  unfold Steps at steps
  rw [observed] at steps
  exact steps.imp_right fun ⟨spared, moves⟩ => ⟨mt spared.mp unmarked, moves⟩

/-- Nothing changes what a card is laid out as. -/
theorem perform_layout (fs : Functions σ) (op : Card.Operation) (a : Attached σ) :
    (a.perform fs op).2.card.area.layout = a.card.area.layout := by
  show (a.perform fs op).2.card.standing.layout = a.card.standing.layout
  rcases perform_moves fs op a with ⟨-, restarted⟩ | ⟨-, moves⟩
  · rw [restarted]
    rfl
  · generalize (a.perform fs op).2.card.standing = after at moves
    cases moves with
    | lasts lasts => rcases lasts with rfl | ⟨-, rfl⟩ <;> rfl
    | agrees | publishes | selects | deselects | deactivates | opens => rfl

end Attached

end WlanCard
