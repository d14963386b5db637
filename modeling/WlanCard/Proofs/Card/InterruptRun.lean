import Mathlib.Data.List.Induction
import WlanCard.Proofs.Card.InterruptLine

/-!
# When the interrupt line is out of date

Every operation follows the interrupt line as `Card.Tracks` says (`perform_tracks`), and one that
derives the line again leaves it in order (`perform_derives`). By induction over a run, the line of a
native card is high only when an interrupt is asked for; and outside a transfer it is low then only
where it was left behind (`LeftBehind`): the bus was taken off four data lines in the course of a
transfer, and nothing has derived the line since (`irq_iff_or_leftBehind`).
-/

namespace WlanCard

namespace Card

/-- An operation derives the interrupt line again: it drives a line of a function, resets the card, or
writes the interrupt enables. -/
def DerivesLine (c : Card) : Operation → Prop
  | .setFunctionIrq _ _ | .reset => True
  | op => ∃ bytes, c.WritesOwn op bytes ∧ ∃ byte ∈ bytes, CommonArea.DerivesLine byte

/-- No interrupt is asked for on a new card, and the line is low. -/
theorem new_shows (model : CardModel) : (Card.new model).Shows :=
  (asksInterrupt_of_disabled rfl).symm

theorem refuse_keepsLine (c : Card) : c.KeepsLine c.refuse.2 :=
  ⟨⟨rfl, rfl, rfl, rfl⟩, rfl, rfl⟩

theorem select_tracks (c : Card) (address : UInt16) (idle : c.phase ≠ .transfer) :
    c.Tracks (c.select address).2 := by
  have kept : c.KeepsRequest (c.select address).2 := by
    unfold select
    split <;> split <;> exact ⟨rfl, rfl, rfl, rfl⟩
  exact kept.tracks_of_idle idle

theorem openTransfer_tracks (c : Card) (q : ExtendedRequest) (idle : c.phase ≠ .transfer) :
    c.Tracks (c.openTransfer q).2 := by
  have kept : c.KeepsRequest (c.openTransfer q).2 := by
    unfold openTransfer
    dsimp only
    split
    · exact ⟨rfl, rfl, rfl, rfl⟩
    · split <;> exact ⟨rfl, rfl, rfl, rfl⟩
  exact kept.tracks_of_idle idle

end Card

namespace Attached

open Card

variable {σ : Type}

/-! ## Register accesses -/

theorem write_tracks (fs : Functions σ) (f : FunctionNumber) (address : UInt32) (bytes : List UInt8)
    (how : Addressing) (a : Attached σ) :
    a.card.Tracks (a.write fs f address bytes how).card := by
  unfold write
  split
  · exact writeCommon_tracks ..
  · exact .refl a.card
  · exact .refl a.card

theorem read_keepsLine (fs : Functions σ) (f : FunctionNumber) (address : UInt32) (length : Nat)
    (how : Addressing) (a : Attached σ) :
    a.card.KeepsLine (a.read fs f address length how).2.card := by
  unfold read
  split
  · exact keepsLine_of_area (CommonArea.read_keepsInterrupts ..)
  · exact .refl a.card
  · exact .refl a.card

theorem directRead_keepsLine (fs : Functions σ) (q : DirectRequest) (a : Attached σ) :
    a.card.KeepsLine (a.directRead fs q).card := by
  unfold directRead
  split
  · exact (read_keepsLine fs q.function q.address 1 .incrementing a).trans
      ⟨⟨rfl, rfl, rfl, rfl⟩, rfl, rfl⟩
  · exact .refl a.card

theorem direct_tracks (fs : Functions σ) (q : DirectRequest) (a : Attached σ) :
    a.card.Tracks (a.direct fs q).card := by
  unfold direct
  dsimp only
  split
  · exact KeepsLine.tracks ⟨⟨rfl, rfl, rfl, rfl⟩, rfl, rfl⟩
  · let noted : Attached σ := { a with card.directData := q.value }
    have kept : a.card.KeepsLine noted.card := ⟨⟨rfl, rfl, rfl, rfl⟩, rfl, rfl⟩
    have written : noted.card.Tracks (noted.directWrite fs q).card := by
      unfold directWrite
      split
      · exact write_tracks ..
      · exact .refl noted.card
    exact kept.trans_tracks (written.trans_keepsLine (directRead_keepsLine fs q _))

/-! ## Commands -/

theorem prepare_keepsLine (number : UInt8) (command : Command) (a : Attached σ) :
    a.card.KeepsLine (a.prepare number command).card := by
  simp only [prepare, noteCommand]
  split <;> exact ⟨⟨rfl, rfl, rfl, rfl⟩, rfl, rfl⟩

/-- During a transfer a card carries out direct accesses and the commands that do nothing. -/
theorem accepted_of_transfer {a : Attached σ} {command : Command} (running : a.card.phase = .transfer)
    (accepted : a.refusal command = none) :
    command = .goIdle ∨ command = .crcSwitch ∨ ∃ q, command = .direct q := by
  unfold refusal at accepted
  rw [running] at accepted
  cases command with
  | goIdle => exact .inl rfl
  | crcSwitch => exact .inr (.inl rfl)
  | direct q => exact .inr (.inr ⟨q, rfl⟩)
  | sendOperatingConditions | extended | unknown => cases accepted
  | sendRelativeAddress | select | goInactive =>
    dsimp only [Command.refusal] at accepted
    split at accepted <;> cases accepted

theorem carryOut_tracks (fs : Functions σ) (a : Attached σ) (command : Command)
    (accepted : a.refusal command = none) : a.card.Tracks (a.carryOut fs command).2.card := by
  by_cases running : a.card.phase = .transfer
  · rcases accepted_of_transfer running accepted with rfl | rfl | ⟨q, rfl⟩
    · exact .refl a.card
    · exact .refl a.card
    · exact direct_tracks fs q a
  · cases command with
    | goIdle | crcSwitch | unknown => exact .refl a.card
    | sendRelativeAddress => exact KeepsRequest.tracks_of_idle ⟨rfl, rfl, rfl, rfl⟩ running
    | sendOperatingConditions conditions =>
      simp only [carryOut, agree]
      split <;> exact KeepsRequest.tracks_of_idle ⟨rfl, rfl, rfl, rfl⟩ running
    | select address => exact select_tracks a.card address running
    | goInactive address =>
      simp only [carryOut, goInactive]
      split <;> exact KeepsRequest.tracks_of_idle ⟨rfl, rfl, rfl, rfl⟩ running
    | direct q => exact direct_tracks fs q a
    | extended q => exact openTransfer_tracks a.card q running

theorem command_tracks (fs : Functions σ) (number : UInt8) (argument : UInt32) (a : Attached σ) :
    a.card.Tracks (a.command fs number argument).2.card := by
  let command := Command.ofWire number argument
  have prepared := prepare_keepsLine number command a
  have executed : a.card.Tracks (a.execute fs number argument).2.card := by
    cases refused : a.refusal command with
    | none =>
      rw [execute_of_accepted fs rfl refused]
      have accepted : (a.prepare number command).refusal command = none :=
        (refusal_prepare ..).trans refused
      exact prepared.trans_tracks (carryOut_tracks fs _ command accepted)
    | some why =>
      rw [execute_of_refused fs rfl refused]
      exact (prepared.trans (refuse_keepsLine _)).tracks
  exact executed.trans_keepsLine ⟨⟨rfl, rfl, rfl, rfl⟩, rfl, rfl⟩

/-! ## Data -/

theorem finish_tracks {c : Card} {a : Attached σ} (tracks : c.Tracks a.card)
    (finished : Bool × Transfer) :
    c.Tracks
      (if finished.1 then { a with card := a.card.endTransfer }
        else a.setTransfer finished.2 : Attached σ).card := by
  split
  · exact tracks.endTransfer
  · exact tracks.trans_keepsLine ⟨⟨rfl, rfl, rfl, rfl⟩, rfl, rfl⟩

theorem flush_tracks (fs : Functions σ) (t : Transfer) (a : Attached σ) :
    a.card.Tracks (a.flush fs t).card := by
  have written := write_tracks fs t.function t.start t.staging.toList t.addressing a
  unfold flush
  dsimp only
  split
  · exact finish_tracks written _
  · exact written

theorem writeData_tracks (fs : Functions σ) (value : UInt8) (a : Attached σ) :
    a.card.Tracks (a.writeData fs value).card := by
  unfold writeData
  split
  · exact .refl a.card
  · split
    · exact .refl a.card
    · dsimp only
      split
      · exact flush_tracks ..
      · exact KeepsLine.tracks ⟨⟨rfl, rfl, rfl, rfl⟩, rfl, rfl⟩

theorem readData_tracks (fs : Functions σ) (a : Attached σ) :
    a.card.Tracks (a.readData fs).2.card := by
  unfold readData
  split
  · exact .refl a.card
  next t _ =>
    split
    · exact .refl a.card
    · have fetched : a.card.Tracks (a.fetch fs t).2.card := by
        unfold fetch
        split
        · exact (read_keepsLine ..).tracks
        · exact .refl a.card
      unfold moveOn
      dsimp only
      split
      · exact finish_tracks fetched _
      · exact fetched.trans_keepsLine ⟨⟨rfl, rfl, rfl, rfl⟩, rfl, rfl⟩

/-! ## Operations -/

/-- **Every operation follows the line**, but the one that drives a line of a function. -/
theorem perform_tracks (fs : Functions σ) (a : Attached σ) (op : Operation)
    (host : ∀ line level, op ≠ .setFunctionIrq line level) :
    a.card.Tracks (a.perform fs op).2.card := by
  cases op with
  | command number argument => exact command_tracks ..
  | writeData value => exact writeData_tracks ..
  | readData => exact readData_tracks ..
  | setFunctionIrq line level => exact absurd rfl (host line level)
  | setHandler f handler =>
    refine KeepsLine.tracks ?_
    show a.card.KeepsLine (a.card.setHandler f handler)
    unfold setHandler
    split
    · exact .refl a.card
    · exact ⟨⟨rfl, rfl, rfl, rfl⟩, rfl, rfl⟩
  | reset =>
    have derived : a.card.Tracks a.card.reset.updateIrq := tracks_updateIrq rfl (.inr rfl)
    exact derived

/-- The bus stays native. -/
theorem perform_mode (fs : Functions σ) (a : Attached σ) (op : Operation) :
    (a.perform fs op).2.card.mode = a.card.mode := by
  cases op with
  | setFunctionIrq line level => rfl
  | command | writeData | readData | setHandler | reset =>
    refine (perform_tracks fs a _ fun line level same => ?_).mode
    cases same

/-- A line that is high only when an interrupt is asked for stays so. -/
theorem perform_honest (fs : Functions σ) {a : Attached σ} (op : Operation)
    (honest : a.card.irq = true → a.card.asksInterrupt = true) :
    (a.perform fs op).2.card.irq = true → (a.perform fs op).2.card.asksInterrupt = true := by
  cases op with
  | setFunctionIrq line level => exact asksInterrupt_of_interruptLevel
  | command | writeData | readData | setHandler | reset =>
    refine (perform_tracks fs a _ fun line level same => ?_).honest honest
    cases same

/-- An operation that writes to the card's own registers does not lose what its bytes settle. -/
theorem settles_of_writesOwn (fs : Functions σ) {a : Attached σ} {op : Operation}
    {bytes : List (UInt32 × UInt8)} (native : a.card.mode = .native)
    (writes : a.card.WritesOwn op bytes) (derives : ∃ byte ∈ bytes, CommonArea.DerivesLine byte) :
    a.card.Settles (a.perform fs op).2.card := by
  cases writes with
  | @direct argument q asks reached writes present own =>
    obtain ⟨_, _, same⟩ := a.asked_card q
    have found : a.card.KeepsLine (a.asked q).card := by
      rw [same]
      exact ⟨⟨rfl, rfl, rfl, rfl⟩, rfl, rfl⟩
    have written := writeCommon_derives fs .incrementing (found.mode.trans native) derives
    rw [perform_direct_own fs asks reached writes present own, ← writeCommon_eq_writePlaced]
    have answered := written.trans_keepsLine (directRead_keepsLine fs q _)
    exact (found.trans_settles answered).trans_keepsLine ⟨⟨rfl, rfl, rfl, rfl⟩, rfl, rfl⟩
  | @block value t flowing writes full own =>
    have written := writeCommon_derives fs t.addressing native derives
    have mode := (writeCommon_tracks fs t.addressing t.start (t.put value).staging.toList a).mode
    rw [perform_block_own fs flowing writes full own, ← writeCommon_eq_writePlaced]
    dsimp only
    split
    · split
      · exact written.endTransfer (mode.trans native)
      · exact written.trans_keepsLine ⟨⟨rfl, rfl, rfl, rfl⟩, rfl, rfl⟩
    · exact written

/-- **An operation that derives the line** leaves it behind only if it also takes the bus off four
data lines in the course of a transfer. -/
theorem perform_derives (fs : Functions σ) {a : Attached σ} {op : Operation}
    (native : a.card.mode = .native) (derives : a.card.DerivesLine op) :
    a.card.Settles (a.perform fs op).2.card := by
  cases op with
  | setFunctionIrq line level => exact .inl (updateIrq_inOrder native)
  | reset => exact .inl (updateIrq_inOrder native)
  | command | writeData | readData | setHandler =>
    obtain ⟨bytes, writes, derives⟩ := derives
    exact settles_of_writesOwn fs native writes derives

/-! ## Runs -/

/-- After these operations the interrupt line is left behind. -/
inductive LeftBehind (fs : Functions σ) (a : Attached σ) : List Operation → Prop where
  /-- The last operation has taken the bus off four data lines in the course of a transfer. -/
  | narrowed {ops : List Operation} {op : Operation}
      (narrows : (a.run fs ops).card.Narrows (a.run fs (ops ++ [op])).card)
      (behind : ¬ (a.run fs (ops ++ [op])).card.InOrder) : LeftBehind fs a (ops ++ [op])
  /-- The line was left behind before, and the last operation has not derived it again. -/
  | quiet {ops : List Operation} {op : Operation} (left : LeftBehind fs a ops)
      (keeps : ¬ (a.run fs ops).card.DerivesLine op)
      (behind : ¬ (a.run fs (ops ++ [op])).card.InOrder) : LeftBehind fs a (ops ++ [op])

theorem run_mode (fs : Functions σ) (ops : List Operation) (a : Attached σ) :
    (a.run fs ops).card.mode = a.card.mode := by
  induction ops generalizing a with
  | nil => rfl
  | cons op ops ih => exact (ih _).trans (perform_mode fs a op)

theorem run_honest (fs : Functions σ) (ops : List Operation) {a : Attached σ}
    (honest : a.card.irq = true → a.card.asksInterrupt = true) :
    (a.run fs ops).card.irq = true → (a.run fs ops).card.asksInterrupt = true := by
  induction ops generalizing a with
  | nil => exact honest
  | cons op ops ih => exact ih (perform_honest fs op honest)

/-- One operation more: the line is in order, or it is left behind. -/
theorem inOrder_or_leftBehind_concat {fs : Functions σ} {a : Attached σ} {ops : List Operation}
    (op : Operation) (native : a.card.mode = .native)
    (before : (a.run fs ops).card.InOrder ∨ a.LeftBehind fs ops) :
    (a.run fs (ops ++ [op])).card.InOrder ∨ a.LeftBehind fs (ops ++ [op]) := by
  have native' : (a.run fs ops).card.mode = .native := (run_mode fs ops a).trans native
  have after := run_concat fs ops op a
  by_cases behind : (a.run fs (ops ++ [op])).card.InOrder
  · exact .inl behind
  refine .inr ?_
  have settled (settles : (a.run fs ops).card.Settles (a.run fs (ops ++ [op])).card) :
      a.LeftBehind fs (ops ++ [op]) := .narrowed (settles.resolve_left behind) behind
  by_cases derives : (a.run fs ops).card.DerivesLine op
  · exact settled (after ▸ perform_derives fs native' derives)
  rcases before with order | left
  · have tracks := perform_tracks fs (a.run fs ops) op fun line level same => derives (same ▸ trivial)
    exact settled (after ▸ tracks.settles native' order)
  · exact .quiet left derives behind

theorem inOrder_or_leftBehind (fs : Functions σ) {a : Attached σ} (native : a.card.mode = .native)
    (order : a.card.InOrder) (ops : List Operation) :
    (a.run fs ops).card.InOrder ∨ a.LeftBehind fs ops := by
  induction ops using List.reverseRecOn with
  | nil => exact .inl order
  | append_singleton ops op ih => exact inOrder_or_leftBehind_concat op native ih

/-- **The interrupt line of a native card** after any operations: it is high only when an interrupt is
asked for, and outside a transfer it is low then only if it was left behind. -/
theorem irq_iff_or_leftBehind (fs : Functions σ) (s : σ) {model : CardModel}
    (native : model.mode = .native) (ops : List Operation) :
    let start : Attached σ := ⟨Card.new model, s⟩
    let after := (start.run fs ops).card
    (after.irq = true → after.asksInterrupt = true) ∧
      (after.phase ≠ .transfer →
        (after.irq = true ↔ after.asksInterrupt = true) ∨ start.LeftBehind fs ops) := by
  intro start after
  have fresh : start.card.Shows := new_shows model
  refine ⟨run_honest fs ops fun high => fresh ▸ high, fun idle => ?_⟩
  rcases inOrder_or_leftBehind fs (a := start) native (.inl fresh) ops with (shows | shares) | left
  · exact .inl (Bool.eq_iff_iff.mp shows)
  · exact absurd shares.1 idle
  · exact .inr left

/-- A native card with nothing but function 1 to it. -/
def plainModel : CardModel where
  conditions := 0x10fe0000
  mode := .native
  layout := { revision := 0, functions := Vector.replicate 7 {}, tuples := #[] }

/-- The host enables the interrupt of function 1, sets four data lines and opens a transfer of one
byte. Then function 1 asks for an interrupt, and the host sets one data line before it sends the byte. -/
def narrowedTransfer : List Operation :=
  [.setHandler 1 .attached, .command 5 0x10fe0000, .command 3 0, .command 7 0x45670000,
    .command directNumber 0x80000803, .command directNumber 0x80000e02, .command 53 0x90000001,
    .setFunctionIrq 0 true, .command directNumber 0x80000e00, .writeData 0xaa]

/-- The interrupt of such a transfer is lost. -/
theorem narrowedTransfer_loses_interrupt :
    let start : Attached Unit := ⟨Card.new plainModel, ()⟩
    let after := (start.run .numbered narrowedTransfer).card
    after.mode = .native ∧ after.phase = .command ∧ after.irq = false ∧
      after.area.interruptEnable &&& CommonArea.interruptMaster ≠ 0 ∧
      after.area.pendingRegister &&& after.area.interruptEnable ≠ 0 := by
  decide +kernel

theorem irq_iff_or_leftBehind_narrowed :
    plainModel.mode = .native ∧
      LeftBehind .numbered ⟨Card.new plainModel, ()⟩ narrowedTransfer := by
  have native : plainModel.mode = .native := rfl
  obtain ⟨-, shown⟩ := irq_iff_or_leftBehind .numbered () native narrowedTransfer
  have idle : (run .numbered narrowedTransfer ⟨Card.new plainModel, ()⟩).card.phase ≠ .transfer := by
    decide +kernel
  rcases shown idle with shows | left
  · have lost : ¬ ((run .numbered narrowedTransfer ⟨Card.new plainModel, ()⟩).card.irq = true ↔
        (run .numbered narrowedTransfer ⟨Card.new plainModel, ()⟩).card.asksInterrupt = true) := by
      decide +kernel
    exact absurd shows lost
  · exact ⟨native, left⟩

end Attached

end WlanCard
