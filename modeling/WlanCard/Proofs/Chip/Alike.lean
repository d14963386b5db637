import WlanCard.Proofs.Card.Matching
import WlanCard.Proofs.Chip.Deferral
import WlanCard.Proofs.Clock.Current

/-!
# Chips that differ in their past only

Targets are alike if they differ in timers of earlier epochs and in what they sent before some point
(`Target.Alike`); chips are, if their targets are and their cards are equal. Nothing that can be done
to two alike chips tells them apart: every operation has the same answer, and leaves chips that are
alike again (`Chip.Alike.perform`). So their traces are equal, observation by observation
(`Chip.Alike.trace_eq`), and with them the messages that are sent (`Chip.sent_run`).

There is one law for each thing that happens to a target. Advancing time is the one where the two
clocks go different ways, since each drops its own timers; work comes due in the same order all the
same (`Alike.doneBy`).
-/

namespace WlanCard

namespace Target

/-- Targets that differ in their past only: in timers of earlier epochs, and in what they had sent by
some point, `before` the one and `before'` the other. -/
structure Alike (before before' : List (List UInt8)) (t u : Target) : Prop where
  config : t.config = u.config
  host : t.host = u.host
  boot : t.boot = u.boot
  firmware : t.firmware = u.firmware
  clock : t.clock.Alike u.clock
  sent : ∃ messages, t.sent = before ++ messages ∧ u.sent = before' ++ messages

namespace Alike

variable {before before' : List (List UInt8)} {t u : Target}

/-- The point may be moved up to now. -/
theorem fromNow (alike : t.Alike before before' u) : t.Alike t.sent u.sent u :=
  { alike with sent := ⟨[], (List.append_nil _).symm, (List.append_nil _).symm⟩ }

variable (alike : t.Alike before before' u)
include alike

theorem withHost (h : HostInterface) :
    Alike before before' { t with host := h } { u with host := h } :=
  { alike with host := rfl }

theorem withClock {c d : Clock Deferred} (clock : c.Alike d) :
    Alike before before' { t with clock := c } { u with clock := d } :=
  { alike with clock }

/-! ## What the host and the target's own side do -/

theorem putOff (events : List Deferred) :
    Alike before before'
      { t with clock := t.clock.armAll (Deferred.delay t.config) events }
      { u with clock := u.clock.armAll (Deferred.delay u.config) events } := by
  have armed : (t.clock.armAll (Deferred.delay t.config) events).Alike
      (u.clock.armAll (Deferred.delay u.config) events) := by
    rw [alike.config]
    exact alike.clock.armAll ..
  exact alike.withClock armed

theorem settleCredits (answer : Bool × HostInterface) :
    (t.settleCredits answer).Alike before before' (u.settleCredits answer) := by
  rw [settleCredits_eq, settleCredits_eq]
  exact (alike.withHost answer.2).putOff _

theorem routeMessage (m : MailboxNumber) (length : Nat) :
    (t.routeMessage m length).Alike before before' (u.routeMessage m length) := by
  unfold Target.routeMessage bootMessage
  rw [alike.boot, alike.host, alike.firmware]
  split
  · split <;> exact ⟨alike.config, rfl, rfl, rfl, alike.clock, alike.sent⟩
  · exact alike

theorem completeMessage (m : MailboxNumber) (length : Nat) :
    (t.completeMessage m length).Alike before before' (u.completeMessage m length) := by
  have dropped := alike.settleCredits (u.host.dropCredits m)
  unfold Target.completeMessage
  rw [alike.host]
  exact (dropped.routeMessage m length).putOff [.creditGrant m]

theorem handOver : t.handOver.Alike before before' u.handOver :=
  let started (config : Config) : Firmware :=
    { station := config.station, capability := config.capability }
  { alike.putOff [.alive] with firmware := congrArg (some ∘ started) alike.config }

theorem handle (event : HostEvent) :
    (t.handle event).Alike before before' (u.handle event) := by
  cases event with
  | messageComplete m length => exact alike.completeMessage m length
  | wlanInterrupt value =>
    unfold Target.handle handsOver
    dsimp only
    rw [alike.firmware]
    split
    · exact alike.handOver
    · exact alike

theorem writeByte (address : UInt32) (value : UInt8) :
    (t.writeByte address value).Alike before before' (u.writeByte address value) := by
  unfold Target.writeByte
  rw [alike.host]
  dsimp only
  split
  · exact (alike.withHost _).handle _
  · exact alike.withHost _

theorem writeRun (stride address : UInt32) (bytes : List UInt8) :
    (t.writeRun stride address bytes).Alike before before' (u.writeRun stride address bytes) := by
  induction bytes generalizing address t u with
  | nil => exact alike
  | cons value rest ih => exact ih (alike.writeByte address value) (address + stride)

theorem reset : t.reset.Alike before before' u.reset where
  config := alike.config
  host := congrArg HostInterface.reset alike.host
  boot := congrArg Bootloader.reset alike.boot
  firmware := rfl
  clock := alike.clock.sound.1.openEpoch_alike alike.clock.sound.2 alike.clock.now
  sent := alike.sent

/-! ## Work that comes due -/

theorem announce : t.announce.Alike before before' u.announce := by
  obtain ⟨messages, left, right⟩ := alike.sent
  unfold Target.announce
  rw [alike.firmware]
  split
  · exact alike
  next firmware _ =>
    dsimp only
    split
    · exact alike
    next message _ =>
      exact { alike with
        firmware := rfl
        host := congrArg (·.deliver .control message) alike.host
        sent := ⟨messages ++ [message], by rw [left, List.append_assoc],
          by rw [right, List.append_assoc]⟩ }

theorem fire (event : Deferred) : (t.fire event).Alike before before' (u.fire event) := by
  cases event with
  | counterUpdate => exact { alike with host := congrArg HostInterface.updateCounter alike.host }
  | creditGrant m =>
    show (t.settleCredits (t.host.grantCredits m)).Alike before before' _
    rw [alike.host]
    exact alike.settleCredits _
  | alive => exact alike.announce

/-- **Targets that are alike have the same work due**, and where none is, they are alike at the limit. -/
theorem popDue {limit : Nat} (within : limit ≤ Clock.lastTick) :
    (∃ event t' u', t.popDue limit = (some event, t') ∧ u.popDue limit = (some event, u') ∧
      t'.Alike before before' u') ∨
    (∃ t' u', t.popDue limit = (none, t') ∧ u.popDue limit = (none, u') ∧
      Alike before before' { t' with clock := t'.clock.advanceTo limit }
        { u' with clock := u'.clock.advanceTo limit }) := by
  rcases alike.clock.popDue within with ⟨event, c, d, left, right, clock⟩ | ⟨c, d, left, right, clock⟩
  · exact .inl ⟨event, { t with clock := c }, { u with clock := d },
      popDue_eq_iff.mpr ⟨left, rfl⟩, popDue_eq_iff.mpr ⟨right, rfl⟩, alike.withClock clock⟩
  · exact .inr ⟨{ t with clock := c }, { u with clock := d },
      popDue_eq_iff.mpr ⟨left, rfl⟩, popDue_eq_iff.mpr ⟨right, rfl⟩, alike.withClock clock⟩

end Alike

/-- Alike targets answer a card alike. -/
theorem functions_match (before before' : List (List UInt8)) :
    functions.Match functions (Alike before before') where
  reset _ _ alike := alike.reset
  read _ address length how t u alike := by
    show (HostInterface.readRun how.stride length address t.host).1 = _ ∧
      Alike before before' { t with host := (HostInterface.readRun how.stride length address t.host).2 } _
    rw [alike.host]
    exact ⟨rfl, alike.withHost _⟩
  write _ address bytes how _ _ alike := alike.writeRun how.stride address bytes
  readStorage _ _ _ _ alike := ⟨rfl, alike⟩
  writeStorage _ _ _ _ _ alike := alike

end Target

namespace Chip

/-- Chips that differ in the past of their targets only. -/
def Alike (before before' : List (List UInt8)) (x y : Chip) : Prop :=
  x.attached.Match (Target.Alike before before') y.attached

namespace Alike

variable {before before' : List (List UInt8)} {x y : Chip} (alike : x.Alike before before' y)
include alike

theorem target : x.target.Alike before before' y.target := alike.device

theorem setTarget {t u : Target} (replaced : t.Alike before before' u) :
    (x.setTarget t).Alike before before' (y.setTarget u) where
  card := alike.card
  device := replaced

theorem syncIrq : x.syncIrq.Alike before before' y.syncIrq where
  card := by
    show x.card.setFunctionIrq 0 x.target.host.irqLine =
      y.card.setFunctionIrq 0 y.target.host.irqLine
    rw [alike.target.host]
    exact congrArg (fun c : Card => c.setFunctionIrq 0 y.target.host.irqLine) alike.card
  device := alike.device

theorem fire (event : Deferred) : (x.fire event).Alike before before' (y.fire event) :=
  (alike.setTarget (alike.target.fire event)).syncIrq

/-- **Work comes due alike**, whatever timers of earlier epochs are dropped on the way. -/
theorem doneBy {tick : Nat} (within : tick ≤ Clock.lastTick) :
    (x.doneBy tick).Alike before before' (y.doneBy tick) := by
  -- on the work that one of them does: the other has the same work due, and no more when it has none
  induction x using runDue.induct tick generalizing y with
  | case1 x t popped =>
    rcases alike.target.popDue within with ⟨_, t', _, some, -, -⟩ | ⟨t', u, none, right, drained⟩
    · rw [popped] at some
      cases some
    · rw [popped] at none
      cases none
      unfold Chip.doneBy
      rw [runDue_of_none popped, runDue_of_none right]
      exact alike.setTarget drained
  | case2 x event t popped ih =>
    rcases alike.target.popDue within with ⟨_, t', u, some, right, left⟩ | ⟨t', _, none, -, -⟩
    · rw [popped] at some
      cases some
      rw [doneBy_of_some popped, doneBy_of_some right]
      exact ih ((alike.setTarget left).fire event)
    · rw [popped] at none
      cases none

/-- What the card does with its functions, it does alike. -/
theorem onCard (op : Card.Operation) :
    (x.attached.perform Target.functions op).1 = (y.attached.perform Target.functions op).1 ∧
      (Chip.syncIrq ⟨(x.attached.perform Target.functions op).2⟩).Alike before before'
        (Chip.syncIrq ⟨(y.attached.perform Target.functions op).2⟩) := by
  obtain ⟨answer, left⟩ := Attached.perform_matched (Target.functions_match before before') alike op
  exact ⟨answer, Alike.syncIrq left⟩

/-- **No operation tells alike chips apart**, and they stay alike. -/
theorem perform (op : Operation) :
    (x.perform op).1 = (y.perform op).1 ∧
      (x.perform op).2.Alike before before' (y.perform op).2 := by
  have reported : ∀ report : HostInterface → HostInterface,
      (x.setTarget { x.target with host := report x.target.host }).syncIrq.Alike before before'
        (y.setTarget { y.target with host := report y.target.host }).syncIrq := by
    intro report
    rw [alike.target.host]
    exact (alike.setTarget (alike.target.withHost _)).syncIrq
  cases op with
  | command number argument => exact alike.onCard (.command number argument)
  | writeData value => exact alike.onCard (.writeData value)
  | readData => exact alike.onCard .readData
  | reset => exact alike.onCard .reset
  | raiseCpu bits => exact ⟨rfl, reported (·.raiseCpu bits)⟩
  | raiseError bits => exact ⟨rfl, reported (·.raiseError bits)⟩
  | advance ticks =>
    refine ⟨rfl, ?_⟩
    show (x.advance ticks).Alike before before' (y.advance ticks)
    have now : x.now = y.now := alike.target.clock.now
    rw [advance_eq, advance_eq, now]
    exact alike.doneBy (Clock.tickAfter_le ..)

end Alike

/-! ## What can be told of a chip -/

/-- All that can be told of a chip after an operation: the answer, the card with its interrupt line,
the state of the target, the tick, and what has been sent during the operation. Only what the target
has put off is hidden. -/
structure Observation where
  answer : Card.Answer
  card : Card
  host : HostInterface
  boot : Bootloader
  firmware : Option Firmware
  now : Nat
  sent : List (List UInt8)

/-- What can be told of a chip after an operation. -/
def observe (chip : Chip) (op : Operation) : Observation :=
  let done := chip.perform op
  { answer := done.1
    card := done.2.card
    host := done.2.target.host
    boot := done.2.target.boot
    firmware := done.2.target.firmware
    now := done.2.now
    sent := done.2.target.sent.drop chip.target.sent.length }

/-- What can be told of a chip during a run. -/
def trace : (ops : List Operation) → Chip → List Observation
  | [], _ => []
  | op :: ops, chip => chip.observe op :: trace ops (chip.perform op).2

/-- The same is told of chips whose answers are equal and that are alike afterwards. -/
theorem observe_congr {x y : Chip} {op : Operation}
    (answer : (x.perform op).1 = (y.perform op).1)
    (done : (x.perform op).2.Alike x.target.sent y.target.sent (y.perform op).2) :
    x.observe op = y.observe op := by
  have card : (x.perform op).2.card = (y.perform op).2.card := done.card
  have now : (x.perform op).2.now = (y.perform op).2.now := done.target.clock.now
  obtain ⟨messages, left, right⟩ := done.target.sent
  unfold observe
  dsimp only
  rw [answer, card, done.target.host, done.target.boot, done.target.firmware, now, left, right,
    List.drop_left, List.drop_left]

/-- **Chips that are alike have the same traces.** -/
theorem Alike.trace_eq {before before' : List (List UInt8)} {x y : Chip}
    (alike : x.Alike before before' y) (ops : List Operation) : x.trace ops = y.trace ops := by
  induction ops generalizing x y before before' with
  | nil => rfl
  | cons op ops ih =>
    have here : x.Alike x.target.sent y.target.sent y := ⟨alike.card, alike.target.fromNow⟩
    obtain ⟨answer, done⟩ := here.perform op
    unfold trace
    rw [observe_congr answer done, ih done]

/-- A chip is alike to itself. -/
theorem Alike.refl {x : Chip} (sound : x.target.clock.Sound) :
    x.Alike x.target.sent x.target.sent x where
  card := rfl
  device := {
    config := rfl
    host := rfl
    boot := rfl
    firmware := rfl
    clock := ⟨⟨sound, sound⟩, rfl⟩
    sent := ⟨[], (List.append_nil _).symm, (List.append_nil _).symm⟩ }

/-- **A trace tells of every message** that is sent during the run, in order. -/
theorem sent_run {x : Chip} (sound : x.target.clock.Sound) (ops : List Operation) :
    (x.run ops).target.sent = x.target.sent ++ (x.trace ops).flatMap (·.sent) := by
  induction ops generalizing x with
  | nil => exact (List.append_nil _).symm
  | cons op ops ih =>
    have done := ((Alike.refl sound).perform op).2.target
    obtain ⟨messages, more, -⟩ := done.sent
    have told : (x.observe op).sent = messages := by
      show (x.perform op).2.target.sent.drop x.target.sent.length = messages
      rw [more, List.drop_left]
    show ((x.perform op).2.run ops).target.sent = _
    rw [ih done.clock.sound.1, more, trace, List.flatMap_cons, told, List.append_assoc]

end Chip

end WlanCard
