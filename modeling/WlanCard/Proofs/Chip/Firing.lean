import WlanCard.Proofs.Chip.Advance
import WlanCard.Proofs.Clock.Live

/-!
# Work that comes due, as the target does it

When time is advanced, the card only passes on the interrupt line; everything else is the target's.
`Target.drain` is the target's part: it does what is due by a tick, piece after piece, and tells of
each piece on which target it was done (`Chip.target_runDue`, `Chip.target_advance`).

`drain_keeps` is the induction over the work done. `Deferred.delay` and `Target.armedBy` say what work
puts off in its turn, so that `live_fire` gives the live timers after it.
-/

namespace WlanCard

/-- One piece of work done: the work, and the target as it was when the work came due. -/
structure Firing where
  event : Deferred
  target : Target
deriving DecidableEq

namespace Firing

/-- The tick at which the work is done. -/
def tick (f : Firing) : Nat := f.target.clock.now

/-- The target after the work. -/
def done (f : Firing) : Target := f.target.fire f.event

/-- The ticks at which an event is among the work done. -/
def ticksOf (event : Deferred) (firings : List Firing) : List Nat :=
  (firings.filter (·.event = event)).map tick

theorem ticksOf_cons (event : Deferred) (f : Firing) (rest : List Firing) :
    ticksOf event (f :: rest) =
      (if f.event = event then [f.tick] else []) ++ ticksOf event rest := by
  unfold ticksOf
  rw [List.filter_cons]
  by_cases here : f.event = event <;> simp [here]

end Firing

namespace Target

/-- Does all work due by `limit`, in order: the work done, and the target after it. -/
def drain (limit : Nat) (t : Target) : List Firing × Target :=
  match _popped : t.popDue limit with
  | (none, u) => ([], u)
  | (some event, u) =>
    let later := drain limit (u.fire event)
    (⟨event, u⟩ :: later.1, later.2)
termination_by t.load
decreasing_by exact load_fire_lt _popped

variable {limit : Nat} {t u : Target} {event : Deferred}

theorem drain_of_none (popped : t.popDue limit = (none, u)) : t.drain limit = ([], u) := by
  unfold drain
  split
  next v same =>
    obtain rfl : v = u := congrArg Prod.snd (same.symm.trans popped)
    rfl
  next other => rw [popped] at other; cases other

theorem drain_of_some (popped : t.popDue limit = (some event, u)) :
    t.drain limit =
      (⟨event, u⟩ :: ((u.fire event).drain limit).1, ((u.fire event).drain limit).2) := by
  rw [drain]
  split
  next other => rw [popped] at other; cases other
  next e v same =>
    obtain ⟨rfl, rfl⟩ : e = event ∧ v = u := by
      rw [popped] at same
      cases same
      exact ⟨rfl, rfl⟩
    rfl

/-- The target once everything due by a tick has been done and its clock stands there. -/
def doneBy (tick : Nat) (t : Target) : Target :=
  { (t.drain tick).2 with clock := (t.drain tick).2.clock.advanceTo tick }

/-- **What one piece of work after the other keeps**, all of it keeps. Each piece is done on a target
on which the property holds, but for the timer that has been popped. -/
theorem drain_keeps (holds : Target → Prop)
    (rest : ∀ t u, holds t → t.popDue limit = (none, u) → holds u)
    (fire : ∀ t event u, holds t → t.popDue limit = (some event, u) → holds (u.fire event))
    (now : holds t) :
    holds (t.drain limit).2 ∧
      ∀ f ∈ (t.drain limit).1, ∃ s, holds s ∧ s.popDue limit = (some f.event, f.target) := by
  induction t using drain.induct limit with
  | case1 t u popped =>
    rw [drain_of_none popped]
    exact ⟨rest t u now popped, fun f mem => nomatch mem⟩
  | case2 t event u popped ih =>
    obtain ⟨last, each⟩ := ih (fire t event u now popped)
    rw [drain_of_some popped]
    refine ⟨last, fun f mem => ?_⟩
    rcases List.mem_cons.mp mem with rfl | mem
    · exact ⟨t, now, popped⟩
    · exact each f mem

/-- Doing what is due takes the clock to no tick beyond the limit. -/
theorem max_now_drain (t : Target) (limit : Nat) :
    max (t.drain limit).2.clock.now limit = max t.clock.now limit := by
  have popped_now : ∀ {s u : Target} {event}, s.popDue limit = (event, u) →
      max u.clock.now limit = max s.clock.now limit := by
    intro s u event popped
    have stands := Clock.max_now_popDue s.clock limit
    rwa [(popDue_eq_iff.mp popped).1] at stands
  induction t using drain.induct limit with
  | case1 t u popped =>
    rw [drain_of_none popped]
    exact popped_now popped
  | case2 t event u popped ih =>
    rw [drain_of_some popped]
    exact (ih.trans (by rw [fire_now])).trans (popped_now popped)

theorem doneBy_now (t : Target) (tick : Nat) : (t.doneBy tick).clock.now = max t.clock.now tick :=
  max_now_drain t tick

/-! ## What work puts off -/

end Target

/-- The delay of work that is put off. -/
def Deferred.delay (config : Config) : Deferred → Nat
  | .alive => config.aliveDelay
  | .counterUpdate | .creditGrant _ => config.creditDelay

namespace Target

variable {limit : Nat} {t u : Target} {event : Deferred}

/-- Settling credits puts off a counter update, if there are news. -/
theorem settleCredits_eq (t : Target) (answer : Bool × HostInterface) :
    t.settleCredits answer =
      { t with
        host := answer.2
        clock := t.clock.armAll (Deferred.delay t.config)
          (if answer.1 then [.counterUpdate] else []) } := by
  unfold settleCredits
  cases answer.1 <;> rfl

/-- What a piece of work puts off. -/
def armedBy (t : Target) : Deferred → List Deferred
  | .creditGrant m => if (t.host.grantCredits m).1 then [.counterUpdate] else []
  | .counterUpdate | .alive => []

theorem announce_clock (t : Target) : t.announce.clock = t.clock := by
  unfold announce
  split
  · rfl
  · dsimp only
    split <;> rfl

/-- Of the host interface an announcement concerns the control mailbox alone. -/
theorem announce_host (t : Target) :
    t.announce.host = t.host ∨ ∃ message, t.announce.host = t.host.deliver .control message := by
  unfold announce
  split
  · exact .inl rfl
  · dsimp only
    split
    · exact .inl rfl
    next message _ => exact .inr ⟨message, rfl⟩

theorem fire_clock (t : Target) (event : Deferred) :
    (t.fire event).clock = t.clock.armAll (Deferred.delay t.config) (t.armedBy event) := by
  cases event with
  | counterUpdate => rfl
  | creditGrant m => exact congrArg (·.clock) (settleCredits_eq t (t.host.grantCredits m))
  | alive => exact announce_clock t

theorem announce_config (t : Target) : t.announce.config = t.config := by
  unfold announce
  split
  · rfl
  · dsimp only
    split <;> rfl

theorem fire_config (t : Target) (event : Deferred) : (t.fire event).config = t.config := by
  cases event with
  | counterUpdate => rfl
  | creditGrant m => exact congrArg (·.config) (settleCredits_eq t (t.host.grantCredits m))
  | alive => exact announce_config t

theorem announce_boot (t : Target) : t.announce.boot = t.boot := by
  unfold announce
  split
  · rfl
  · dsimp only
    split <;> rfl

theorem fire_boot (t : Target) (event : Deferred) : (t.fire event).boot = t.boot := by
  cases event with
  | counterUpdate => rfl
  | creditGrant m => exact congrArg (·.boot) (settleCredits_eq t (t.host.grantCredits m))
  | alive => exact announce_boot t

/-- Work puts off nothing but counter updates. -/
theorem live_fire {other : Deferred} (unarmed : other ≠ .counterUpdate) (t : Target)
    (event : Deferred) : (t.fire event).clock.live other = t.clock.live other := by
  rw [fire_clock, Clock.live_armAll, if_neg]
  intro mem
  cases event with
  | creditGrant m =>
    unfold armedBy at mem
    dsimp only at mem
    split at mem
    · exact unarmed (List.mem_singleton.mp mem)
    · cases mem
  | counterUpdate | alive => cases mem

/-- Popping concerns the clock alone. -/
theorem eq_of_popDue {answer : Option Deferred} (popped : t.popDue limit = (answer, u)) :
    u = { t with clock := u.clock } :=
  (popDue_eq_iff.mp popped).2.symm

/-- **What no work reaches** is the same after all work that is done, as long as the clock has no part
in it. -/
theorem apply_drain {α : Type} (view : Target → α)
    (clock : ∀ (t : Target) clock, view { t with clock } = view t)
    (fire : ∀ t event, view (t.fire event) = view t) (t : Target) (limit : Nat) :
    view (t.drain limit).2 = view t := by
  have popped : ∀ {s u : Target} {answer}, s.popDue limit = (answer, u) → view u = view s := by
    intro s u answer popped
    rw [eq_of_popDue popped]
    exact clock s u.clock
  exact (drain_keeps (fun u => view u = view t) (fun _ _ same rest => (popped rest).trans same)
    (fun _ _ _ same next => (fire ..).trans ((popped next).trans same)) rfl).1

theorem boot_doneBy (t : Target) (tick : Nat) : (t.doneBy tick).boot = t.boot :=
  apply_drain Target.boot (fun _ _ => rfl) fire_boot t tick

theorem popDue_host {answer : Option Deferred} (popped : t.popDue limit = (answer, u)) :
    u.host = t.host :=
  congrArg (·.host) (eq_of_popDue popped)

theorem popDue_firmware {answer : Option Deferred} (popped : t.popDue limit = (answer, u)) :
    u.firmware = t.firmware :=
  congrArg (·.firmware) (eq_of_popDue popped)

theorem popDue_epoch {answer : Option Deferred} (popped : t.popDue limit = (answer, u)) :
    u.clock.epoch = t.clock.epoch := by
  have same := Clock.popDue_epoch t.clock limit
  rwa [(popDue_eq_iff.mp popped).1] at same

/-- A sound clock stays sound while work is done, up to a tick that the clock knows. -/
theorem sound_fire (within : limit ≤ Clock.lastTick) (sound : t.clock.Sound)
    (popped : t.popDue limit = (some event, u)) : (u.fire event).clock.Sound := by
  have left := sound.popDue within
  rw [(popDue_eq_iff.mp popped).1] at left
  rw [fire_clock]
  exact left.armAll ..

theorem sound_popDue {answer : Option Deferred} (within : limit ≤ Clock.lastTick)
    (sound : t.clock.Sound) (popped : t.popDue limit = (answer, u)) : u.clock.Sound := by
  have left := sound.popDue within
  rwa [(popDue_eq_iff.mp popped).1] at left

theorem sound_drain (within : limit ≤ Clock.lastTick) (sound : t.clock.Sound) :
    (t.drain limit).2.clock.Sound :=
  (drain_keeps (fun t => t.clock.Sound) (fun _ _ => sound_popDue within)
    (fun _ _ _ => sound_fire within) sound).1

/-- What is left in the queue after all work due by a tick lies beyond it. -/
theorem lt_of_mem_drain (t : Target) (limit : Nat) :
    ∀ timer ∈ (t.drain limit).2.clock.pending, limit < timer.deadline := by
  induction t using drain.induct limit with
  | case1 t u popped =>
    rw [drain_of_none popped]
    exact (Clock.popDue_none (popDue_eq_iff.mp popped).1).2
  | case2 t event u popped ih =>
    rw [drain_of_some popped]
    exact ih

theorem sound_doneBy (within : limit ≤ Clock.lastTick) (sound : t.clock.Sound) :
    (t.doneBy limit).clock.Sound :=
  (sound_drain within sound).advanceTo within
    (Timer.earliestDue_eq_none_iff.mpr (lt_of_mem_drain t limit))

end Target

/-! ## The chip's part -/

namespace Chip

/-- **Doing what is due** moves the target of a chip as it moves the target alone. -/
theorem target_runDue (limit : Nat) (chip : Chip) :
    (chip.runDue limit).target = (chip.target.drain limit).2 := by
  induction chip using runDue.induct limit with
  | case1 chip t popped =>
    rw [runDue_of_none popped, Target.drain_of_none popped]
    rfl
  | case2 chip event t popped ih =>
    rw [runDue_of_some popped, Target.drain_of_some popped]
    exact ih

theorem target_advance (chip : Chip) (ticks : Nat) :
    (chip.advance ticks).target = chip.target.doneBy (Clock.tickAfter chip.now ticks) := by
  let limit := Clock.tickAfter chip.now ticks
  let moved (t : Target) : Target := { t with clock := t.clock.advanceTo limit }
  show moved (chip.runDue limit).target = moved (chip.target.drain limit).2
  rw [target_runDue]

end Chip

end WlanCard
