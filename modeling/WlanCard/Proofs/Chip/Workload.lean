import Mathlib.Algebra.GroupWithZero.Nat
import Mathlib.Data.List.Perm.Subperm
import WlanCard.Proofs.Chip.AccessPaths
import WlanCard.Proofs.Chip.Deferral
import WlanCard.Proofs.Clock.Current

/-!
# Advancing time ends, and leaves nothing due

Work that comes due may put off further work, and at the last tick that is due at once. `currentLoad`
counts what can still come of the timers of the current epoch: a grant of credits counts twice, since it
may put off a counter update. Every piece of work done takes at least one off
(`currentLoad_fire_lt`), so the load bounds how many are done (`runDueWithin_eq`); and as no event is
queued twice, the load is bounded by the grants that are pending (`currentLoad_le`) and the queue by
the events there are (`length_pending_le`).

`advance_ends` puts this together for every chip that operations lead to.
-/

namespace WlanCard

namespace Clock

variable {ε : Type} [DecidableEq ε]

/-- Arming several events puts their weights on, at most. -/
theorem weight_armAll_le (w : ε → Nat) (c : Clock ε) (delay : ε → Nat) (events : List ε) :
    (c.armAll delay events).weight w ≤ c.weight w + (events.map w).sum := by
  induction events generalizing c with
  | nil => exact Nat.le_refl _
  | cons event events ih =>
    have first := weight_arm_le w c (delay event) event
    have rest := ih (c.arm (delay event) event)
    rw [List.map_cons, List.sum_cons]
    show ((c.arm (delay event) event).armAll delay events).weight w ≤ _
    omega

omit [DecidableEq ε] in
/-- The weight of a queue is that of its events. -/
theorem queueWeight_eq_sum (w : ε → Nat) (queue : List (Timer ε)) :
    queueWeight w queue = ((queue.map (·.event)).map w).sum := by
  induction queue with
  | nil => rfl
  | cons t rest ih => rw [queueWeight, ih, List.map_cons, List.map_cons, List.sum_cons]

omit [DecidableEq ε] in
theorem nodup_events {c : Clock ε} (sound : c.Sound) : (c.pending.map (·.event)).Nodup :=
  List.pairwise_map.mpr sound.single

/-- Without its past, a clock weighs as much as the events that are pending. -/
theorem weight_current {c : Clock ε} (sound : c.Sound) (w : ε → Nat) {all : List ε}
    (every : ∀ event, event ∈ all) (once : all.Nodup) :
    c.current.weight w = ((all.filter c.isPending).map w).sum := by
  let current := c.pending.filter fun t => t.epoch = c.epoch
  have same : (current.map Timer.renewed).map (·.event) = current.map (·.event) := by
    rw [List.map_map]
    rfl
  have perm : (current.map (·.event)).Perm (all.filter c.isPending) := by
    have distinct : (current.map (·.event)).Nodup :=
      (nodup_events sound).sublist (List.filter_sublist.map _)
    refine (List.perm_ext_iff_of_nodup distinct (once.filter _)).mpr fun event => ?_
    simp [current, isPending, every, and_assoc, and_comm]
  show queueWeight w (current.map Timer.renewed) = _
  rw [queueWeight_eq_sum, same]
  exact (perm.map w).sum_nat

end Clock

/-- All the work that the target puts off. -/
def Deferred.all : List Deferred :=
  .counterUpdate :: .alive :: (List.finRange 4).map .creditGrant

namespace Deferred

theorem mem_all (event : Deferred) : event ∈ all := by
  cases event with
  | counterUpdate => exact List.mem_cons_self
  | alive => exact List.mem_cons_of_mem _ List.mem_cons_self
  | creditGrant m =>
    have grant : creditGrant m ∈ (List.finRange 4).map creditGrant :=
      List.mem_map_of_mem (List.mem_finRange m)
    exact List.mem_cons_of_mem _ (List.mem_cons_of_mem _ grant)

theorem nodup_all : all.Nodup := by decide

end Deferred

namespace Target

variable {t u : Target} {limit : Nat} {event : Deferred}

/-! ## The load of the current epoch -/

/-- The mailboxes whose grant of credits is pending. -/
def pendingGrants (t : Target) : List MailboxNumber :=
  (List.finRange 4).filter fun m => t.clock.isPending (.creditGrant m)

theorem length_pendingGrants_le (t : Target) : t.pendingGrants.length ≤ 4 :=
  List.length_filter_le ..

/-- The work that can still come of the timers of the current epoch. -/
def currentLoad (t : Target) : Nat :=
  t.clock.current.weight Deferred.weight

/-- What a piece of work puts off weighs less than the work. -/
theorem weight_armedBy_lt (t : Target) (event : Deferred) :
    ((t.armedBy event).map Deferred.weight).sum < event.weight := by
  cases event with
  | creditGrant m =>
    unfold armedBy
    dsimp only
    split <;> simp [Deferred.weight]
  | counterUpdate => exact Nat.zero_lt_one
  | alive => exact Nat.zero_lt_one

/-- **Doing work that has come due** leaves less to do in the current epoch. -/
theorem currentLoad_fire_lt (popped : t.popDue limit = (some event, u)) :
    (u.fire event).currentLoad < t.currentLoad := by
  have clock := (popDue_eq_iff.mp popped).1
  have taken : u.currentLoad + event.weight = t.currentLoad := by
    rcases t.clock.popDue_cases limit with ⟨timer, d, first, left, current⟩ | ⟨d, -, left, -⟩
    · rw [clock] at left
      obtain ⟨rfl, rfl⟩ : event = timer.event ∧ u.clock = d := by simpa using left
      unfold currentLoad
      rw [current]
      exact Clock.weight_take _ (Timer.mem_of_earliestDue first)
    · rw [clock] at left
      cases left
  have armed : (u.fire event).currentLoad ≤
      u.currentLoad + ((u.armedBy event).map Deferred.weight).sum := by
    unfold currentLoad
    rw [fire_clock, Clock.current_armAll]
    exact Clock.weight_armAll_le ..
  have less := u.weight_armedBy_lt event
  omega

/-- **Two for each grant that is pending, and two more**: one counter update and one announcement. -/
theorem currentLoad_le (sound : t.clock.Sound) :
    t.currentLoad ≤ 2 * t.pendingGrants.length + 2 := by
  have grants : ((((List.finRange 4).map Deferred.creditGrant).filter t.clock.isPending).map
      Deferred.weight).sum = 2 * t.pendingGrants.length := by
    have each : Deferred.weight ∘ Deferred.creditGrant = fun _ => 2 := rfl
    rw [List.filter_map, List.map_map, each, List.map_const', List.sum_replicate_nat, Nat.mul_comm]
    rfl
  unfold currentLoad
  rw [Clock.weight_current sound Deferred.weight Deferred.mem_all Deferred.nodup_all, Deferred.all,
    List.filter_cons, List.filter_cons]
  split <;> split <;> simp only [List.map_cons, List.sum_cons, grants, Deferred.weight] <;> omega

/-- **The queue holds each event at most once.** -/
theorem length_pending_le (sound : t.clock.Sound) : t.clock.pending.length ≤ 6 := by
  have sub := List.subperm_of_subset (Clock.nodup_events sound) fun event _ => Deferred.mem_all event
  have le := sub.length_le
  rw [List.length_map] at le
  exact le

/-- On the way the clock stays one that operations lead to. -/
theorem sound_of_mem_drain (within : limit ≤ Clock.lastTick) (sound : t.clock.Sound) :
    ∀ f ∈ (t.drain limit).1, f.target.clock.Sound ∧ f.done.clock.Sound := by
  intro f mem
  obtain ⟨s, sound, popped⟩ := (drain_keeps (fun t => t.clock.Sound)
    (fun _ _ => sound_popDue within) (fun _ _ _ => sound_fire within) sound).2 f mem
  exact ⟨sound_popDue within sound popped, sound_fire within sound popped⟩

end Target

namespace Chip

variable {chip : Chip} {limit count : Nat}

/-! ## The loop -/

/-- Does all work due by `limit`, in order, unless that is more than `count` pieces. -/
def runDueWithin (limit : Nat) : (count : Nat) → (chip : Chip) → Option Chip
  | 0, chip =>
    match chip.target.popDue limit with
    | (none, t) => some (chip.setTarget t)
    | (some _, _) => none
  | count + 1, chip =>
    match chip.target.popDue limit with
    | (none, t) => some (chip.setTarget t)
    | (some event, t) => runDueWithin limit count ((chip.setTarget t).fire event)

/-- The load bounds how much work is done. -/
theorem runDueWithin_eq (enough : chip.target.currentLoad ≤ count) :
    chip.runDueWithin limit count = some (chip.runDue limit) := by
  induction count generalizing chip with
  | zero =>
    unfold runDueWithin
    split
    next t popped => rw [runDue_of_none popped]
    next event t popped =>
      have less := Target.currentLoad_fire_lt popped
      omega
  | succ count ih =>
    unfold runDueWithin
    split
    next t popped => rw [runDue_of_none popped]
    next event t popped =>
      have less : ((chip.setTarget t).fire event).target.currentLoad < chip.target.currentLoad :=
        Target.currentLoad_fire_lt popped
      rw [runDue_of_some popped]
      exact ih (by omega)

/-- Advances virtual time as `advance` does, unless more than `count` pieces of work come due on the
way. -/
def advanceWithin (count : Nat) (chip : Chip) (ticks : Nat) : Option Chip :=
  let limit := Clock.tickAfter chip.now ticks
  (chip.runDueWithin limit count).map fun chip =>
    chip.setTarget { chip.target with clock := chip.target.clock.advanceTo limit }

/-! ## Chips that operations lead to -/

theorem Reachable.sound (reached : chip.Reachable) : chip.target.clock.Sound := by
  induction reached with
  | attach attached => exact (fresh_attach attached).clock
  | @perform chip op _ ih =>
    have sound : chip.target.Sound chip.target.config := ⟨rfl, ih⟩
    exact ((passes_run [op] chip).sound sound).1.clock

/-- The clock is sound at every moment of an operation, and around all work done in it. -/
theorem Reachable.sound_of_mem (reached : chip.Reachable) (op : Operation) :
    ∀ x ∈ chip.history [op], x.before.clock.Sound ∧ x.after.clock.Sound ∧
      ∀ f ∈ x.firings, f.target.clock.Sound ∧ f.done.clock.Sound := by
  intro x mem
  have sound : chip.target.Sound chip.target.config := ⟨rfl, reached.sound⟩
  have before := ((passes_run [op] chip).sound sound).2 x mem
  refine ⟨before.clock, (before.undergo x.happening).clock, fun f done => ?_⟩
  unfold Moment.firings at done
  split at done
  · exact Target.sound_of_mem_drain (Clock.tickAfter_le ..) before.clock f done
  · cases done

/-- **Advancing time ends, and leaves nothing due.** However far time is advanced, the work that comes
due on the way, with all that it puts off in its turn, is no more than two pieces for each grant of
credits that is pending, and two more. The clock then stands at the tick that was asked for, or at the
last tick, and no timer is left that is due there. Whatever is done to the chip, at no moment are there
more than six timers in the queue. -/
theorem advance_ends (reached : chip.Reachable) (ticks : Nat) :
    let count := 2 * chip.target.pendingGrants.length + 2
    count ≤ 10 ∧ chip.advanceWithin count ticks = some (chip.advance ticks) ∧
      (chip.advance ticks).now = min (chip.now + ticks) Clock.lastTick ∧
      (∀ timer ∈ (chip.advance ticks).target.clock.pending,
        (chip.advance ticks).now < timer.deadline) ∧
      chip.target.clock.pending.length ≤ 6 ∧
      ∀ op, ∀ x ∈ chip.history [op],
        x.before.clock.pending.length ≤ 6 ∧ x.after.clock.pending.length ≤ 6 ∧
          ∀ f ∈ x.firings,
            f.target.clock.pending.length ≤ 6 ∧ f.done.clock.pending.length ≤ 6 := by
  intro count
  have sound := reached.sound
  let limit := Clock.tickAfter chip.now ticks
  have stands : (chip.advance ticks).now = limit :=
    (doneBy_now limit chip).trans (Nat.max_eq_right (Clock.le_tickAfter sound.within ticks))
  refine ⟨?_, ?_, stands, ?_, Target.length_pending_le sound, fun op x mem => ?_⟩
  · have few := chip.target.length_pendingGrants_le
    omega
  · have done : chip.runDueWithin limit count = some (chip.runDue limit) :=
      runDueWithin_eq (Target.currentLoad_le sound)
    unfold advanceWithin
    dsimp only
    rw [done]
    rfl
  · intro timer mem
    rw [stands]
    rw [target_advance] at mem
    exact Target.lt_of_mem_drain chip.target limit timer mem
  · obtain ⟨before, after, each⟩ := reached.sound_of_mem op x mem
    exact ⟨Target.length_pending_le before, Target.length_pending_le after, fun f done =>
      ⟨Target.length_pending_le (each f done).1, Target.length_pending_le (each f done).2⟩⟩

/-- A card selected by the host at the last tick, with a message of one byte in the control mailbox:
whatever this puts off is due at once. -/
def overtime : Chip :=
  selected.run [.advance Clock.lastTick, .command 52 0x901ffe00]

theorem reachable_overtime : overtime.Reachable :=
  .perform _ (.perform _ reachable_selected)

theorem advance_ends_overtime :
    overtime.Reachable ∧ overtime.now = Clock.lastTick ∧ overtime.target.pendingGrants = [0] ∧
      overtime.advanceWithin 4 1 = some (overtime.advance 1) ∧
      (overtime.advance 1).now = Clock.lastTick ∧
      ∀ timer ∈ (overtime.advance 1).target.clock.pending, Clock.lastTick < timer.deadline := by
  have now : overtime.now = Clock.lastTick := by decide +kernel
  have grants : overtime.target.pendingGrants = [0] := by decide +kernel
  have limit : min (overtime.now + 1) Clock.lastTick = Clock.lastTick := by
    rw [now]
    decide
  obtain ⟨-, done, stands, left, -⟩ := advance_ends reachable_overtime 1
  rw [limit] at stands
  rw [stands] at left
  rw [grants] at done
  exact ⟨reachable_overtime, now, grants, done, stands, left⟩

end Chip

end WlanCard
