import WlanCard.Clock
import WlanCard.Journal

/-!
# The journal of a clock

A clock tells of every timer it arms, of every new epoch, and of the timers of an earlier epoch that
it drops.
-/

namespace WlanCard

variable {ε : Type}

/-- What a clock has to tell. -/
inductive ClockNotice (ε : Type) where
  | armed (event : ε) (tick : Nat)
  | epochOpened (epoch : Nat)
  | staleDropped (event : ε) (armedIn epoch : Nat)

/-- The entry of a notice, given the names of events. -/
def ClockNotice.entry (name : ε → String) : ClockNotice ε → Entry
  | armed event tick => ⟨.trace, s!"armed {name event} for tick {tick}"⟩
  | epochOpened epoch => ⟨.trace, s!"clock epoch now {epoch}"⟩
  | staleDropped event armedIn epoch =>
    ⟨.trace, s!"dropping stale {name event} (epoch {armedIn} != {epoch})"⟩

namespace Clock

/-- The journal of arming an event. -/
def armJournal (name : ε → String) (c : Clock ε) (delay : Nat) (event : ε) : Journal :=
  [(ClockNotice.armed event (tickAfter c.now delay)).entry name]

/-- The journal of opening an epoch. -/
def openEpochJournal (name : ε → String) (c : Clock ε) : Journal :=
  [(ClockNotice.epochOpened c.openEpoch.epoch).entry name]

/-- The journal of popping an event: the timers dropped on the way. -/
def popDueJournal [DecidableEq ε] (name : ε → String) (c : Clock ε) (limit : Nat) : Journal :=
  match _found : Timer.earliestDue limit c.pending with
  | none => []
  | some t =>
    if t.epoch = c.epoch then []
    else
      (ClockNotice.staleDropped t.event t.epoch c.epoch).entry name
        :: popDueJournal name (c.take t) limit
termination_by c.pending.length
decreasing_by
  have mem := Timer.mem_of_earliestDue ‹_›
  have := length_take mem
  have := List.length_pos_of_mem mem
  omega

end Clock

end WlanCard
