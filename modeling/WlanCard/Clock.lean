/-!
# A clock with one-shot timers

The card never reads wall-clock time. Work put off until later is queued here with a deadline in
ticks, and comes due when the owner of the clock moves it forward. Ticks stop at a last tick: a
deadline that would lie beyond it is that tick.

A reset does not take timers out of the queue. Every timer remembers the epoch it was armed in, a
reset opens a new epoch, and a timer of an earlier epoch is dropped when it comes due.

The queue keeps the order of arming. `popDue` takes out the timer with the least deadline, of several
such the one armed first, and moves the clock to its deadline, so that work which arms further timers
counts from the moment it came due.
-/

namespace WlanCard

variable {ε : Type}

/-- One piece of work put off until a deadline. -/
structure Timer (ε : Type) where
  deadline : Nat
  /-- The epoch in which the timer was armed. -/
  epoch : Nat
  event : ε
deriving DecidableEq, Repr

/-- A tick counter with a queue of timers, in the order of arming. -/
structure Clock (ε : Type) where
  now : Nat
  epoch : Nat
  pending : List (Timer ε)
deriving DecidableEq, Repr

/-- The timer that comes due first among those due by `limit`: the least deadline, and of equal
deadlines the first in the queue. -/
def Timer.earliestDue (limit : Nat) : List (Timer ε) → Option (Timer ε)
  | [] => none
  | t :: rest =>
    match earliestDue limit rest with
    | none => if t.deadline ≤ limit then some t else none
    | some u => if t.deadline ≤ u.deadline then some t else some u

/-- The earliest due timer is one of the queue. -/
theorem Timer.mem_of_earliestDue {limit : Nat} {queue : List (Timer ε)} {t : Timer ε}
    (found : earliestDue limit queue = some t) : t ∈ queue := by
  induction queue generalizing t with
  | nil => simp [earliestDue] at found
  | cons u rest ih =>
    unfold earliestDue at found
    split at found
    · split at found
      · simp_all
      · simp at found
    · rename_i v hv
      split at found
      · simp_all
      · cases found
        exact List.mem_cons_of_mem _ (ih hv)

/-- The earliest due timer is due. -/
theorem Timer.deadline_le_of_earliestDue {limit : Nat} {queue : List (Timer ε)} {t : Timer ε}
    (found : earliestDue limit queue = some t) : t.deadline ≤ limit := by
  induction queue generalizing t with
  | nil => simp [earliestDue] at found
  | cons u rest ih =>
    unfold earliestDue at found
    split at found
    · split at found
      · cases found; assumption
      · simp at found
    · rename_i v hv
      have := ih hv
      split at found
      · cases found; omega
      · cases found; exact this

namespace Clock

/-- The last tick. -/
def lastTick : Nat := 0xffffffffffffffff

/-- The tick `delay` ticks after another, or the last one. -/
def tickAfter (tick delay : Nat) : Nat :=
  min (tick + delay) lastTick

/-- A clock at tick 0 with no timers. -/
def start : Clock ε := ⟨0, 0, []⟩

/-- Opens a new epoch, in which every timer armed so far counts for nothing. -/
def openEpoch (c : Clock ε) : Clock ε :=
  { c with epoch := c.epoch + 1 }

/-- Moves the clock forward to `tick` without popping anything; it never moves back. -/
def advanceTo (c : Clock ε) (tick : Nat) : Clock ε :=
  { c with now := max c.now tick }

section Queue

variable [DecidableEq ε]

/-- The clock with one timer taken out of the queue and the time moved to its deadline. -/
def take (c : Clock ε) (t : Timer ε) : Clock ε :=
  { c with now := max c.now t.deadline, pending := c.pending.erase t }

/-- Arms an event `delay` ticks from now. Each event has at most one timer: arming it again moves it
to the end of the queue with its new deadline. -/
def arm (c : Clock ε) (delay : Nat) (event : ε) : Clock ε :=
  { c with
    pending := c.pending.filter (fun t => t.event ≠ event)
      ++ [⟨tickAfter c.now delay, c.epoch, event⟩] }

/-- Whether an event is armed in the current epoch. -/
def isPending (c : Clock ε) (event : ε) : Bool :=
  c.pending.any fun t => t.event = event && t.epoch = c.epoch

/-- Taking a timer of the queue out shortens the queue by one. -/
theorem length_take {c : Clock ε} {t : Timer ε} (mem : t ∈ c.pending) :
    (c.take t).pending.length = c.pending.length - 1 :=
  List.length_erase_of_mem mem

/-- Pops the earliest timer due by `limit` and moves the clock to its deadline. Timers of an earlier
epoch that come first are dropped on the way; they move the clock too. -/
def popDue (c : Clock ε) (limit : Nat) : Option ε × Clock ε :=
  match _found : Timer.earliestDue limit c.pending with
  | none => (none, c)
  | some t =>
    if t.epoch = c.epoch then (some t.event, c.take t)
    else popDue (c.take t) limit
termination_by c.pending.length
decreasing_by
  have mem := Timer.mem_of_earliestDue ‹_›
  have := length_take mem
  have := List.length_pos_of_mem mem
  omega

/-! ### What is left to do

Events may be given weights, so that a clock weighs as much as the timers in its queue. Popping takes
an event's weight off, arming puts it on: where doing the work of an event arms lighter events only,
the weight shows that draining the queue ends. -/

/-- The weight of the timers of a queue. -/
def queueWeight (w : ε → Nat) : List (Timer ε) → Nat
  | [] => 0
  | t :: rest => w t.event + queueWeight w rest

/-- The weight of all timers in the queue. -/
def weight (w : ε → Nat) (c : Clock ε) : Nat :=
  queueWeight w c.pending

omit [DecidableEq ε] in
theorem queueWeight_append (w : ε → Nat) (queue behind : List (Timer ε)) :
    queueWeight w (queue ++ behind) = queueWeight w queue + queueWeight w behind := by
  induction queue with
  | nil => simp only [List.nil_append, queueWeight, Nat.zero_add]
  | cons t rest ih => simp only [List.cons_append, queueWeight, ih, Nat.add_assoc]

theorem queueWeight_erase (w : ε → Nat) {queue : List (Timer ε)} {t : Timer ε} (mem : t ∈ queue) :
    queueWeight w (queue.erase t) + w t.event = queueWeight w queue := by
  induction queue with
  | nil => cases mem
  | cons u rest ih =>
    by_cases same : u = t
    · rw [same, List.erase_cons_head, queueWeight, Nat.add_comm]
    · have member := (List.mem_cons.mp mem).resolve_left (Ne.symm same)
      rw [List.erase_cons_tail (by simpa using same), queueWeight, queueWeight, Nat.add_assoc,
        ih member]

/-- Taking a timer out takes its weight off. -/
theorem weight_take (w : ε → Nat) {c : Clock ε} {t : Timer ε} (mem : t ∈ c.pending) :
    (c.take t).weight w + w t.event = c.weight w :=
  queueWeight_erase w mem

/-- Popping an event takes its weight off, and that of the timers dropped on the way. -/
theorem weight_popDue_some (w : ε → Nat) {c d : Clock ε} {limit : Nat} {event : ε}
    (popped : c.popDue limit = (some event, d)) : d.weight w + w event ≤ c.weight w := by
  fun_induction popDue c limit with
  | case1 => simp at popped
  | case2 c t found _ =>
    obtain ⟨rfl, rfl⟩ : t.event = event ∧ c.take t = d := by simpa using popped
    exact Nat.le_of_eq (weight_take w (Timer.mem_of_earliestDue found))
  | case3 c t found _ ih =>
    have := ih popped
    have := weight_take w (Timer.mem_of_earliestDue found)
    omega

/-- Arming an event puts its weight on, at most. -/
theorem weight_arm_le (w : ε → Nat) (c : Clock ε) (delay : Nat) (event : ε) :
    (c.arm delay event).weight w ≤ c.weight w + w event := by
  have kept : queueWeight w (c.pending.filter fun t => t.event ≠ event) ≤ c.weight w := by
    unfold weight
    induction c.pending with
    | nil => exact Nat.le_refl _
    | cons t rest ih =>
      rw [List.filter_cons]
      split
      · simp only [queueWeight]
        omega
      · simp only [queueWeight]
        omega
  unfold weight arm
  dsimp only
  rw [queueWeight_append]
  exact Nat.add_le_add_right kept _

end Queue

end Clock

end WlanCard
