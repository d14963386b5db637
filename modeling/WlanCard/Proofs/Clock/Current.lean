import WlanCard.Proofs.Clock.Live

/-!
# Clocks without their past

A queue keeps the timers of earlier epochs until they would come due, and dropping one moves the clock.
`Clock.current` is the clock without them, as if its epoch were the first one. Popping does not go
beyond it (`popDue_cases`): the event that a clock pops is the one that comes first among its current
timers, and what the clock has been moved by dropping others lies before that event. Only where nothing
is popped may the clock stand too far, though not beyond the limit; once it has been moved there, no
difference is left.

So clocks that are current alike stay so under every operation (`Clock.Alike`), and opening an epoch
makes any two clocks alike that stand at the same tick (`Sound.openEpoch_alike`).
-/

namespace WlanCard

variable {ε : Type}

namespace Timer

/-- The timer, as if it had been armed in the first epoch. -/
def renewed (t : Timer ε) : Timer ε :=
  { t with epoch := 0 }

/-- What comes due first is the head of the queue, unless something behind it comes earlier. -/
theorem earliestDue_cons_iff {limit : Nat} {u t : Timer ε} {rest : List (Timer ε)} :
    earliestDue limit (u :: rest) = some t ↔
      u = t ∧ t.deadline ≤ limit ∧ (∀ v ∈ rest, t.deadline ≤ v.deadline) ∨
        earliestDue limit rest = some t ∧ t.deadline < u.deadline := by
  rw [earliestDue]
  cases later : earliestDue limit rest with
  | none =>
    have beyond := earliestDue_eq_none_iff.mp later
    dsimp only
    constructor
    · intro found
      split at found
      next due =>
        cases found
        exact .inl ⟨rfl, due, fun v mem => Nat.le_of_lt (Nat.lt_of_le_of_lt due (beyond v mem))⟩
      · cases found
    · rintro (⟨rfl, due, -⟩ | ⟨none, -⟩)
      · exact if_pos due
      · cases none
  | some w =>
    dsimp only
    constructor
    · intro found
      split at found
      next first =>
        cases found
        have due := deadline_le_of_earliestDue later
        exact .inl ⟨rfl, Nat.le_trans first due,
          fun v mem => Nat.le_trans first (deadline_le_of_mem later mem)⟩
      next second =>
        cases found
        exact .inr ⟨rfl, Nat.lt_of_not_le second⟩
    · rintro (⟨rfl, -, first⟩ | ⟨same, earlier⟩)
      · exact if_pos (first w (mem_of_earliestDue later))
      · cases same
        exact if_neg (Nat.not_le_of_lt earlier)

/-- The earliest due timer of a queue is that of every part of the queue which it belongs to. -/
theorem earliestDue_filter {limit : Nat} {queue : List (Timer ε)} {t : Timer ε} {p : Timer ε → Bool}
    (found : earliestDue limit queue = some t) (kept : p t = true) :
    earliestDue limit (queue.filter p) = some t := by
  induction queue with
  | nil => cases found
  | cons u rest ih =>
    rcases earliestDue_cons_iff.mp found with ⟨rfl, due, first⟩ | ⟨later, earlier⟩
    · rw [List.filter_cons_of_pos kept]
      exact earliestDue_cons_iff.mpr
        (.inl ⟨rfl, due, fun v mem => first v (List.mem_filter.mp mem).1⟩)
    · rw [List.filter_cons]
      split
      · exact earliestDue_cons_iff.mpr (.inr ⟨ih later, earlier⟩)
      · exact ih later

/-- What comes due first does not depend on the epochs. -/
theorem earliestDue_renewed (limit : Nat) (queue : List (Timer ε)) :
    earliestDue limit (queue.map renewed) = (earliestDue limit queue).map renewed := by
  induction queue with
  | nil => rfl
  | cons u rest ih =>
    rw [List.map_cons, earliestDue, earliestDue, ih]
    cases earliestDue limit rest with
    | none => exact (apply_ite (Option.map renewed) (u.deadline ≤ limit) (some u) none).symm
    | some v =>
      exact (apply_ite (Option.map renewed) (u.deadline ≤ v.deadline) (some u) (some v)).symm

/-- Timers of one epoch are told apart without it. -/
theorem map_renewed_erase [DecidableEq ε] {queue : List (Timer ε)} {t : Timer ε}
    (together : ∀ u ∈ queue, u.epoch = t.epoch) :
    (queue.erase t).map renewed = (queue.map renewed).erase t.renewed := by
  induction queue with
  | nil => rfl
  | cons u rest ih =>
    obtain ⟨epoch, together⟩ := List.forall_mem_cons.mp together
    by_cases same : u = t
    · rw [same, List.erase_cons_head, List.map_cons, List.erase_cons_head]
    · have unlike : u.renewed ≠ t.renewed := by
        intro renewed
        obtain ⟨deadline, -, event⟩ := Timer.mk.inj renewed
        obtain ⟨_, _, _⟩ := u
        obtain ⟨_, _, _⟩ := t
        cases deadline
        cases event
        cases epoch
        exact same rfl
      rw [List.erase_cons_tail (by simpa using same), List.map_cons, List.map_cons, ih together,
        List.erase_cons_tail (by simpa using unlike)]

end Timer

namespace Clock

/-- The clock without the timers of earlier epochs, as if its epoch were the first. -/
def current (c : Clock ε) : Clock ε where
  now := c.now
  epoch := 0
  pending := (c.pending.filter fun t => t.epoch = c.epoch).map Timer.renewed

theorem current_advanceTo (c : Clock ε) (tick : Nat) :
    (c.advanceTo tick).current = c.current.advanceTo tick := rfl

/-- A current timer is one of the queue, but for its epoch. -/
theorem exists_of_mem_current {c : Clock ε} {t : Timer ε} (mem : t ∈ c.current.pending) :
    ∃ u ∈ c.pending, u.deadline = t.deadline := by
  obtain ⟨u, queued, rfl⟩ := List.mem_map.mp mem
  exact ⟨u, (List.mem_filter.mp queued).1, rfl⟩

/-- **In a new epoch** nothing but the tick is left. -/
theorem Sound.current_openEpoch {c : Clock ε} (sound : c.Sound) :
    c.openEpoch.current = ⟨c.now, 0, []⟩ := by
  have stale : c.pending.filter (fun t => t.epoch = c.epoch + 1) = [] := by
    refine List.filter_eq_nil_iff.mpr fun t mem => ?_
    have past := sound.past t mem
    simp only [decide_eq_true_eq]
    omega
  show (⟨c.now, 0, (c.pending.filter fun t => t.epoch = c.epoch + 1).map Timer.renewed⟩ : Clock ε) = _
  rw [stale]
  rfl

variable [DecidableEq ε]

theorem current_arm (c : Clock ε) (delay : Nat) (event : ε) :
    (c.arm delay event).current = c.current.arm delay event := by
  have kept : (c.pending.filter fun t => t.event ≠ event).filter (fun t => t.epoch = c.epoch) =
      (c.pending.filter fun t => t.epoch = c.epoch).filter fun t => t.event ≠ event := by
    rw [List.filter_filter, List.filter_filter]
    exact List.filter_congr fun t _ => Bool.and_comm ..
  have last : [(⟨tickAfter c.now delay, c.epoch, event⟩ : Timer ε)].filter
      (fun t => t.epoch = c.epoch) = [⟨tickAfter c.now delay, c.epoch, event⟩] :=
    List.filter_cons_of_pos (decide_eq_true rfl)
  unfold current arm
  dsimp only
  rw [List.filter_append, List.map_append, kept, last, List.filter_map]
  rfl

theorem current_armAll (c : Clock ε) (delay : ε → Nat) (events : List ε) :
    (c.armAll delay events).current = c.current.armAll delay events := by
  induction events generalizing c with
  | nil => rfl
  | cons event events ih =>
    show ((c.arm (delay event) event).armAll delay events).current =
      (c.current.arm (delay event) event).armAll delay events
    rw [ih, current_arm]

/-! ## Popping -/

/-- Dropping a timer of an earlier epoch moves the clock, and that is all. -/
theorem current_take_of_stale {c : Clock ε} {t : Timer ε} (stale : t.epoch ≠ c.epoch) :
    (c.take t).current = c.current.advanceTo t.deadline := by
  have kept : (c.pending.erase t).filter (fun t => t.epoch = c.epoch) =
      c.pending.filter fun t => t.epoch = c.epoch := by
    rw [← List.erase_filter]
    refine List.erase_of_not_mem fun mem => stale ?_
    exact of_decide_eq_true (List.mem_filter.mp mem).2
  unfold current take
  dsimp only
  rw [kept]
  rfl

theorem current_take_of_live {c : Clock ε} {t : Timer ε} (live : t.epoch = c.epoch) :
    (c.take t).current = c.current.take t.renewed := by
  have together : ∀ u ∈ c.pending.filter (fun t => t.epoch = c.epoch), u.epoch = t.epoch :=
    fun u mem => (of_decide_eq_true (List.mem_filter.mp mem).2).trans live.symm
  unfold current take
  dsimp only
  rw [← List.erase_filter, Timer.map_renewed_erase together]
  rfl

/-- **What a clock pops** is told by its current timers: the one that comes first, if one is due. -/
theorem popDue_cases (c : Clock ε) (limit : Nat) :
    (∃ t d, Timer.earliestDue limit c.current.pending = some t ∧
      c.popDue limit = (some t.event, d) ∧ d.current = c.current.take t) ∨
    (∃ d, Timer.earliestDue limit c.current.pending = none ∧ c.popDue limit = (none, d) ∧
      (d.advanceTo limit).current = c.current.advanceTo limit) := by
  fun_induction popDue c limit with
  | case1 c nothing =>
    refine .inr ⟨c, Timer.earliestDue_eq_none_iff.mpr fun t mem => ?_, rfl,
      c.current_advanceTo limit⟩
    obtain ⟨u, mem, same⟩ := exists_of_mem_current mem
    exact same ▸ Timer.earliestDue_eq_none_iff.mp nothing u mem
  | case2 c t found live =>
    have first : Timer.earliestDue limit c.current.pending = some t.renewed := by
      unfold current
      rw [Timer.earliestDue_renewed, Timer.earliestDue_filter found (decide_eq_true live)]
      rfl
    exact .inl ⟨t.renewed, c.take t, first, rfl, current_take_of_live live⟩
  | case3 c t found stale ih =>
    rw [current_take_of_stale stale] at ih
    rcases ih with ⟨u, d, first, popped, left⟩ | ⟨d, nothing, popped, left⟩
    · refine .inl ⟨u, d, first, popped, ?_⟩
      -- The timer dropped came before the one popped, which therefore is where the clock stands.
      obtain ⟨v, mem, same⟩ := exists_of_mem_current (Timer.mem_of_earliestDue first)
      have before := Timer.deadline_le_of_mem found mem
      have stands : max (max c.now t.deadline) u.deadline = max c.now u.deadline := by omega
      rw [left]
      unfold take advanceTo
      dsimp only [current]
      rw [stands]
    · refine .inr ⟨d, nothing, popped, ?_⟩
      have due := Timer.deadline_le_of_earliestDue found
      have stands : max (max c.now t.deadline) limit = max c.now limit := by omega
      rw [left]
      unfold advanceTo
      dsimp only [current]
      rw [stands]

/-! ## Clocks that are alike -/

omit [DecidableEq ε] in
/-- Clocks that differ in their past only. -/
structure Alike (c d : Clock ε) : Prop where
  sound : c.Sound ∧ d.Sound
  current : c.current = d.current

omit [DecidableEq ε] in
theorem Alike.now {c d : Clock ε} (alike : c.Alike d) : c.now = d.now :=
  congrArg (·.now) alike.current

omit [DecidableEq ε] in
/-- **A new epoch** makes clocks alike that stand at the same tick, whatever has been armed. -/
theorem Sound.openEpoch_alike {c d : Clock ε} (left : c.Sound) (right : d.Sound)
    (now : c.now = d.now) : c.openEpoch.Alike d.openEpoch where
  sound := ⟨left.openEpoch, right.openEpoch⟩
  current := by rw [left.current_openEpoch, right.current_openEpoch, now]

namespace Alike

variable {c d : Clock ε} (alike : c.Alike d)
include alike

theorem armAll (delay : ε → Nat) (events : List ε) :
    (c.armAll delay events).Alike (d.armAll delay events) where
  sound := ⟨alike.sound.1.armAll delay events, alike.sound.2.armAll delay events⟩
  current := by rw [current_armAll, current_armAll, alike.current]

/-- **Alike clocks pop alike**, and where nothing is popped they are alike at the limit. -/
theorem popDue {limit : Nat} (within : limit ≤ lastTick) :
    (∃ event c' d', c.popDue limit = (some event, c') ∧ d.popDue limit = (some event, d') ∧
      c'.Alike d') ∨
    (∃ c' d', c.popDue limit = (none, c') ∧ d.popDue limit = (none, d') ∧
      (c'.advanceTo limit).Alike (d'.advanceTo limit)) := by
  have popped : ∀ {c c' : Clock ε} {answer : Option ε}, c.Sound → c.popDue limit = (answer, c') →
      c'.Sound := by
    intro c c' answer sound popped
    have left := sound.popDue within
    rwa [popped] at left
  rcases c.popDue_cases limit with ⟨t, c', first, left, current⟩ | ⟨c', nothing, left, current⟩
  · rcases d.popDue_cases limit with ⟨u, d', second, right, current'⟩ | ⟨d', nothing, -, -⟩
    · rw [← alike.current, first] at second
      cases second
      refine .inl ⟨t.event, c', d', left, right,
        ⟨popped alike.sound.1 left, popped alike.sound.2 right⟩, ?_⟩
      rw [current, current', alike.current]
    · rw [← alike.current, first] at nothing
      cases nothing
  · rcases d.popDue_cases limit with ⟨u, d', second, -, -⟩ | ⟨d', -, right, current'⟩
    · rw [← alike.current, nothing] at second
      cases second
    · refine .inr ⟨c', d', left, right, ⟨?_, ?_⟩, ?_⟩
      · exact (popped alike.sound.1 left).advanceTo within (earliestDue_of_drained left)
      · exact (popped alike.sound.2 right).advanceTo within (earliestDue_of_drained right)
      · rw [current, current', alike.current]

end Alike

end Clock

end WlanCard
