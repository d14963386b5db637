import WlanCard.Proofs.Clock.Due

/-!
# Live timers

`Clock.live` is what of a queue will ever do anything: the timers of the current epoch, event by
event. Every operation of a clock has one law on it. Arming an event leaves it with a single live
timer and no other event changed (`live_arm`), a new epoch leaves none (`live_openEpoch`), and an event
is popped exactly at the deadline of its live timer (`Sound.popDue_some`).

The laws hold of the clocks that operations lead to (`Clock.Sound`): no event is queued twice, and
nothing queued lies before the current tick or in an epoch to come.
-/

namespace WlanCard

variable {ε : Type}

/-- No timer of the queue comes before the earliest due one. -/
theorem Timer.deadline_le_of_mem {limit : Nat} {queue : List (Timer ε)} {t u : Timer ε}
    (found : earliestDue limit queue = some t) (mem : u ∈ queue) : t.deadline ≤ u.deadline := by
  induction queue generalizing t with
  | nil => cases mem
  | cons v rest ih =>
    unfold earliestDue at found
    cases later : earliestDue limit rest with
    | none =>
      rw [later] at found
      dsimp only at found
      split at found
      next due =>
        cases found
        rcases List.mem_cons.mp mem with rfl | mem
        · exact Nat.le_refl _
        · have beyond := earliestDue_eq_none_iff.mp later u mem
          omega
      · cases found
    | some w =>
      rw [later] at found
      dsimp only at found
      split at found
      next first =>
        cases found
        rcases List.mem_cons.mp mem with rfl | mem
        · exact Nat.le_refl _
        · exact Nat.le_trans first (ih later mem)
      next second =>
        cases found
        rcases List.mem_cons.mp mem with rfl | mem
        · omega
        · exact ih later mem

namespace Clock

theorem le_tickAfter {tick : Nat} (within : tick ≤ lastTick) (delay : Nat) :
    tick ≤ tickAfter tick delay := by
  unfold tickAfter
  omega

theorem tickAfter_le (tick delay : Nat) : tickAfter tick delay ≤ lastTick :=
  Nat.min_le_right ..

/-- What operations keep of a clock. -/
structure Sound (c : Clock ε) : Prop where
  /-- No event is queued twice. -/
  single : c.pending.Pairwise fun t u => t.event ≠ u.event
  /-- Nothing is queued in an epoch to come. -/
  past : ∀ t ∈ c.pending, t.epoch ≤ c.epoch
  /-- Nothing queued lies before the current tick. -/
  ahead : ∀ t ∈ c.pending, c.now ≤ t.deadline
  /-- The clock has not gone beyond its last tick. -/
  within : c.now ≤ lastTick

theorem sound_start : (start : Clock ε).Sound where
  single := .nil
  past _ mem := nomatch mem
  ahead _ mem := nomatch mem
  within := Nat.zero_le _

theorem Sound.openEpoch {c : Clock ε} (sound : c.Sound) : c.openEpoch.Sound where
  single := sound.single
  past t mem := Nat.le_succ_of_le (sound.past t mem)
  ahead := sound.ahead
  within := sound.within

/-- A clock may be moved to a tick by which nothing comes due. -/
theorem Sound.advanceTo {c : Clock ε} (sound : c.Sound) {tick : Nat} (within : tick ≤ lastTick)
    (nothing : Timer.earliestDue tick c.pending = none) : (c.advanceTo tick).Sound where
  single := sound.single
  past := sound.past
  ahead t mem := by
    have beyond := Timer.earliestDue_eq_none_iff.mp nothing t mem
    exact Nat.max_le.mpr ⟨sound.ahead t mem, Nat.le_of_lt beyond⟩
  within := Nat.max_le.mpr ⟨sound.within, within⟩

variable [DecidableEq ε] {c d : Clock ε} {event : ε}

/-- The timers that an event has in the current epoch. -/
def live (c : Clock ε) (event : ε) : List (Timer ε) :=
  c.pending.filter fun t => t.event = event ∧ t.epoch = c.epoch

theorem mem_live {t : Timer ε} :
    t ∈ c.live event ↔ t ∈ c.pending ∧ t.event = event ∧ t.epoch = c.epoch := by
  simp only [live, List.mem_filter, decide_eq_true_eq]

/-- An event is pending exactly if it has a live timer. -/
theorem isPending_iff : c.isPending event = true ↔ c.live event ≠ [] := by
  simp only [isPending, List.any_eq_true, Bool.and_eq_true, decide_eq_true_eq]
  constructor
  · rintro ⟨t, queued⟩
    exact List.ne_nil_of_mem (mem_live.mpr queued)
  · intro some
    obtain ⟨t, mem⟩ := List.exists_mem_of_ne_nil _ some
    exact ⟨t, mem_live.mp mem⟩

/-- An event has one live timer at most. -/
theorem Sound.live_eq (sound : c.Sound) {t : Timer ε} (mem : t ∈ c.live event) :
    c.live event = [t] := by
  have apart : (c.live event).Pairwise fun t u => t.event ≠ u.event :=
    sound.single.sublist List.filter_sublist
  have named : ∀ u ∈ c.live event, u.event = event := fun u mem => (mem_live.mp mem).2.1
  cases timers : c.live event with
  | nil =>
    rw [timers] at mem
    cases mem
  | cons u rest =>
    rw [timers] at mem apart named
    cases rest with
    | nil => rw [List.mem_singleton.mp mem]
    | cons v rest =>
      have same : u.event = v.event := by rw [named u (by simp), named v (by simp)]
      exact absurd same (List.rel_of_pairwise_cons apart List.mem_cons_self)

/-! ## Arming -/

theorem Sound.arm (sound : c.Sound) (delay : Nat) (event : ε) : (c.arm delay event).Sound where
  single := by
    refine List.pairwise_append.mpr ⟨sound.single.sublist List.filter_sublist,
      List.pairwise_singleton .., ?_⟩
    intro t mem u last
    rw [List.mem_singleton.mp last]
    exact of_decide_eq_true (List.mem_filter.mp mem).2
  past t mem := by
    rcases List.mem_append.mp mem with kept | last
    · exact sound.past t (List.mem_filter.mp kept).1
    · rw [List.mem_singleton.mp last]
      exact Nat.le_refl _
  ahead t mem := by
    rcases List.mem_append.mp mem with kept | last
    · exact sound.ahead t (List.mem_filter.mp kept).1
    · rw [List.mem_singleton.mp last]
      exact le_tickAfter sound.within delay
  within := sound.within

/-- **Arming an event** leaves it with the new timer alone, and every other event with what it had. -/
theorem live_arm (c : Clock ε) (delay : Nat) (armed event : ε) :
    (c.arm delay armed).live event =
      if event = armed then [⟨tickAfter c.now delay, c.epoch, armed⟩] else c.live event := by
  unfold live Clock.arm
  rw [List.filter_append, List.filter_filter]
  split
  next same =>
    subst same
    have none : c.pending.filter (fun t => decide (t.event = event ∧ t.epoch = c.epoch) &&
        decide (t.event ≠ event)) = [] := by
      refine List.filter_eq_nil_iff.mpr fun t _ both => ?_
      simp only [Bool.and_eq_true, decide_eq_true_eq] at both
      exact both.2 both.1.1
    rw [none]
    simp
  next other =>
    have kept : c.pending.filter (fun t => decide (t.event = event ∧ t.epoch = c.epoch) &&
        decide (t.event ≠ armed)) =
        c.pending.filter (fun t => decide (t.event = event ∧ t.epoch = c.epoch)) := by
      refine List.filter_congr fun t _ => ?_
      by_cases here : t.event = event <;> simp [here, other]
    rw [kept]
    simp [Ne.symm other]

/-- Arms events one after the other, each with its own delay. -/
def armAll (c : Clock ε) (delay : ε → Nat) (events : List ε) : Clock ε :=
  events.foldl (fun c event => c.arm (delay event) event) c

theorem armAll_append (c : Clock ε) (delay : ε → Nat) (events later : List ε) :
    c.armAll delay (events ++ later) = (c.armAll delay events).armAll delay later :=
  List.foldl_append

theorem armAll_epoch (c : Clock ε) (delay : ε → Nat) (events : List ε) :
    (c.armAll delay events).epoch = c.epoch := by
  induction events generalizing c with
  | nil => rfl
  | cons event events ih => exact ih (c.arm (delay event) event)

theorem Sound.armAll (sound : c.Sound) (delay : ε → Nat) (events : List ε) :
    (c.armAll delay events).Sound := by
  induction events generalizing c with
  | nil => exact sound
  | cons event events ih => exact ih (sound.arm (delay event) event)

/-- **Arming several events** leaves each of them with one new timer. -/
theorem live_armAll (c : Clock ε) (delay : ε → Nat) (events : List ε) (event : ε) :
    (c.armAll delay events).live event =
      if event ∈ events then [⟨tickAfter c.now (delay event), c.epoch, event⟩]
      else c.live event := by
  induction events generalizing c with
  | nil => rfl
  | cons first events ih =>
    have rest := ih (c.arm (delay first) first)
    show ((c.arm (delay first) first).armAll delay events).live event = _
    rw [rest, live_arm]
    by_cases later : event ∈ events
    · rw [if_pos later, if_pos (List.mem_cons_of_mem _ later)]
      rfl
    · rw [if_neg later]
      by_cases now : event = first
      · rw [if_pos now, now, if_pos List.mem_cons_self]
      · rw [if_neg now, if_neg (fun mem => (List.mem_cons.mp mem).elim now later)]

/-! ## A new epoch -/

/-- **In a new epoch** no event has a live timer. -/
theorem Sound.live_openEpoch (sound : c.Sound) (event : ε) : c.openEpoch.live event = [] := by
  refine List.filter_eq_nil_iff.mpr fun t mem => ?_
  have past := sound.past t mem
  have next : c.openEpoch.epoch = c.epoch + 1 := rfl
  simp only [decide_eq_true_eq, next]
  omega

/-! ## Popping -/

theorem Sound.take (sound : c.Sound) {limit : Nat} (within : limit ≤ lastTick) {t : Timer ε}
    (found : Timer.earliestDue limit c.pending = some t) : (c.take t).Sound where
  single := sound.single.sublist List.erase_sublist
  past u mem := sound.past u (List.mem_of_mem_erase mem)
  ahead u mem := by
    have mem := List.mem_of_mem_erase mem
    exact Nat.max_le.mpr ⟨sound.ahead u mem, Timer.deadline_le_of_mem found mem⟩
  within := by
    have due := Timer.deadline_le_of_earliestDue found
    exact Nat.max_le.mpr ⟨sound.within, Nat.le_trans due within⟩

theorem live_take (c : Clock ε) (t : Timer ε) (event : ε) :
    (c.take t).live event = (c.live event).erase t :=
  List.erase_filter.symm

/-- Taking out a timer of an earlier epoch changes nothing that is live. -/
theorem live_take_of_stale {t : Timer ε} (stale : t.epoch ≠ c.epoch) (event : ε) :
    (c.take t).live event = c.live event := by
  rw [live_take]
  exact List.erase_of_not_mem fun mem => stale (mem_live.mp mem).2.2

/-- Taking out a live timer leaves its event with none. -/
theorem Sound.live_take (sound : c.Sound) {t : Timer ε} (mem : t ∈ c.pending)
    (current : t.epoch = c.epoch) (event : ε) :
    (c.take t).live event = if event = t.event then [] else c.live event := by
  rw [Clock.live_take]
  split
  next same =>
    rw [sound.live_eq (mem_live.mpr ⟨mem, same.symm, current⟩), List.erase_cons_head]
  next other => exact List.erase_of_not_mem fun mem => other (mem_live.mp mem).2.1.symm

theorem Sound.popDue (sound : c.Sound) {limit : Nat} (within : limit ≤ lastTick) :
    (c.popDue limit).2.Sound := by
  fun_induction Clock.popDue c limit with
  | case1 => exact sound
  | case2 c t found live => exact sound.take within found
  | case3 c t found stale ih => exact ih (sound.take within found)

theorem popDue_epoch (c : Clock ε) (limit : Nat) : (c.popDue limit).2.epoch = c.epoch := by
  fun_induction Clock.popDue c limit with
  | case1 => rfl
  | case2 => rfl
  | case3 c t found stale ih => exact ih

/-- **An event is popped** at the deadline of its live timer, no later than the limit, and takes that
timer with it. -/
theorem Sound.popDue_some (sound : c.Sound) {limit : Nat} (within : limit ≤ lastTick)
    (popped : c.popDue limit = (some event, d)) :
    c.live event = [⟨d.now, c.epoch, event⟩] ∧ d.now ≤ limit ∧
      ∀ other, d.live other = if other = event then [] else c.live other := by
  fun_induction Clock.popDue c limit with
  | case1 => cases popped
  | case2 c t found live =>
    obtain ⟨rfl, rfl⟩ : t.event = event ∧ c.take t = d := by simpa using popped
    have mem := Timer.mem_of_earliestDue found
    have stands : (c.take t).now = t.deadline := Nat.max_eq_right (sound.ahead t mem)
    refine ⟨?_, ?_, sound.live_take mem live⟩
    · rw [sound.live_eq (mem_live.mpr ⟨mem, rfl, live⟩), stands, ← live]
    · rw [stands]
      exact Timer.deadline_le_of_earliestDue found
  | case3 c t found stale ih =>
    obtain ⟨timer, early, left⟩ := ih (sound.take within found) popped
    have kept := live_take_of_stale stale
    refine ⟨?_, early, fun other => ?_⟩
    · rw [← kept]
      exact timer
    · rw [left, kept]

/-- Where no event is popped, every live timer stays and lies beyond the limit. -/
theorem popDue_none {limit : Nat} (drained : c.popDue limit = (none, d)) :
    (∀ event, d.live event = c.live event) ∧ ∀ t ∈ d.pending, limit < t.deadline := by
  refine ⟨fun event => ?_, Timer.earliestDue_eq_none_iff.mp (earliestDue_of_drained drained)⟩
  fun_induction Clock.popDue c limit with
  | case1 =>
    cases drained
    rfl
  | case2 => cases drained
  | case3 c t found stale ih => rw [ih drained, live_take_of_stale stale]

end Clock

end WlanCard
