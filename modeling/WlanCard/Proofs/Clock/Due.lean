import WlanCard.Clock

/-!
# What comes due by a tick

Draining a queue up to a later tick begins by draining it up to an earlier one. A timer that comes
first by the earlier tick comes first by the later one (`earliestDue_mono`), so an event popped by the
earlier tick is the one popped by the later (`popDue_mono`); and once nothing is left that comes due by
the earlier tick, the timers dropped on the way make no difference (`popDue_of_drained`), nor does
moving the clock there (`popDue_advanceTo`).
-/

namespace WlanCard

variable {ε : Type}

namespace Timer

/-- Nothing comes due by a limit if every deadline lies beyond it. -/
theorem earliestDue_eq_none_iff {limit : Nat} {queue : List (Timer ε)} :
    earliestDue limit queue = none ↔ ∀ t ∈ queue, limit < t.deadline := by
  constructor
  · intro nothing t mem
    induction queue with
    | nil => cases mem
    | cons u rest ih =>
      unfold earliestDue at nothing
      cases later : earliestDue limit rest with
      | none =>
        rw [later] at nothing
        rcases List.mem_cons.mp mem with rfl | mem
        · by_cases due : t.deadline ≤ limit
          · simp [due] at nothing
          · omega
        · exact ih later mem
      | some v =>
        rw [later] at nothing
        dsimp only at nothing
        split at nothing <;> cases nothing
  · intro beyond
    cases found : earliestDue limit queue with
    | none => rfl
    | some t =>
      have due := deadline_le_of_earliestDue found
      have := beyond t (mem_of_earliestDue found)
      omega

/-- **The first by an earlier limit is the first by a later one.** -/
theorem earliestDue_mono {soon late : Nat} (le : soon ≤ late) {queue : List (Timer ε)} {t : Timer ε}
    (found : earliestDue soon queue = some t) : earliestDue late queue = some t := by
  induction queue generalizing t with
  | nil => cases found
  | cons u rest ih =>
    unfold earliestDue at found ⊢
    cases first : earliestDue soon rest with
    | none =>
      rw [first] at found
      dsimp only at found
      split at found
      next due =>
        cases found
        cases behind : earliestDue late rest with
        | none => exact if_pos (Nat.le_trans due le)
        | some v =>
          have beyond := earliestDue_eq_none_iff.mp first v (mem_of_earliestDue behind)
          exact if_pos (by omega)
      · cases found
    | some v =>
      rw [first] at found
      rw [ih first]
      exact found

end Timer

namespace Clock

variable [DecidableEq ε] {c d : Clock ε}

/-! ## One step of draining -/

theorem popDue_of_nothing {limit : Nat} (nothing : Timer.earliestDue limit c.pending = none) :
    c.popDue limit = (none, c) := by
  unfold popDue
  split
  · rfl
  next found => rw [nothing] at found; cases found

theorem popDue_of_found {limit : Nat} {t : Timer ε}
    (found : Timer.earliestDue limit c.pending = some t) :
    c.popDue limit =
      if t.epoch = c.epoch then (some t.event, c.take t) else (c.take t).popDue limit := by
  rw [popDue]
  split
  next nothing => rw [found] at nothing; cases nothing
  next u same =>
    obtain rfl : t = u := Option.some.inj (found.symm.trans same)
    rfl

/-! ## Draining up to an earlier tick -/

/-- **An event popped by an earlier limit** is the one popped by a later limit. -/
theorem popDue_mono {soon late : Nat} (le : soon ≤ late) {event : ε}
    (popped : c.popDue soon = (some event, d)) : c.popDue late = (some event, d) := by
  fun_induction popDue c soon with
  | case1 => cases popped
  | case2 c t found live =>
    rw [popDue_of_found (Timer.earliestDue_mono le found), if_pos live]
    exact popped
  | case3 c t found stale ih =>
    rw [popDue_of_found (Timer.earliestDue_mono le found), if_neg stale]
    exact ih popped

/-- Where no event is popped, no timer that is due is left. -/
theorem earliestDue_of_drained {limit : Nat} (drained : c.popDue limit = (none, d)) :
    Timer.earliestDue limit d.pending = none := by
  fun_induction popDue c limit with
  | case1 c nothing =>
    cases drained
    exact nothing
  | case2 => cases drained
  | case3 c t found stale ih => exact ih drained

/-- **Timers dropped by an earlier limit** are dropped first by a later one. -/
theorem popDue_of_drained {soon late : Nat} (le : soon ≤ late)
    (drained : c.popDue soon = (none, d)) : c.popDue late = d.popDue late := by
  fun_induction popDue c soon with
  | case1 => cases drained; rfl
  | case2 => cases drained
  | case3 c t found stale ih =>
    rw [popDue_of_found (Timer.earliestDue_mono le found), if_neg stale]
    exact ih drained

/-- Moving a clock forward, not beyond its first deadline, changes what is popped later only in that
the clock stands there if nothing is popped at all. -/
theorem popDue_advanceTo_of_le {soon : Nat} (ahead : ∀ t ∈ c.pending, soon ≤ t.deadline)
    (late : Nat) :
    (c.advanceTo soon).popDue late = c.popDue late ∨
      c.popDue late = (none, c) ∧ (c.advanceTo soon).popDue late = (none, c.advanceTo soon) := by
  cases found : Timer.earliestDue late c.pending with
  | none => exact .inr ⟨popDue_of_nothing found, popDue_of_nothing (c := c.advanceTo soon) found⟩
  | some t =>
    have beyond := ahead t (Timer.mem_of_earliestDue found)
    have taken : (c.advanceTo soon).take t = c.take t := by
      have same : max (max c.now soon) t.deadline = max c.now t.deadline := by omega
      unfold take advanceTo
      dsimp only
      rw [same]
    left
    rw [popDue_of_found (c := c.advanceTo soon) found, popDue_of_found found, taken]
    rfl

/-- **Moving a clock forward while nothing comes due** changes what is popped later only in that the
clock stands there if nothing is popped at all. -/
theorem popDue_advanceTo {soon : Nat} (nothing : Timer.earliestDue soon c.pending = none)
    (late : Nat) :
    (c.advanceTo soon).popDue late = c.popDue late ∨
      c.popDue late = (none, c) ∧ (c.advanceTo soon).popDue late = (none, c.advanceTo soon) := by
  have beyond := Timer.earliestDue_eq_none_iff.mp nothing
  exact popDue_advanceTo_of_le (fun t mem => Nat.le_of_lt (beyond t mem)) late

/-! ## Where the clock stands -/

/-- Popping moves the clock to no tick beyond the limit. -/
theorem max_now_popDue (c : Clock ε) (limit : Nat) :
    max (c.popDue limit).2.now limit = max c.now limit := by
  have taken : ∀ (c : Clock ε) (t : Timer ε), Timer.earliestDue limit c.pending = some t →
      max (c.take t).now limit = max c.now limit := by
    intro c t found
    have due := Timer.deadline_le_of_earliestDue found
    show max (max c.now t.deadline) limit = max c.now limit
    omega
  fun_induction popDue c limit with
  | case1 => rfl
  | case2 c t found live => exact taken c t found
  | case3 c t found stale ih => exact ih.trans (taken c t found)

end Clock

end WlanCard
