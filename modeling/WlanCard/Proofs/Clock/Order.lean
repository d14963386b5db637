import Mathlib.Data.List.Induction
import Mathlib.Data.List.Perm.Basic
import WlanCard.Proofs.Clock.Epoch

/-!
# Timers fire in order, once each

A clock that is popped by one limit again and again answers the events of its current timers that are
due, ordered by deadline and, where deadlines are equal, by when they were armed last; after that it
answers nothing (`popped_in_order`). Nothing in the queue says when a timer was armed: that the queue
is in the order of arming is what every operation keeps (`queue_inArmingOrder`).

One pop takes out the first of the current timers that are due (`firstDue_of_popped`), and neither it
nor the timers dropped on the way change what all the pops leave in the queue and how far they take the
clock (`rest_popDue`, `reach_popDue`). `drained` puts the pops in a row; the induction is on the number
of current timers that are due.
-/

namespace WlanCard

variable {ε : Type}

namespace Timer

/-- One timer comes due before another: at an earlier tick, or first of two at the same tick. -/
def Before (first : Timer ε → Timer ε → Prop) (t u : Timer ε) : Prop :=
  t.deadline < u.deadline ∨ t.deadline = u.deadline ∧ first t u

/-- The earliest due timer of a queue comes before all the others, where the queue's own order decides
between equal deadlines. -/
theorem before_of_earliestDue [DecidableEq ε] {first : Timer ε → Timer ε → Prop} {limit : Nat}
    {queue : List (Timer ε)} {t : Timer ε} (found : earliestDue limit queue = some t)
    (ordered : queue.Pairwise first) : ∀ u ∈ queue.erase t, t.Before first u := by
  induction queue with
  | nil => cases found
  | cons head rest ih =>
    obtain ⟨front, ordered⟩ := List.pairwise_cons.mp ordered
    intro u mem
    rcases earliestDue_cons_iff.mp found with ⟨rfl, -, earliest⟩ | ⟨later, earlier⟩
    · rw [List.erase_cons_head] at mem
      rcases Nat.lt_or_eq_of_le (earliest u mem) with before | same
      · exact .inl before
      · exact .inr ⟨same, front u mem⟩
    · have unlike : head ≠ t := fun same => Nat.lt_irrefl _ (same ▸ earlier)
      rw [List.erase_cons_tail (by simpa using unlike)] at mem
      rcases List.mem_cons.mp mem with rfl | mem
      · exact .inl earlier
      · exact ih later ordered u mem

end Timer

namespace Clock

/-! ## What popping by a limit is to do -/

/-- The timers of the current epoch that are due by a limit, as they stand in the queue. -/
def due (c : Clock ε) (limit : Nat) : List (Timer ε) :=
  c.pending.filter fun t => t.epoch = c.epoch ∧ t.deadline ≤ limit

/-- The timers of any epoch that are not due by a limit, as they stand in the queue. -/
def rest (c : Clock ε) (limit : Nat) : List (Timer ε) :=
  c.pending.filter fun t => limit < t.deadline

/-- The last tick among the current one and the deadlines, of any epoch, that are due by a limit. -/
def reach (c : Clock ε) (limit : Nat) : Nat :=
  ((c.pending.filter fun t => t.deadline ≤ limit).map (·.deadline)).foldl max c.now

variable {c d : Clock ε} {limit : Nat}

theorem mem_due {t : Timer ε} :
    t ∈ c.due limit ↔ t ∈ c.pending ∧ t.epoch = c.epoch ∧ t.deadline ≤ limit := by
  simp only [due, List.mem_filter, decide_eq_true_eq]

section Idle

variable (nothing : Timer.earliestDue limit c.pending = none)
include nothing

theorem rest_of_nothing : c.rest limit = c.pending :=
  List.filter_eq_self.mpr fun t mem =>
    decide_eq_true (Timer.earliestDue_eq_none_iff.mp nothing t mem)

theorem reach_of_nothing : c.reach limit = c.now := by
  have none : c.pending.filter (fun t => t.deadline ≤ limit) = [] := by
    refine List.filter_eq_nil_iff.mpr fun t mem => ?_
    have beyond := Timer.earliestDue_eq_none_iff.mp nothing t mem
    simp only [decide_eq_true_eq]
    omega
  rw [reach, none, List.map_nil, List.foldl_nil]

theorem due_of_nothing : c.due limit = [] := by
  refine List.filter_eq_nil_iff.mpr fun t mem => ?_
  have beyond := Timer.earliestDue_eq_none_iff.mp nothing t mem
  simp only [decide_eq_true_eq]
  omega

end Idle

variable [DecidableEq ε]

/-! ## Taking one timer out -/

theorem rest_take {t : Timer ε} (early : t.deadline ≤ limit) : (c.take t).rest limit = c.rest limit := by
  unfold rest take
  dsimp only
  rw [← List.erase_filter]
  refine List.erase_of_not_mem fun mem => ?_
  have beyond := of_decide_eq_true (List.mem_filter.mp mem).2
  omega

theorem reach_take {t : Timer ε} (mem : t ∈ c.pending) (early : t.deadline ≤ limit) :
    (c.take t).reach limit = c.reach limit := by
  have among : t ∈ c.pending.filter fun t => t.deadline ≤ limit :=
    List.mem_filter.mpr ⟨mem, decide_eq_true early⟩
  have split := (List.perm_cons_erase among).map (·.deadline)
  unfold reach take
  dsimp only
  rw [← List.erase_filter, split.foldl_eq, List.map_cons, List.foldl_cons]

theorem due_take (t : Timer ε) : (c.take t).due limit = (c.due limit).erase t :=
  List.erase_filter.symm

theorem due_take_of_stale {t : Timer ε} (stale : t.epoch ≠ c.epoch) :
    (c.take t).due limit = c.due limit := by
  rw [due_take]
  exact List.erase_of_not_mem fun mem => stale (mem_due.mp mem).2.1

/-! ## One pop -/

/-- A pop leaves in the queue what is not due. -/
theorem rest_popDue (c : Clock ε) (limit : Nat) : (c.popDue limit).2.rest limit = c.rest limit := by
  fun_induction popDue c limit with
  | case1 => rfl
  | case2 c t found live => exact rest_take (Timer.deadline_le_of_earliestDue found)
  | case3 c t found stale ih => rw [ih, rest_take (Timer.deadline_le_of_earliestDue found)]

/-- A pop leaves the clock on its way. -/
theorem reach_popDue (c : Clock ε) (limit : Nat) :
    (c.popDue limit).2.reach limit = c.reach limit := by
  fun_induction popDue c limit with
  | case1 => rfl
  | case2 c t found live =>
    exact reach_take (Timer.mem_of_earliestDue found) (Timer.deadline_le_of_earliestDue found)
  | case3 c t found stale ih =>
    rw [ih, reach_take (Timer.mem_of_earliestDue found) (Timer.deadline_le_of_earliestDue found)]

/-- A pop does not move the clock back. -/
theorem now_le_popDue (c : Clock ε) (limit : Nat) : c.now ≤ (c.popDue limit).2.now := by
  fun_induction popDue c limit with
  | case1 => exact Nat.le_refl _
  | case2 c t found live => exact Nat.le_max_left ..
  | case3 c t found stale ih => exact Nat.le_trans (Nat.le_max_left ..) ih

/-- **A pop that answers an event** takes out the first of the current timers that are due. -/
theorem firstDue_of_popped {event : ε} (popped : c.popDue limit = (some event, d))
    {first : Timer ε → Timer ε → Prop} (ordered : (c.due limit).Pairwise first) :
    ∃ t ∈ c.due limit, t.event = event ∧ d.due limit = (c.due limit).erase t ∧
      ∀ u ∈ d.due limit, t.Before first u := by
  fun_induction popDue c limit with
  | case1 => cases popped
  | case2 c t found live =>
    obtain ⟨rfl, rfl⟩ : t.event = event ∧ c.take t = d := by simpa using popped
    have early := Timer.deadline_le_of_earliestDue found
    have among : Timer.earliestDue limit (c.due limit) = some t :=
      Timer.earliestDue_filter found (decide_eq_true ⟨live, early⟩)
    refine ⟨t, mem_due.mpr ⟨Timer.mem_of_earliestDue found, live, early⟩, rfl, due_take t, ?_⟩
    rw [due_take]
    exact Timer.before_of_earliestDue among ordered
  | case3 c t found stale ih =>
    rw [due_take_of_stale stale] at ih
    exact ih popped ordered

/-- A pop answers nothing only if no current timer is due. -/
theorem due_of_drained (drained : c.popDue limit = (none, d)) : c.due limit = [] := by
  fun_induction popDue c limit with
  | case1 c nothing => exact due_of_nothing nothing
  | case2 => cases drained
  | case3 c t found stale ih => rw [← due_take_of_stale stale, ih drained]

/-- If no current timer is due, a pop answers nothing. -/
theorem drained_of_due (idle : c.due limit = []) : c.popDue limit = (none, (c.popDue limit).2) := by
  cases popped : c.popDue limit with
  | mk answer d =>
    cases answer with
    | none => rfl
    | some event =>
      have ordered : (c.due limit).Pairwise fun _ _ => True := idle ▸ .nil
      obtain ⟨t, mem, -⟩ := firstDue_of_popped popped ordered
      rw [idle] at mem
      cases mem

/-- A pop that answers nothing leaves the clock where all pops lead. -/
theorem eq_of_drained (drained : c.popDue limit = (none, d)) :
    d = ⟨c.reach limit, c.epoch, c.rest limit⟩ := by
  have nothing := earliestDue_of_drained drained
  have epoch := c.popDue_epoch limit
  have queue := c.rest_popDue limit
  have tick := c.reach_popDue limit
  rw [drained] at epoch queue tick
  rw [rest_of_nothing nothing] at queue
  rw [reach_of_nothing nothing] at tick
  rw [← tick, ← epoch, ← queue]

/-! ## Pops in a row -/

/-- The clock after a number of pops by one limit. -/
def afterPops (limit : Nat) : (count : Nat) → (c : Clock ε) → Clock ε
  | 0, c => c
  | count + 1, c => afterPops limit count (c.popDue limit).2

theorem afterPops_succ (limit count : Nat) (c : Clock ε) :
    c.afterPops limit (count + 1) = ((c.afterPops limit count).popDue limit).2 := by
  induction count generalizing c with
  | zero => rfl
  | succ count ih => exact ih (c.popDue limit).2

theorem afterPops_of_nothing (nothing : Timer.earliestDue limit c.pending = none) (count : Nat) :
    c.afterPops limit count = c := by
  induction count with
  | zero => rfl
  | succ count ih =>
    show (c.popDue limit).2.afterPops limit count = c
    rw [popDue_of_nothing nothing, ih]

/-- **Popping until nothing is answered**: the current timers that are due are answered one by one, each
before the others that are left, and then nothing is; what is not due stays. -/
theorem drained {first : Timer ε → Timer ε → Prop} (ordered : (c.due limit).Pairwise first) :
    ∃ fired : List (Timer ε), fired.Perm (c.due limit) ∧ fired.Pairwise (Timer.Before first) ∧
      (∀ count, ((c.afterPops limit count).popDue limit).1 = fired[count]?.map (·.event)) ∧
      ∀ count, fired.length < count →
        c.afterPops limit count = ⟨c.reach limit, c.epoch, c.rest limit⟩ := by
  induction size : (c.due limit).length generalizing c with
  | zero =>
    have idle : c.due limit = [] := List.length_eq_zero_iff.mp size
    have drained := drained_of_due idle
    have stays := afterPops_of_nothing (earliestDue_of_drained drained)
    refine ⟨[], idle ▸ .nil, .nil, fun count => ?_, fun count some => ?_⟩
    · cases count with
      | zero => exact congrArg Prod.fst drained
      | succ count =>
        show (((c.popDue limit).2.afterPops limit count).popDue limit).1 = none
        rw [stays, popDue_of_nothing (earliestDue_of_drained drained)]
    · obtain ⟨count, rfl⟩ := Nat.exists_eq_succ_of_ne_zero (Nat.ne_of_gt some)
      exact (stays count).trans (eq_of_drained drained)
  | succ length ih =>
    cases popped : c.popDue limit with
    | mk answer d =>
      cases answer with
      | none =>
        rw [due_of_drained popped] at size
        cases size
      | some event =>
        obtain ⟨t, mem, rfl, left, before⟩ := firstDue_of_popped popped ordered
        have shorter : (d.due limit).length = length := by
          rw [left, List.length_erase_of_mem mem, size, Nat.add_sub_cancel]
        have ordered : (d.due limit).Pairwise first := left ▸ ordered.sublist List.erase_sublist
        obtain ⟨fired, perm, sorted, answers, after⟩ := ih ordered shorter
        have next : ∀ count, c.afterPops limit (count + 1) = d.afterPops limit count := by
          intro count
          show (c.popDue limit).2.afterPops limit count = _
          rw [popped]
        have whole : (t :: fired).Perm (c.due limit) :=
          ((left ▸ perm).cons t).trans (List.perm_cons_erase mem).symm
        refine ⟨t :: fired, whole,
          List.pairwise_cons.mpr ⟨fun u mem => before u (perm.mem_iff.mp mem), sorted⟩,
          fun count => ?_, fun count more => ?_⟩
        · cases count with
          | zero => exact congrArg Prod.fst popped
          | succ count =>
            rw [next, answers, List.getElem?_cons_succ]
        · have epoch := c.popDue_epoch limit
          have queue := c.rest_popDue limit
          have tick := c.reach_popDue limit
          rw [popped] at epoch queue tick
          obtain ⟨count, rfl⟩ := Nat.exists_eq_succ_of_ne_zero (Nat.ne_of_gt (Nat.zero_lt_of_lt more))
          rw [next, after count (Nat.lt_of_succ_lt_succ more), epoch, queue, tick]

/-! ## The order of arming -/

/-- Whether an operation arms an event. -/
def Operation.arms (event : ε) : Operation ε → Bool
  | .arm _ armed => armed = event
  | _ => false

/-- The place in a run, counted from one, of the last operation that arms an event. -/
def armedAt (ops : List (Operation ε)) (event : ε) : Nat :=
  (ops.reverse.dropWhile fun op => !op.arms event).length

theorem armedAt_concat (ops : List (Operation ε)) (op : Operation ε) (event : ε) :
    armedAt (ops ++ [op]) event = if op.arms event then ops.length + 1 else armedAt ops event := by
  unfold armedAt
  rw [List.reverse_append, List.reverse_singleton, List.singleton_append, List.dropWhile_cons]
  cases op.arms event <;> simp

theorem armedAt_le (ops : List (Operation ε)) (event : ε) : armedAt ops event ≤ ops.length := by
  have part : (ops.reverse.dropWhile fun op => !op.arms event).Sublist ops.reverse :=
    List.dropWhile_sublist _
  have le := part.length_le
  rwa [List.length_reverse] at le

theorem run_concat (c : Clock ε) (ops : List (Operation ε)) (op : Operation ε) :
    c.run (ops ++ [op]) = ((c.run ops).perform op).2 := by
  induction ops generalizing c with
  | nil => rfl
  | cons first ops ih => exact ih (c.perform first).2

theorem pending_popDue_sublist (c : Clock ε) (limit : Nat) :
    (c.popDue limit).2.pending.Sublist c.pending := by
  fun_induction popDue c limit with
  | case1 => exact List.Sublist.refl _
  | case2 => exact List.erase_sublist
  | case3 c t found stale ih => exact ih.trans List.erase_sublist

/-- **The queue is in the order of arming**: of two timers, the one that stands first was armed first,
the last time that each was armed. -/
theorem queue_inArmingOrder (ops : List (Operation ε)) :
    ((start : Clock ε).run ops).pending.Pairwise
      fun t u => armedAt ops t.event < armedAt ops u.event := by
  induction ops using List.reverseRecOn with
  | nil => exact .nil
  | append_singleton ops op ih =>
    -- An operation that arms nothing adds nothing to the queue and changes no place of arming.
    have kept : (∀ event, op.arms event = false) →
        (((start : Clock ε).run ops).perform op).2.pending.Sublist
          ((start : Clock ε).run ops).pending →
        (((start : Clock ε).run ops).perform op).2.pending.Pairwise
          fun t u => armedAt (ops ++ [op]) t.event < armedAt (ops ++ [op]) u.event := by
      intro arms sublist
      refine (ih.sublist sublist).imp fun before => ?_
      simpa only [armedAt_concat, arms, Bool.false_eq_true, if_false] using before
    rw [run_concat]
    cases op with
    | arm delay event =>
      have other : ∀ t : Timer ε, t.event ≠ event →
          armedAt (ops ++ [.arm delay event]) t.event = armedAt ops t.event := by
        intro t unlike
        rw [armedAt_concat, if_neg]
        simpa [Operation.arms] using Ne.symm unlike
      have named : ∀ t ∈ ((start : Clock ε).run ops).pending.filter (fun t => t.event ≠ event),
          t.event ≠ event := fun t mem => of_decide_eq_true (List.mem_filter.mp mem).2
      refine List.pairwise_append.mpr ⟨?_, List.pairwise_singleton .., ?_⟩
      · refine List.Pairwise.imp_of_mem ?_ (ih.sublist List.filter_sublist)
        intro t u first second before
        rw [other t (named t first), other u (named u second)]
        exact before
      · intro t mem u last
        have armed : armedAt (ops ++ [.arm delay event]) event = ops.length + 1 := by
          rw [armedAt_concat, if_pos (by simp [Operation.arms])]
        rw [List.mem_singleton.mp last, other t (named t mem), armed]
        exact Nat.lt_succ_of_le (armedAt_le ops t.event)
    | popDue limit => exact kept (fun _ => rfl) (pending_popDue_sublist _ limit)
    | advanceTo tick => exact kept (fun _ => rfl) (List.Sublist.refl _)
    | isPending event => exact kept (fun _ => rfl) (List.Sublist.refl _)
    | openEpoch => exact kept (fun _ => rfl) (List.Sublist.refl _)

/-- No operation arms an event for a tick beyond the last one. -/
theorem deadline_le_lastTick (ops : List (Operation ε)) :
    ∀ t ∈ ((start : Clock ε).run ops).pending, t.deadline ≤ lastTick := by
  induction ops using List.reverseRecOn with
  | nil => exact fun t mem => nomatch mem
  | append_singleton ops op ih =>
    rw [run_concat]
    cases op with
    | arm delay event =>
      intro t mem
      rcases List.mem_append.mp mem with kept | last
      · exact ih t (List.mem_filter.mp kept).1
      · rw [List.mem_singleton.mp last]
        exact tickAfter_le ..
    | popDue limit => exact fun t mem => ih t (mem_of_mem_popDue mem)
    | advanceTo tick => exact ih
    | isPending event => exact ih
    | openEpoch => exact ih

/-- **Timers fire in order, once each.** Whatever a clock has been used for, popping it by one limit
again and again answers the events of its current timers that are due, ordered by deadline and, where
deadlines are equal, by when they were armed last, each once, and after that nothing. What is left then
are the timers that are not due, in their old order, and the clock stands at the last deadline that was
due, if that lies ahead; no pop on the way moves it back. No event is ever queued twice, and an event
is pending exactly if popping by some limit answers it in the end. -/
theorem popped_in_order (ops : List (Operation ε)) (limit : Nat) :
    let c := (start : Clock ε).run ops
    (∃ fired : List (Timer ε),
      fired.Perm (c.pending.filter fun t => t.epoch = c.epoch ∧ t.deadline ≤ limit) ∧
      fired.Pairwise (Timer.Before fun t u => armedAt ops t.event < armedAt ops u.event) ∧
      (∀ count, ((c.afterPops limit count).popDue limit).1 = fired[count]?.map (·.event)) ∧
      ∀ count, fired.length < count →
        c.afterPops limit count =
          { now := ((c.pending.filter fun t => t.deadline ≤ limit).map (·.deadline)).foldl max c.now
            epoch := c.epoch
            pending := c.pending.filter fun t => limit < t.deadline }) ∧
    (∀ count, (c.afterPops limit count).now ≤ (c.afterPops limit (count + 1)).now) ∧
    (c.pending.map (·.event)).Nodup ∧
    ∀ event, c.isPending event = true ↔
      ∃ late ≤ lastTick, ∃ count, ((c.afterPops late count).popDue late).1 = some event := by
  intro c
  have queue := queue_inArmingOrder ops
  have ordered : ∀ limit, (c.due limit).Pairwise
      fun t u => armedAt ops t.event < armedAt ops u.event :=
    fun limit => queue.sublist List.filter_sublist
  refine ⟨drained (ordered limit), fun count => ?_, ?_, fun event => ⟨fun pending => ?_, ?_⟩⟩
  · rw [afterPops_succ]
    exact now_le_popDue ..
  · refine List.pairwise_map.mpr (queue.imp fun before same => ?_)
    exact Nat.ne_of_lt before (congrArg (armedAt ops) same)
  · obtain ⟨t, live⟩ := List.exists_mem_of_ne_nil _ (isPending_iff.mp pending)
    obtain ⟨mem, named, current⟩ := mem_live.mp live
    obtain ⟨fired, perm, -, answers, -⟩ := drained (ordered lastTick)
    have among : t ∈ fired :=
      perm.mem_iff.mpr (mem_due.mpr ⟨mem, current, deadline_le_lastTick ops t mem⟩)
    obtain ⟨count, inside, same⟩ := List.mem_iff_getElem.mp among
    refine ⟨lastTick, Nat.le_refl _, count, ?_⟩
    rw [answers, List.getElem?_eq_getElem inside, same, ← named]
    rfl
  · rintro ⟨late, -, count, popped⟩
    obtain ⟨fired, perm, -, answers, -⟩ := drained (ordered late)
    rw [answers] at popped
    obtain ⟨t, found, named⟩ := Option.map_eq_some_iff.mp popped
    have due := mem_due.mp (perm.mem_iff.mp (List.mem_of_getElem? found))
    exact isPending_iff.mpr (List.ne_nil_of_mem (mem_live.mpr ⟨due.1, named, due.2.1⟩))

end Clock

end WlanCard
