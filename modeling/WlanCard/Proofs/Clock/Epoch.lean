import WlanCard.Chip.Target
import WlanCard.Proofs.Clock.Current

/-!
# What a new epoch forgets

A new epoch is to make every timer armed so far count for nothing: from there on the clock should
answer as one that stands at the same tick with an empty queue. `Clock.since e` is the clock without
the timers armed before epoch `e`, and every operation commutes with it but one. A pop that answers an
event leaves the same clock with and without them (`popDue_since_some`). A pop that answers nothing
drops the old timers that are due, and the clock is moved to the deadline of each of them.

So the two clocks answer alike exactly as long as no pop without an answer drops an old timer from
beyond the tick where the other clock is left (`trace_openEpoch_iff`), and there are runs in which that
happens (`droppedTimer_moves_clock`). An owner who moves the clock to the limit of such a pop anyway
sees no difference: that is `Clock.popDue_cases`.
-/

namespace WlanCard

namespace Clock

variable {ε : Type}

/-! ## Runs of a clock -/

/-- What the owner of a clock may do with it. -/
inductive Operation (ε : Type) where
  | arm (delay : Nat) (event : ε)
  | popDue (limit : Nat)
  | advanceTo (tick : Nat)
  | isPending (event : ε)
  | openEpoch
deriving DecidableEq, Repr

/-- What an operation answers. -/
inductive Answer (ε : Type) where
  | nothing
  | popped (event : Option ε)
  | pending (answer : Bool)
deriving DecidableEq, Repr

section Run

variable [DecidableEq ε]

/-- The answer to an operation, and the clock after it. -/
def perform (c : Clock ε) : Operation ε → Answer ε × Clock ε
  | .arm delay event => (.nothing, c.arm delay event)
  | .popDue limit => (.popped (c.popDue limit).1, (c.popDue limit).2)
  | .advanceTo tick => (.nothing, c.advanceTo tick)
  | .isPending event => (.pending (c.isPending event), c)
  | .openEpoch => (.nothing, c.openEpoch)

/-- The clock after a run. -/
def run (c : Clock ε) : List (Operation ε) → Clock ε
  | [] => c
  | op :: ops => (c.perform op).2.run ops

/-- What the owner of a clock sees of a run: each answer, and the tick after it. -/
def trace (c : Clock ε) : List (Operation ε) → List (Answer ε × Nat)
  | [] => []
  | op :: ops => ((c.perform op).1, (c.perform op).2.now) :: (c.perform op).2.trace ops

end Run

/-- The clock with an empty queue. -/
def emptied (c : Clock ε) : Clock ε :=
  { c with pending := [] }

/-- The clock without the timers armed before epoch `e`. -/
def since (c : Clock ε) (e : Nat) : Clock ε :=
  { c with pending := c.pending.filter fun t => e ≤ t.epoch }

variable [DecidableEq ε] {c d : Clock ε} {e limit : Nat}

/-! ## The queue of a run -/

theorem mem_of_mem_popDue {t : Timer ε} (mem : t ∈ (c.popDue limit).2.pending) : t ∈ c.pending := by
  fun_induction popDue c limit with
  | case1 => exact mem
  | case2 => exact List.mem_of_mem_erase mem
  | case3 c u found stale ih => exact List.mem_of_mem_erase (ih mem)

/-- No operation goes back to an earlier epoch. -/
theorem epoch_le_perform (c : Clock ε) (op : Operation ε) : c.epoch ≤ (c.perform op).2.epoch := by
  cases op with
  | popDue limit => exact Nat.le_of_eq (c.popDue_epoch limit).symm
  | openEpoch => exact Nat.le_succ _
  | _ => exact Nat.le_refl _

/-- No operation queues a timer of an epoch to come. -/
theorem past_perform (past : ∀ t ∈ c.pending, t.epoch ≤ c.epoch) (op : Operation ε) :
    ∀ t ∈ (c.perform op).2.pending, t.epoch ≤ (c.perform op).2.epoch := by
  intro t mem
  cases op with
  | arm delay event =>
    rcases List.mem_append.mp mem with kept | last
    · exact past t (List.mem_filter.mp kept).1
    · rw [List.mem_singleton.mp last]
      exact Nat.le_refl _
  | popDue limit => exact (c.popDue_epoch limit).symm ▸ past t (mem_of_mem_popDue mem)
  | openEpoch => exact Nat.le_succ_of_le (past t mem)
  | advanceTo tick => exact past t mem
  | isPending event => exact past t mem

theorem past_run (past : ∀ t ∈ c.pending, t.epoch ≤ c.epoch) (ops : List (Operation ε)) :
    ∀ t ∈ (c.run ops).pending, t.epoch ≤ (c.run ops).epoch := by
  induction ops generalizing c with
  | nil => exact past
  | cons op ops ih => exact ih (past_perform past op)

omit [DecidableEq ε] in
/-- In a new epoch, all that is queued is old. -/
theorem since_openEpoch_eq (past : ∀ t ∈ c.pending, t.epoch ≤ c.epoch) :
    c.openEpoch.since c.openEpoch.epoch = c.openEpoch.emptied := by
  have old : c.pending.filter (fun t => c.openEpoch.epoch ≤ t.epoch) = [] := by
    refine List.filter_eq_nil_iff.mpr fun t mem => ?_
    have earlier := past t mem
    have epoch : c.openEpoch.epoch = c.epoch + 1 := rfl
    simp only [decide_eq_true_eq]
    omega
  exact congrArg (fun queue : List (Timer ε) => { c.openEpoch with pending := queue }) old

/-! ## Operations without the old timers -/

theorem since_arm (kept : e ≤ c.epoch) (delay : Nat) (event : ε) :
    (c.arm delay event).since e = (c.since e).arm delay event := by
  have rest : (c.pending.filter fun t => t.event ≠ event).filter (fun t => e ≤ t.epoch) =
      (c.pending.filter fun t => e ≤ t.epoch).filter fun t => t.event ≠ event := by
    rw [List.filter_filter, List.filter_filter]
    exact List.filter_congr fun t _ => Bool.and_comm ..
  have last : [(⟨tickAfter c.now delay, c.epoch, event⟩ : Timer ε)].filter
      (fun t => e ≤ t.epoch) = [⟨tickAfter c.now delay, c.epoch, event⟩] :=
    List.filter_cons_of_pos (decide_eq_true kept)
  unfold since arm
  dsimp only
  rw [List.filter_append, rest, last]

theorem isPending_since (kept : e ≤ c.epoch) (event : ε) :
    (c.since e).isPending event = c.isPending event := by
  unfold isPending since
  dsimp only
  rw [List.any_filter]
  congr 1
  funext t
  by_cases current : t.epoch = c.epoch
  · simp [current, kept]
  · simp [current]

theorem since_take (c : Clock ε) (t : Timer ε) (e : Nat) :
    (c.take t).since e = (c.since e).take t := by
  unfold since take
  dsimp only
  rw [← List.erase_filter]

/-- Taking out an old timer moves the clock, and that is all. -/
theorem since_take_of_old {t : Timer ε} (old : t.epoch < e) :
    (c.take t).since e = (c.since e).advanceTo t.deadline := by
  have gone : t ∉ (c.since e).pending := by
    intro mem
    have young := of_decide_eq_true (List.mem_filter.mp mem).2
    omega
  rw [since_take]
  unfold take advanceTo
  rw [List.erase_of_not_mem gone]

/-! ## Popping without the old timers -/

/-- **A pop that answers an event** answers the same without the old timers, and leaves the same. -/
theorem popDue_since_some (kept : e ≤ c.epoch) {event : ε}
    (popped : c.popDue limit = (some event, d)) :
    (c.since e).popDue limit = (some event, d.since e) := by
  fun_induction popDue c limit with
  | case1 => cases popped
  | case2 c t found live =>
    obtain ⟨rfl, rfl⟩ : t.event = event ∧ c.take t = d := by simpa using popped
    have young : e ≤ t.epoch := live ▸ kept
    have found := Timer.earliestDue_filter found (p := fun t => e ≤ t.epoch) (decide_eq_true young)
    have live : t.epoch = (c.since e).epoch := live
    rw [popDue_of_found (c := c.since e) found, if_pos live, since_take]
  | case3 c t found stale ih =>
    have after := ih kept popped
    by_cases old : t.epoch < e
    · -- The clock stands at the deadline of the old timer now, before all that is left.
      have ahead : ∀ u ∈ (c.since e).pending, t.deadline ≤ u.deadline := by
        intro u mem
        exact Timer.deadline_le_of_mem found (List.mem_filter.mp mem).1
      rw [since_take_of_old old] at after
      rcases popDue_advanceTo_of_le ahead limit with same | ⟨-, nothing⟩
      · rw [← same, after]
      · rw [nothing] at after
        cases after
    · have found := Timer.earliestDue_filter found (p := fun t => e ≤ t.epoch)
        (decide_eq_true (Nat.le_of_not_lt old))
      have stale : t.epoch ≠ (c.since e).epoch := stale
      rw [popDue_of_found (c := c.since e) found, if_neg stale, ← since_take, after]

/-- **A pop that answers nothing** answers nothing without the old timers. -/
theorem popDue_since_none (kept : e ≤ c.epoch) (drained : (c.popDue limit).1 = none) :
    ((c.since e).popDue limit).1 = none := by
  have same : (c.since e).current = c.current := by
    have young : (c.pending.filter fun t => e ≤ t.epoch).filter (fun t => t.epoch = c.epoch) =
        c.pending.filter fun t => t.epoch = c.epoch := by
      rw [List.filter_filter]
      refine List.filter_congr fun t _ => ?_
      by_cases current : t.epoch = c.epoch
      · simp [current, kept]
      · simp [current]
    unfold current since
    dsimp only
    rw [young]
  rcases c.popDue_cases limit with ⟨t, d, -, popped, -⟩ | ⟨d, nothing, -, -⟩
  · rw [popped] at drained
    cases drained
  · rcases (c.since e).popDue_cases limit with ⟨t, d, first, -, -⟩ | ⟨d, -, popped, -⟩
    · rw [same, nothing] at first
      cases first
    · rw [popped]

/-- A pop that answers nothing takes out every timer that is due. -/
theorem pending_of_drained (drained : c.popDue limit = (none, d)) :
    d.pending = c.pending.filter fun t => limit < t.deadline := by
  fun_induction popDue c limit with
  | case1 c nothing =>
    cases drained
    refine (List.filter_eq_self.mpr fun t mem => ?_).symm
    exact decide_eq_true (Timer.earliestDue_eq_none_iff.mp nothing t mem)
  | case2 => cases drained
  | case3 c t found stale ih =>
    have due := Timer.deadline_le_of_earliestDue found
    rw [ih drained, take, ← List.erase_filter]
    refine List.erase_of_not_mem fun mem => ?_
    have beyond := of_decide_eq_true (List.mem_filter.mp mem).2
    omega

/-- A pop that answers nothing moves the clock to the last deadline that is due. -/
theorem now_le_iff_of_drained (drained : c.popDue limit = (none, d)) {tick : Nat} :
    d.now ≤ tick ↔ c.now ≤ tick ∧ ∀ t ∈ c.pending, t.deadline ≤ limit → t.deadline ≤ tick := by
  fun_induction popDue c limit with
  | case1 c nothing =>
    cases drained
    refine (and_iff_left fun t mem due => ?_).symm
    have beyond := Timer.earliestDue_eq_none_iff.mp nothing t mem
    omega
  | case2 => cases drained
  | case3 c t found stale ih =>
    have moved : (c.take t).now ≤ tick ↔ c.now ≤ tick ∧ t.deadline ≤ tick := Nat.max_le
    rw [ih drained, moved]
    constructor
    · rintro ⟨⟨now, first⟩, rest⟩
      refine ⟨now, fun u mem due => ?_⟩
      by_cases same : u = t
      · exact same ▸ first
      · exact rest u ((List.mem_erase_of_ne same).mpr mem) due
    · rintro ⟨now, all⟩
      have due := Timer.deadline_le_of_earliestDue found
      exact ⟨⟨now, all t (Timer.mem_of_earliestDue found) due⟩,
        fun u mem => all u (List.mem_of_mem_erase mem)⟩

/-- A pop that answers nothing and drops a timer armed before epoch `e`, from beyond the tick where the
clock without such timers is left. -/
def Overruns (c : Clock ε) (e limit : Nat) : Prop :=
  (c.popDue limit).1 = none ∧
    ∃ t ∈ c.pending, t.epoch < e ∧ t.deadline ≤ limit ∧
      ((c.since e).popDue limit).2.now < t.deadline

/-- A clock that overruns is left at a later tick. -/
theorem Overruns.now_lt (overruns : c.Overruns e limit) :
    ((c.since e).popDue limit).2.now < (c.popDue limit).2.now := by
  obtain ⟨nothing, t, mem, -, due, beyond⟩ := overruns
  have drained : c.popDue limit = (none, (c.popDue limit).2) := Prod.ext nothing rfl
  have reached := ((now_le_iff_of_drained drained).mp (Nat.le_refl _)).2 t mem due
  omega

/-- **A pop that does not overrun** answers the same without the old timers, and leaves the same. -/
theorem popDue_since (kept : e ≤ c.epoch) (calm : ¬ c.Overruns e limit) :
    (c.since e).popDue limit = ((c.popDue limit).1, (c.popDue limit).2.since e) := by
  cases popped : c.popDue limit with
  | mk answer d =>
    cases answer with
    | some event => exact popDue_since_some kept popped
    | none =>
      have nothing : (c.popDue limit).1 = none := congrArg Prod.fst popped
      obtain ⟨d', drained⟩ : ∃ d', (c.since e).popDue limit = (none, d') :=
        ⟨_, Prod.ext (popDue_since_none kept nothing) rfl⟩
      have left := (now_le_iff_of_drained drained).mp (Nat.le_refl _)
      have now : d.now = d'.now := by
        refine Nat.le_antisymm ?_ ?_
        · refine (now_le_iff_of_drained popped).mpr ⟨left.1, fun t mem due => ?_⟩
          by_cases old : t.epoch < e
          · refine Nat.le_of_not_lt fun beyond => calm ⟨nothing, t, mem, old, due, ?_⟩
            rw [drained]
            exact beyond
          · exact left.2 t (List.mem_filter.mpr ⟨mem, decide_eq_true (Nat.le_of_not_lt old)⟩) due
        · have reached := (now_le_iff_of_drained popped).mp (Nat.le_refl _)
          exact (now_le_iff_of_drained drained).mpr
            ⟨reached.1, fun t mem => reached.2 t (List.mem_filter.mp mem).1⟩
      have queue : (d.since e).pending = d'.pending := by
        show d.pending.filter _ = _
        rw [pending_of_drained popped, pending_of_drained drained, since, List.filter_filter,
          List.filter_filter]
        exact List.filter_congr fun t _ => Bool.and_comm ..
      have epoch : d.epoch = d'.epoch := by
        have left := c.popDue_epoch limit
        have right := (c.since e).popDue_epoch limit
        rw [popped] at left
        rw [drained] at right
        exact left.trans right.symm
      rw [drained]
      refine congrArg (Prod.mk none) ?_
      show d' = ⟨d.now, d.epoch, (d.since e).pending⟩
      rw [now, queue, epoch]

/-! ## Runs without the old timers -/

/-- **An operation** that is no such pop answers the same without the old timers, and leaves the
same. -/
theorem perform_since (kept : e ≤ c.epoch) (op : Operation ε)
    (calm : ∀ limit, op = .popDue limit → ¬ c.Overruns e limit) :
    (c.since e).perform op = ((c.perform op).1, (c.perform op).2.since e) := by
  cases op with
  | arm delay event => exact congrArg (Prod.mk _) (since_arm kept delay event).symm
  | popDue limit =>
    unfold perform
    dsimp only
    rw [popDue_since kept (calm limit rfl)]
  | advanceTo tick => rfl
  | isPending event =>
    unfold perform
    dsimp only
    rw [isPending_since kept]
  | openEpoch => rfl

/-- **Without its old timers** a clock answers every operation of a run alike, and stands at the same
tick after it, exactly if no pop of the run overruns. -/
theorem trace_since_iff (kept : e ≤ c.epoch) (ops : List (Operation ε)) :
    c.trace ops = (c.since e).trace ops ↔
      ∀ earlier limit later, ops = earlier ++ .popDue limit :: later →
        ¬ (c.run earlier).Overruns e limit := by
  induction ops generalizing c with
  | nil => simp [trace]
  | cons op ops ih =>
    by_cases calm : ∀ limit, op = .popDue limit → ¬ c.Overruns e limit
    · have next := ih (Nat.le_trans kept (c.epoch_le_perform op))
      have rest : c.trace (op :: ops) = (c.since e).trace (op :: ops) ↔
          (c.perform op).2.trace ops = ((c.perform op).2.since e).trace ops := by
        rw [trace, trace, perform_since kept op calm]
        exact ⟨fun same => (List.cons.inj same).2, fun same => congrArg (List.cons _) same⟩
      rw [rest, next]
      constructor
      · intro later earlier limit behind split
        cases earlier with
        | nil => exact calm limit (List.cons.inj split).1
        | cons first earlier =>
          obtain ⟨rfl, rest⟩ := List.cons.inj split
          exact later earlier limit behind rest
      · intro all earlier limit behind split
        exact all (op :: earlier) limit behind (congrArg (List.cons op) split)
    · obtain ⟨limit, rfl, overruns⟩ : ∃ limit, op = .popDue limit ∧ c.Overruns e limit := by
        simpa using calm
      constructor
      · intro same
        have now := congrArg Prod.snd (List.cons.inj same).1
        exact absurd now (Nat.ne_of_gt overruns.now_lt)
      · intro all
        exact absurd overruns (all [] limit ops rfl)

/-- **A new epoch forgets what was armed before it** but for the ticks to which its timers move the
clock. Whatever a clock has been used for, after opening an epoch it answers every run of operations
like a clock at the same tick with an empty queue, and stands at the same tick after each of them,
exactly if no pop of the run that answers nothing drops one of the timers armed before, from beyond the
tick where the clock without them is left. -/
theorem trace_openEpoch_iff (before ops : List (Operation ε)) :
    (start.run before).openEpoch.trace ops = (start.run before).openEpoch.emptied.trace ops ↔
      ∀ earlier limit later, ops = earlier ++ .popDue limit :: later →
        ¬ ((start.run before).openEpoch.run earlier).Overruns
          (start.run before).openEpoch.epoch limit := by
  have past := past_run (c := (start : Clock ε)) (fun _ mem => nomatch mem) before
  rw [← since_openEpoch_eq past]
  exact trace_since_iff (Nat.le_refl _) ops

/-- A timer armed for tick 10 and forgotten moves the clock there, when a pop by tick 20 drops it and
answers nothing. -/
theorem droppedTimer_moves_clock :
    ¬ ∀ before ops : List (Operation Deferred),
      (start.run before).openEpoch.trace ops = (start.run before).openEpoch.emptied.trace ops := by
  intro same
  have answers := same [.arm 10 .alive] [.popDue 20]
  revert answers
  decide +kernel

end Clock

end WlanCard
