import WlanCard.Proofs.Chip.History
import WlanCard.Proofs.HostInterface.Access

/-!
# Deferred work in the history of a target

Every happening other than a reset or the passing of time puts off the work that `Target.armed` tells,
and leaves the rest of the clock alone (`undergo_clock`). For the grants of credits and the
announcement of the firmware that decides everything, since no work that comes due puts them off
again: they are done at the deadline of their live timer, in the moment that reaches it, once
(`Moment.arming`, `Moment.awaited`, `Moment.reached`, `Moment.idle`). Counter updates are another matter;
grants put them off, too.

`Passes.idle` and `Passes.awaited` follow one event through any number of moments without a reset;
`Passes.ticksOf_awaited` tells from them when work is done that has been put off once.
-/

namespace WlanCard

variable {limit due : Nat} {event : Deferred}

namespace Target

variable {t u : Target} {config : Config}

/-! ## What happenings put off -/

/-- The events that a happening puts off. -/
def armed (t : Target) : Happening → List Deferred
  | .write address value =>
    let answer := t.host.write address value
    match answer.1 with
    | some (.messageComplete m _) =>
      (if (answer.2.dropCredits m).1 then [.counterUpdate] else []) ++ [.creditGrant m]
    | some (.wlanInterrupt value) => if t.handsOver value then [.alive] else []
    | none => []
  | _ => []

/-- The grant of credits is put off by completed messages only. -/
theorem mem_armed_creditGrant {m : MailboxNumber} {h : Happening} :
    .creditGrant m ∈ t.armed h ↔ h.Completes m := by
  cases h with
  | write address value =>
    rw [Happening.completes_write_iff, ← t.host.write_completes_iff address value]
    unfold armed
    dsimp only
    split
    next n length answer =>
      rw [answer]
      have unlike : ∀ news : Bool, Deferred.creditGrant m ∉
          (if news then [Deferred.counterUpdate] else []) := by
        intro news
        cases news <;> simp
      constructor
      · intro mem
        rcases List.mem_append.mp mem with update | grant
        · exact absurd update (unlike _)
        · cases List.mem_singleton.mp grant
          exact ⟨length, rfl⟩
      · rintro ⟨_, same⟩
        cases same
        exact List.mem_append_right _ List.mem_cons_self
    next written answer =>
      rw [answer]
      split <;> simp
    next answer =>
      rw [answer]
      simp
  | _ =>
    constructor
    · intro mem
      cases mem
    · rintro ⟨_, _, same, -⟩
      cases same

/-- The announcement is put off by the first firmware interrupt only. -/
theorem mem_armed_alive {h : Happening} :
    .alive ∈ t.armed h ↔ h.InterruptsFirmware ∧ t.firmware = none := by
  cases h with
  | write address value =>
    have interrupts : address.toNat = HostRegister.wlanInterrupt.address ↔
        (t.host.write address value).1 = some (.wlanInterrupt value) := by
      rw [HostInterface.write_interrupts_iff, eq_self_iff_true, true_and]
    rw [Happening.interruptsFirmware_write_iff, interrupts]
    unfold armed
    dsimp only
    split
    next n length answer =>
      rw [answer]
      split <;> simp
    next written answer =>
      obtain ⟨rfl, -⟩ := (t.host.write_interrupts_iff address value).mp answer
      rw [answer]
      unfold handsOver
      simp
    next answer =>
      rw [answer]
      simp
  | _ =>
    constructor
    · intro mem
      cases mem
    · rintro ⟨⟨_, _, _, same, -⟩, -⟩
      cases same

/-- **What a register write leads to**, once the register is written: the message is acted on, the
firmware takes over, or nothing more comes of it. -/
theorem writeByte_cases (t : Target) (address : UInt32) (value : UInt8) :
    let written : Target := { t with host := (t.host.write address value).2 }
    (∃ m length, t.writeByte address value = written.completeMessage m length ∧
      t.armed (.write address value) =
        (if (written.host.dropCredits m).1 then [.counterUpdate] else []) ++ [.creditGrant m]) ∨
    (t.writeByte address value = written.handOver ∧ t.armed (.write address value) = [.alive]) ∨
    (t.writeByte address value = written ∧ t.armed (.write address value) = []) := by
  unfold writeByte armed
  dsimp only
  cases answer : (t.host.write address value).1 with
  | none => exact .inr (.inr ⟨rfl, rfl⟩)
  | some event =>
    cases event with
    | messageComplete m length => exact .inl ⟨m, length, rfl, rfl⟩
    | wlanInterrupt written =>
      unfold handle
      dsimp only
      by_cases hands : t.handsOver written = true
      · exact .inr (.inl ⟨if_pos hands, if_pos hands⟩)
      · exact .inr (.inr ⟨if_neg hands, if_neg hands⟩)

/-! ## What happenings do to the clock -/

/-- A message concerns whom it is handed to and the mailbox that it came in. -/
theorem routeMessage_eq (t : Target) (m : MailboxNumber) (length : Nat) :
    t.routeMessage m length =
      { t with
        host := (t.routeMessage m length).host
        boot := (t.routeMessage m length).boot
        firmware := (t.routeMessage m length).firmware } := by
  unfold routeMessage
  split
  · split <;> rfl
  · rfl

/-- Of the host interface a message that is handed on concerns the control mailbox alone. -/
theorem routeMessage_host (t : Target) (m : MailboxNumber) (length : Nat) :
    (t.routeMessage m length).host = t.host ∨
      ∃ w, (t.routeMessage m length).host = t.host.setWindow .control w ∨
        ∃ count, (t.routeMessage m length).host =
          (t.host.setWindow .control w).setAvailable .control count := by
  unfold routeMessage
  split
  · split
    · exact .inl rfl
    · refine .inr ⟨(t.boot.handle (t.host.mailbox .control).window length).window, ?_⟩
      unfold bootMessage
      dsimp only
      split
      next count _ => exact .inr ⟨count, rfl⟩
      next => exact .inl rfl
  · exact .inl rfl

theorem completeMessage_host (t : Target) (m : MailboxNumber) (length : Nat) :
    (t.completeMessage m length).host =
      ((t.settleCredits (t.host.dropCredits m)).routeMessage m length).host := rfl

theorem completeMessage_config (t : Target) (m : MailboxNumber) (length : Nat) :
    (t.completeMessage m length).config = t.config := by
  unfold completeMessage
  rw [routeMessage_eq, settleCredits_eq]

theorem completeMessage_clock (t : Target) (m : MailboxNumber) (length : Nat) :
    (t.completeMessage m length).clock = t.clock.armAll (Deferred.delay t.config)
      ((if (t.host.dropCredits m).1 then [.counterUpdate] else []) ++ [.creditGrant m]) := by
  unfold completeMessage
  rw [routeMessage_eq, settleCredits_eq, Clock.armAll_append]
  rfl

/-- **Anything but a reset and the passing of time** puts off what `armed` tells, and nothing else
happens to the clock. -/
theorem undergo_clock {h : Happening} (still : h ≠ .reset ∧ h.Still) :
    (t.undergo h).clock = t.clock.armAll (Deferred.delay t.config) (t.armed h) := by
  cases h with
  | reset => exact absurd rfl still.1
  | advance ticks => exact absurd rfl (still.2 ticks)
  | read address | raiseCpu bits | raiseError bits => rfl
  | write address value =>
    show (t.writeByte address value).clock = _
    rcases t.writeByte_cases address value with ⟨m, length, led, armed⟩ | ⟨led, armed⟩ | ⟨led, armed⟩
    · rw [led, armed]
      exact completeMessage_clock ..
    · rw [led, armed]
      rfl
    · rw [led, armed]
      rfl

theorem drain_config (t : Target) (limit : Nat) : (t.drain limit).2.config = t.config :=
  apply_drain Target.config (fun _ _ => rfl) fire_config t limit

theorem undergo_config (t : Target) (h : Happening) : (t.undergo h).config = t.config := by
  cases h with
  | reset | read address | raiseCpu bits | raiseError bits => rfl
  | advance ticks => exact drain_config ..
  | write address value =>
    show (t.writeByte address value).config = _
    rcases t.writeByte_cases address value with ⟨m, length, led, -⟩ | ⟨led, -⟩ | ⟨led, -⟩
    · rw [led]
      exact completeMessage_config ..
    · rw [led]
      rfl
    · rw [led]

/-- A target with a given configuration, whose clock is one that operations lead to. -/
structure Sound (config : Config) (t : Target) : Prop where
  config : t.config = config
  clock : t.clock.Sound

theorem Sound.undergo (sound : t.Sound config) (h : Happening) : (t.undergo h).Sound config where
  config := (undergo_config t h).trans sound.config
  clock := by
    by_cases reset : h = .reset
    · rw [reset]
      exact sound.clock.openEpoch
    · rcases h.still_or_advance with still | ⟨ticks, rfl⟩
      · rw [undergo_clock ⟨reset, still⟩]
        exact sound.clock.armAll ..
      · exact sound_doneBy (Clock.tickAfter_le ..) sound.clock

/-! ## Time going by -/

theorem drain_epoch (t : Target) (limit : Nat) :
    (t.drain limit).2.clock.epoch = t.clock.epoch := by
  refine (drain_keeps (fun u => u.clock.epoch = t.clock.epoch)
    (fun _ _ same popped => (popDue_epoch popped).trans same) ?_ rfl).1
  intro s event u same popped
  rw [fire_clock, Clock.armAll_epoch, popDue_epoch popped, same]

/-- **Work is done at the deadline of its live timer**, if that is reached; else the timer stays. -/
theorem live_drain (unarmed : event ≠ .counterUpdate) (within : limit ≤ Clock.lastTick)
    (sound : t.clock.Sound) :
    Firing.ticksOf event (t.drain limit).1 =
        ((t.clock.live event).filter (·.deadline ≤ limit)).map (·.deadline) ∧
      (t.drain limit).2.clock.live event = (t.clock.live event).filter (limit < ·.deadline) := by
  induction t using drain.induct limit with
  | case1 t u popped =>
    obtain ⟨kept, beyond⟩ := Clock.popDue_none (popDue_eq_iff.mp popped).1
    have late : ∀ timer ∈ t.clock.live event, limit < timer.deadline := by
      intro timer mem
      rw [← kept] at mem
      exact beyond timer (Clock.mem_live.mp mem).1
    rw [drain_of_none popped]
    dsimp only
    rw [kept, List.filter_eq_self.mpr (fun timer mem => decide_eq_true (late timer mem)),
      List.filter_eq_nil_iff.mpr]
    · exact ⟨rfl, rfl⟩
    · intro timer mem early
      have := late timer mem
      have := of_decide_eq_true early
      omega
  | case2 t first u popped ih =>
    obtain ⟨timer, early, left⟩ := sound.popDue_some within (popDue_eq_iff.mp popped).1
    obtain ⟨ticks, rest⟩ := ih (sound_fire within sound popped)
    rw [live_fire unarmed, left event] at ticks rest
    rw [drain_of_some popped, Firing.ticksOf_cons]
    dsimp only
    rw [ticks, rest]
    by_cases here : first = event
    · subst here
      rw [timer, if_pos rfl]
      simp [early, Firing.tick]
    · rw [if_neg here, if_neg (Ne.symm here)]
      exact ⟨rfl, rfl⟩

/-- An event has a live timer, and it has the given deadline. -/
def Awaits (t : Target) (event : Deferred) (due : Nat) : Prop :=
  t.clock.live event = [⟨due, t.clock.epoch, event⟩]

end Target

namespace Moment

/-- The events that the happening of a moment puts off. -/
def armed (m : Moment) : List Deferred :=
  m.before.armed m.happening

/-- Time goes by in a moment, up to a given tick at least. -/
def Reaches (due : Nat) (m : Moment) : Prop :=
  (∃ ticks, m.happening = .advance ticks) ∧ due ≤ m.after.clock.now

variable {m : Moment}

theorem after_epoch (noReset : m.happening ≠ .reset) :
    m.after.clock.epoch = m.before.clock.epoch := by
  unfold after
  rcases m.happening.still_or_advance with still | ⟨ticks, passing⟩
  · rw [Target.undergo_clock ⟨noReset, still⟩]
    exact Clock.armAll_epoch ..
  · rw [passing]
    exact Target.drain_epoch ..

theorem ticksOf_of_still (event : Deferred) (still : m.happening.Still) :
    m.ticksOf event = [] := by
  unfold ticksOf firings
  split
  next ticks passing => exact absurd passing (still ticks)
  · rfl

theorem live_of_still (event : Deferred)
    (still : m.happening ≠ .reset ∧ m.happening.Still) :
    m.after.clock.live event = if event ∈ m.armed then
      [⟨Clock.tickAfter m.tick (event.delay m.before.config), m.before.clock.epoch, event⟩]
      else m.before.clock.live event := by
  unfold after
  rw [Target.undergo_clock still, Clock.live_armAll]
  rfl

theorem now_of_passing (sound : m.before.clock.Sound) {ticks : Nat}
    (passing : m.happening = .advance ticks) :
    m.after.clock.now = Clock.tickAfter m.tick ticks := by
  unfold after
  rw [passing]
  exact (Target.doneBy_now ..).trans (Nat.max_eq_right (Clock.le_tickAfter sound.within ticks))

theorem live_of_passing (unarmed : event ≠ .counterUpdate) (sound : m.before.clock.Sound)
    {ticks : Nat} (passing : m.happening = .advance ticks) :
    m.ticksOf event =
        ((m.before.clock.live event).filter (·.deadline ≤ m.after.clock.now)).map (·.deadline) ∧
      m.after.clock.live event =
        (m.before.clock.live event).filter (m.after.clock.now < ·.deadline) := by
  have law := Target.live_drain unarmed (Clock.tickAfter_le m.tick ticks) sound
  rw [now_of_passing sound passing]
  unfold ticksOf firings after
  rw [passing]
  exact law

/-- What is put off is put off from now on, whatever was put off before. -/
theorem arming (mem : event ∈ m.armed) :
    m.after.Awaits event (Clock.tickAfter m.tick (event.delay m.before.config)) ∧
      m.ticksOf event = [] := by
  have still : m.happening ≠ .reset ∧ m.happening.Still := by
    unfold armed at mem
    constructor
    · intro reset
      rw [reset] at mem
      cases mem
    · intro ticks passing
      rw [passing] at mem
      cases mem
  refine ⟨?_, ticksOf_of_still event still.2⟩
  unfold Target.Awaits
  rw [live_of_still event still, if_pos mem, after_epoch still.1]

section Quiet

variable (unarmed : event ≠ .counterUpdate) (sound : m.before.clock.Sound)
  (noReset : m.happening ≠ .reset)

include unarmed sound noReset

/-- What is not put off is not done. -/
theorem idle (quiet : event ∉ m.armed) (none : m.before.clock.live event = []) :
    m.after.clock.live event = [] ∧ m.ticksOf event = [] := by
  rcases m.happening.still_or_advance with still | ⟨ticks, passing⟩
  · rw [live_of_still event ⟨noReset, still⟩, if_neg quiet]
    exact ⟨none, ticksOf_of_still event still⟩
  · obtain ⟨done, left⟩ := live_of_passing unarmed sound passing
    rw [done, left, none]
    exact ⟨rfl, rfl⟩

/-- What is put off stays so until its deadline. -/
theorem awaited (quiet : event ∉ m.armed) (awaits : m.before.Awaits event due)
    (unreached : ¬ m.Reaches due) : m.after.Awaits event due ∧ m.ticksOf event = [] := by
  unfold Target.Awaits at awaits ⊢
  rw [after_epoch noReset]
  rcases m.happening.still_or_advance with still | ⟨ticks, passing⟩
  · rw [live_of_still event ⟨noReset, still⟩, if_neg quiet]
    exact ⟨awaits, ticksOf_of_still event still⟩
  · have early : m.after.clock.now < due :=
      Nat.lt_of_not_le fun reached => unreached ⟨⟨ticks, passing⟩, reached⟩
    obtain ⟨done, left⟩ := live_of_passing unarmed sound passing
    rw [done, left, awaits]
    simp [early]

omit noReset in
/-- What is put off is done at its deadline. -/
theorem reached (awaits : m.before.Awaits event due) (reaches : m.Reaches due) :
    m.after.clock.live event = [] ∧ m.ticksOf event = [due] := by
  obtain ⟨⟨ticks, passing⟩, reached⟩ := reaches
  obtain ⟨done, left⟩ := live_of_passing unarmed sound passing
  rw [done, left, awaits]
  simp [reached]

omit noReset in
/-- What has been done is no longer put off. -/
theorem idle_of_done (done : m.ticksOf event ≠ []) : m.after.clock.live event = [] := by
  rcases m.happening.still_or_advance with still | ⟨ticks, passing⟩
  · exact absurd (ticksOf_of_still event still) done
  · obtain ⟨ticks, left⟩ := live_of_passing unarmed sound passing
    rw [ticks] at done
    obtain ⟨timer, mem⟩ := List.exists_mem_of_ne_nil _ (fun none => done (congrArg _ none))
    obtain ⟨mem, early⟩ := List.mem_filter.mp mem
    have early := of_decide_eq_true early
    rw [left, sound.live_eq mem]
    simp [early]

end Quiet

end Moment

/-! ## Many moments -/

namespace Passes

variable {t u : Target} {config : Config} {moments : List Moment}

/-- Every target of a history is one that operations lead to. -/
theorem sound (passes : Passes t moments u) (sound : t.Sound config) :
    u.Sound config ∧ ∀ m ∈ moments, m.before.Sound config :=
  passes.keeps (·.Sound config) (fun m _ sound => sound.undergo m.happening) sound

section Quiet

variable (passes : Passes t moments u) (sound : t.Sound config) (unarmed : event ≠ .counterUpdate)
  (noReset : ∀ m ∈ moments, m.happening ≠ .reset) (quiet : ∀ m ∈ moments, event ∉ m.armed)

include passes sound unarmed noReset quiet

/-- What no moment puts off is not done. -/
theorem idle (none : t.clock.live event = []) :
    u.clock.live event = [] ∧ ∀ m ∈ moments, m.ticksOf event = [] := by
  have sounds := (passes.sound sound).2
  have step : ∀ m ∈ moments, m.before.clock.live event = [] →
      m.after.clock.live event = [] ∧ m.ticksOf event = [] := fun m mem =>
    Moment.idle unarmed (sounds m mem).clock (noReset m mem) (quiet m mem)
  obtain ⟨last, each⟩ := passes.keeps (·.clock.live event = [])
    (fun m mem now => (step m mem now).1) none
  exact ⟨last, fun m mem => (step m mem (each m mem)).2⟩

/-- What has been put off waits for its deadline. -/
theorem awaited (unreached : ∀ m ∈ moments, ¬ m.Reaches due) (awaits : t.Awaits event due) :
    u.Awaits event due ∧ ∀ m ∈ moments, m.after.Awaits event due ∧ m.ticksOf event = [] := by
  have sounds := (passes.sound sound).2
  have step : ∀ m ∈ moments, m.before.Awaits event due →
      m.after.Awaits event due ∧ m.ticksOf event = [] := fun m mem awaits =>
    Moment.awaited unarmed (sounds m mem).clock (noReset m mem) (quiet m mem) awaits
      (unreached m mem)
  obtain ⟨last, each⟩ := passes.keeps (·.Awaits event due)
    (fun m mem awaits => (step m mem awaits).1) awaits
  exact ⟨last, fun m mem => step m mem (each m mem)⟩

end Quiet

/-- **What has been put off once** is done once, at its deadline, if some moment reaches that. -/
theorem ticksOf_awaited (passes : Passes t moments u) (sound : t.Sound config)
    (unarmed : event ≠ .counterUpdate) (noReset : ∀ m ∈ moments, m.happening ≠ .reset)
    (quiet : ∀ m ∈ moments, event ∉ m.armed) (awaits : t.Awaits event due) :
    ((∀ m ∈ moments, ¬ m.Reaches due) → moments.flatMap (Moment.ticksOf event) = []) ∧
      ((∃ m ∈ moments, m.Reaches due) → moments.flatMap (Moment.ticksOf event) = [due]) := by
  refine ⟨fun unreached => ?_, ?_⟩
  · have each := (passes.awaited sound unarmed noReset quiet unreached awaits).2
    exact List.flatMap_eq_nil_iff.mpr fun m mem => (each m mem).2
  · induction passes with
    | nil => simp
    | @cons m rest u later ih =>
      intro reaching
      have next := sound.undergo m.happening
      have behind := fun m mem => noReset m (List.mem_cons_of_mem _ mem)
      have still := fun m mem => quiet m (List.mem_cons_of_mem _ mem)
      rw [List.flatMap_cons]
      by_cases reaches : m.Reaches due
      · obtain ⟨none, done⟩ := Moment.reached unarmed sound.clock awaits reaches
        have each := (later.idle next unarmed behind still none).2
        rw [done, List.flatMap_eq_nil_iff.mpr each]
        rfl
      · have after := Moment.awaited unarmed sound.clock (noReset m List.mem_cons_self)
          (quiet m List.mem_cons_self) awaits reaches
        rw [after.2]
        refine ih next behind still after.1 ?_
        obtain ⟨n, mem, reachesLater⟩ := reaching
        rcases List.mem_cons.mp mem with rfl | mem
        · exact absurd reachesLater reaches
        · exact ⟨n, mem, reachesLater⟩

end Passes

/-! ## From a reset on -/

namespace Target

/-- A target as a reset leaves it: without a firmware, and with nothing put off. -/
structure Fresh (config : Config) (t : Target) : Prop extends t.Sound config where
  unloaded : t.firmware = none
  idle : ∀ event, t.clock.live event = []

theorem Sound.reset {t : Target} {config : Config} (sound : t.Sound config) :
    t.reset.Fresh config where
  config := sound.config
  clock := sound.clock.openEpoch
  unloaded := rfl
  idle := sound.clock.live_openEpoch

theorem sound_powerOn (config : Config) : (powerOn config).Sound config where
  config := rfl
  clock := Clock.sound_start

end Target

namespace Chip

variable {config : Config} {chip : Chip}

theorem fresh_attach (attached : attach config = .ok chip) : chip.target.Fresh config := by
  rw [target_attach attached]
  exact (Target.sound_powerOn config).reset

/-- Every stretch of the history of a chip begins with a fresh target. -/
theorem fresh_of_stretch (attached : attach config = .ok chip) {ops : List Operation}
    {stretch : List Moment} (found : Stretch (chip.history ops) stretch) :
    ∃ t u, Passes t stretch u ∧ t.Fresh config := by
  have fresh := fresh_attach attached
  have passes := passes_run ops chip
  obtain ⟨t, u, within, same | ⟨last, mem, reset⟩⟩ := found.passes passes
  · exact ⟨t, u, within, same ▸ fresh⟩
  · have sound := (passes.sound fresh.toSound).2 last mem
    exact ⟨t, u, within, reset ▸ sound.reset⟩

end Chip

end WlanCard
