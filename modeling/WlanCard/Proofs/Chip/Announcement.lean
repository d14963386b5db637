import WlanCard.Proofs.Chip.Deferral

/-!
# The announcement of the firmware

The first firmware interrupt after a reset hands over to the firmware, which announces itself once,
after its delay. Whether it still has to is told twice: by the firmware itself and by the timer in
the queue. The two never disagree (`Announcing`, kept by `Moment.announcing`), and so the messages
sent are told by the ticks at which the announcement comes due (`Passes.announcing`). With the law of
work put off once, that is `announced_once`.
-/

namespace WlanCard

/-- The ready event of a chip with a given configuration, as it is sent: the number of the event,
least significant byte first, the station address and the capability of the radio. -/
def Config.readyFrame (config : Config) : List UInt8 :=
  [0x01, 0x10] ++ config.station.toList ++ [config.capability]

/-! ## What is sent -/

/-- The messages that a piece of work sends, each with the tick at which the clock stands then. -/
def Firing.messages (f : Firing) : List (Nat × List UInt8) :=
  (f.done.sent.drop f.target.sent.length).map (f.tick, ·)

/-- The messages sent in a moment, each with the tick at which the clock stands then. -/
def Moment.messages (m : Moment) : List (Nat × List UInt8) :=
  match m.happening with
  | .advance _ => m.firings.flatMap Firing.messages
  | _ => (m.after.sent.drop m.before.sent.length).map (m.tick, ·)

/-! ## What is left to announce -/

/-- What of a firmware its announcement depends on: the ready event, and whether it has been sent. -/
def Firmware.notice (f : Firmware) : List UInt8 × Bool :=
  (f.readyMessage, f.announced)

theorem Firmware.notice_receive (f : Firmware) (length : Nat) :
    (f.receive length).notice = f.notice := by
  unfold receive
  split <;> rfl

theorem Firmware.readyMessage_eq (config : Config) :
    readyMessage { station := config.station, capability := config.capability } =
      config.readyFrame := by
  have short : (config.station.toList ++ [config.capability]).length ≤ FirmwareEvent.maxPayload := by
    rw [List.length_append, Vector.length_toList]
    show 6 + 1 ≤ 128
    decide
  have number : Word.littleEndian FirmwareEvent.idLength FirmwareEvent.ready.id.toBitVec =
      [0x01, 0x10] := by decide
  unfold readyMessage FirmwareEvent.message Config.readyFrame
  rw [List.take_of_length_le short, number, List.append_assoc]

namespace Target

variable {t u : Target} {config : Config} {limit : Nat} {event : Deferred}

/-- What of the firmware of a target its announcement depends on. -/
def notice (t : Target) : Option (List UInt8 × Bool) :=
  t.firmware.map Firmware.notice

theorem notice_eq_none_iff : t.notice = none ↔ t.firmware = none :=
  Option.map_eq_none_iff

/-- How far a target is on the way to its announcement. -/
inductive Announcing (config : Config) (t : Target) : Prop where
  /-- There is no firmware yet. -/
  | dormant (unloaded : t.notice = none) (idle : t.clock.live .alive = [])
  /-- The firmware has taken over, and its announcement is put off. -/
  | handedOver (due : Nat) (silent : t.notice = some (config.readyFrame, false))
    (awaits : t.Awaits .alive due)
  /-- The firmware has announced itself. -/
  | announced (told : t.notice = some (config.readyFrame, true)) (idle : t.clock.live .alive = [])

theorem Fresh.announcing (fresh : t.Fresh config) : t.Announcing config :=
  .dormant (notice_eq_none_iff.mpr fresh.unloaded) (fresh.idle .alive)

/-! ## Anything but the passing of time -/

theorem routeMessage_notice (t : Target) (m : MailboxNumber) (length : Nat) :
    (t.routeMessage m length).notice = t.notice := by
  unfold routeMessage
  split
  · split
    · have same : Firmware.notice ∘ (·.receive length) = Firmware.notice :=
        funext fun f => f.notice_receive length
      show (t.firmware.map (·.receive length)).map Firmware.notice = _
      rw [Option.map_map, same]
      rfl
    · rfl
  · rfl

theorem completeMessage_notice (t : Target) (m : MailboxNumber) (length : Nat) :
    (t.completeMessage m length).notice = t.notice := by
  refine (routeMessage_notice ..).trans ?_
  rw [settleCredits_eq]
  rfl

theorem completeMessage_sent (t : Target) (m : MailboxNumber) (length : Nat) :
    (t.completeMessage m length).sent = t.sent := by
  unfold completeMessage
  rw [routeMessage_eq, settleCredits_eq]

/-- Only the passing of time sends anything. -/
theorem undergo_sent {h : Happening} (still : h.Still) :
    (t.undergo h).sent = t.sent := by
  cases h with
  | reset | read address | raiseCpu bits | raiseError bits => rfl
  | advance ticks => exact absurd rfl (still ticks)
  | write address value =>
    show (t.writeByte address value).sent = _
    rcases t.writeByte_cases address value with ⟨m, length, led, -⟩ | ⟨led, -⟩ | ⟨led, -⟩
    · rw [led]
      exact completeMessage_sent ..
    · rw [led]
      rfl
    · rw [led]

/-- The firmware takes over when its announcement is put off, and at no other time. -/
theorem undergo_notice {h : Happening} (still : h ≠ .reset ∧ h.Still) :
    (t.undergo h).notice =
      if .alive ∈ t.armed h then some (t.config.readyFrame, false) else t.notice := by
  cases h with
  | reset => exact absurd rfl still.1
  | advance ticks => exact absurd rfl (still.2 ticks)
  | read address | raiseCpu bits | raiseError bits => rfl
  | write address value =>
    show (t.writeByte address value).notice = _
    rcases t.writeByte_cases address value with ⟨m, length, led, armed⟩ | ⟨led, armed⟩ | ⟨led, armed⟩
    · have unlike : .alive ∉ t.armed (.write address value) := by
        rw [armed]
        split <;> simp
      rw [led, if_neg unlike]
      exact completeMessage_notice ..
    · rw [led, armed, if_pos List.mem_cons_self, ← Firmware.readyMessage_eq]
      rfl
    · rw [led, armed, if_neg List.not_mem_nil]
      rfl

/-! ## The passing of time -/

/-- A firmware that has not announced itself does so. -/
theorem announce_of_silent {frame : List UInt8} (silent : t.notice = some (frame, false)) :
    t.announce.notice = some (frame, true) ∧ t.announce.sent = t.sent ++ [frame] := by
  obtain ⟨f, loaded, same⟩ := Option.map_eq_some_iff.mp silent
  obtain ⟨message, unannounced⟩ := Prod.mk.inj same
  have answer : f.announce = (some frame, { f with announced := true }) := by
    unfold Firmware.announce
    rw [unannounced, ← message]
    rfl
  unfold announce
  rw [loaded]
  dsimp only
  rw [answer]
  exact ⟨congrArg some (Prod.ext message rfl), rfl⟩

/-- Other work leaves the firmware alone and sends nothing. -/
theorem fire_other (other : event ≠ .alive) :
    (t.fire event).firmware = t.firmware ∧ (t.fire event).sent = t.sent := by
  cases event with
  | counterUpdate => exact ⟨rfl, rfl⟩
  | creditGrant m =>
    show (t.settleCredits _).firmware = _ ∧ (t.settleCredits _).sent = _
    rw [settleCredits_eq]
    exact ⟨rfl, rfl⟩
  | alive => exact absurd rfl other

/-- Work neither loads a firmware nor takes one away. -/
theorem fire_unloaded_iff (t : Target) (event : Deferred) :
    (t.fire event).firmware = none ↔ t.firmware = none := by
  by_cases announcing : event = .alive
  · rw [announcing]
    show t.announce.firmware = none ↔ _
    unfold announce
    split
    · exact Iff.rfl
    next f loaded =>
      rw [loaded]
      dsimp only
      split <;> simp [loaded]
  · rw [(fire_other announcing).1]

theorem drain_unloaded_iff (t : Target) (limit : Nat) :
    (t.drain limit).2.firmware = none ↔ t.firmware = none := by
  refine (drain_keeps (fun s => s.firmware = none ↔ t.firmware = none) ?_ ?_ Iff.rfl).1
  · intro s u kept popped
    rw [popDue_firmware popped]
    exact kept
  · intro s event u kept popped
    rw [fire_unloaded_iff, popDue_firmware popped]
    exact kept

/-- **Only a firmware interrupt** hands over to the firmware, and only a reset takes it away. -/
theorem undergo_unloaded_iff {h : Happening} (noReset : h ≠ .reset) :
    (t.undergo h).firmware = none ↔ t.firmware = none ∧ ¬ h.InterruptsFirmware := by
  rcases h.still_or_advance with still | ⟨ticks, rfl⟩
  · rw [← notice_eq_none_iff, ← notice_eq_none_iff, undergo_notice ⟨noReset, still⟩]
    by_cases handed : .alive ∈ t.armed h
    · rw [if_pos handed]
      simp [(mem_armed_alive.mp handed).1]
    · rw [if_neg handed, notice_eq_none_iff]
      exact ⟨fun none => ⟨none, fun interrupts => handed (mem_armed_alive.mpr ⟨interrupts, none⟩)⟩,
        And.left⟩
  · have silent : ¬ (Happening.advance ticks).InterruptsFirmware := by
      rintro ⟨_, _, _, same, -⟩
      cases same
    rw [and_iff_left silent]
    exact drain_unloaded_iff ..

theorem Announcing.congr (announcing : t.Announcing config) (notice : u.notice = t.notice)
    (live : u.clock.live .alive = t.clock.live .alive) (epoch : u.clock.epoch = t.clock.epoch) :
    u.Announcing config := by
  cases announcing with
  | dormant unloaded idle => exact .dormant (notice.trans unloaded) (live.trans idle)
  | handedOver due silent awaits =>
    refine .handedOver due (notice.trans silent) ?_
    unfold Awaits at awaits ⊢
    rw [live, awaits, epoch]
  | announced told idle => exact .announced (notice.trans told) (live.trans idle)

/-- **One piece of work**: the announcement sends the ready event, other work sends nothing. -/
theorem Announcing.fire (within : limit ≤ Clock.lastTick) (sound : t.clock.Sound)
    (announcing : t.Announcing config) (popped : t.popDue limit = (some event, u)) :
    (u.fire event).Announcing config ∧
      Firing.messages ⟨event, u⟩ =
        (if event = .alive then [(u.clock.now, config.readyFrame)] else []) ∧
      (u.fire event).sent = t.sent ++ (Firing.messages ⟨event, u⟩).map (·.2) := by
  obtain ⟨timer, -, left⟩ := sound.popDue_some within (popDue_eq_iff.mp popped).1
  have live := (live_fire (by decide) u event).trans (left .alive)
  have notice : u.notice = t.notice := congrArg (Option.map _) (popDue_firmware popped)
  have sent : u.sent = t.sent := congrArg (·.sent) (eq_of_popDue popped)
  unfold Firing.messages Firing.done
  dsimp only
  by_cases alive : event = .alive
  · subst alive
    rw [if_pos rfl] at live
    cases announcing with
    | dormant _ idle | announced _ idle =>
      rw [idle] at timer
      cases timer
    | handedOver due silent awaits =>
      obtain ⟨told, message⟩ := announce_of_silent (notice.trans silent)
      have more : (u.fire .alive).sent = u.sent ++ [config.readyFrame] := message
      rw [more, List.drop_left, sent]
      exact ⟨.announced told live, rfl, rfl⟩
  · obtain ⟨firmware, nothing⟩ := fire_other (t := u) alive
    rw [nothing, List.drop_length, sent, if_neg alive]
    rw [if_neg (Ne.symm alive)] at live
    refine ⟨announcing.congr ?_ live ?_, rfl, (List.append_nil _).symm⟩
    · exact (congrArg (Option.map _) firmware).trans notice
    · rw [fire_clock, Clock.armAll_epoch, popDue_epoch popped]

/-- All work due by a tick. -/
theorem Announcing.drain (within : limit ≤ Clock.lastTick) (sound : t.clock.Sound)
    (announcing : t.Announcing config) :
    (t.drain limit).2.Announcing config ∧
      (t.drain limit).1.flatMap Firing.messages =
        (Firing.ticksOf .alive (t.drain limit).1).map (·, config.readyFrame) ∧
      (t.drain limit).2.sent =
        t.sent ++ ((t.drain limit).1.flatMap Firing.messages).map (·.2) := by
  induction t using drain.induct limit with
  | case1 t u popped =>
    have left := Clock.popDue_none (popDue_eq_iff.mp popped).1
    have epoch := popDue_epoch popped
    rw [drain_of_none popped, eq_of_popDue popped]
    exact ⟨announcing.congr rfl (left.1 .alive) epoch, rfl, (List.append_nil _).symm⟩
  | case2 t event u popped ih =>
    obtain ⟨next, messages, sent⟩ := announcing.fire within sound popped
    obtain ⟨last, rest, all⟩ := ih (sound_fire within sound popped) next
    rw [drain_of_some popped, Firing.ticksOf_cons]
    dsimp only
    refine ⟨last, ?_, ?_⟩
    · rw [List.flatMap_cons, messages, rest, List.map_append]
      split <;> rfl
    · rw [all, sent, List.flatMap_cons, List.map_append, List.append_assoc]

end Target

/-! ## Moments -/

namespace Moment

variable {m : Moment} {config : Config}

theorem alive_mem_armed : .alive ∈ m.armed ↔
    m.happening.InterruptsFirmware ∧ m.before.firmware = none :=
  Target.mem_armed_alive

/-- While time stands still nothing is sent. -/
theorem messages_of_still (still : m.happening.Still) : m.messages = [] := by
  have sent : m.after.sent = m.before.sent := Target.undergo_sent still
  unfold messages
  split
  next ticks passing => exact absurd passing (still ticks)
  · rw [sent, List.drop_length]
    rfl

/-- While time stands still, a handover tells both the firmware and the timer, and a reset neither. -/
theorem announcing_of_still (still : m.happening.Still) (sound : m.before.Sound config)
    (announcing : m.before.Announcing config) : m.after.Announcing config := by
  by_cases reset : m.happening = .reset
  · unfold after
    rw [reset]
    exact .dormant rfl (sound.clock.live_openEpoch .alive)
  · have notice : m.after.notice =
        if .alive ∈ m.armed then some (m.before.config.readyFrame, false) else m.before.notice :=
      Target.undergo_notice ⟨reset, still⟩
    by_cases handed : .alive ∈ m.armed
    · rw [if_pos handed, sound.config] at notice
      exact .handedOver _ notice (arming handed).1
    · have live := live_of_still .alive ⟨reset, still⟩
      rw [if_neg handed] at notice live
      exact announcing.congr notice live (after_epoch reset)

/-- **One moment**: firmware and timer still agree after it, and it sends the ready event whenever the
announcement comes due in it. -/
theorem announcing (sound : m.before.Sound config) (announcing : m.before.Announcing config) :
    m.after.Announcing config ∧
      m.messages = (m.ticksOf .alive).map (·, config.readyFrame) ∧
      m.after.sent = m.before.sent ++ m.messages.map (·.2) := by
  rcases m.happening.still_or_advance with still | ⟨ticks, passing⟩
  · refine ⟨announcing_of_still still sound announcing, ?_, ?_⟩
    · rw [messages_of_still still, ticksOf_of_still _ still]
      rfl
    · rw [messages_of_still still]
      exact (Target.undergo_sent still).trans (List.append_nil _).symm
  · have law := announcing.drain (Clock.tickAfter_le m.tick ticks) sound.clock
    unfold messages ticksOf firings after
    rw [passing]
    exact ⟨law.1.congr rfl rfl rfl, law.2⟩

end Moment

namespace Passes

variable {t u : Target} {config : Config} {moments : List Moment}

/-- Firmware and timer agree all along, and what is sent is what the moments send. -/
theorem announcing (passes : Passes t moments u) (sound : t.Sound config)
    (announcing : t.Announcing config) :
    moments.flatMap Moment.messages =
        (moments.flatMap (Moment.ticksOf .alive)).map (·, config.readyFrame) ∧
      u.sent = t.sent ++ (moments.flatMap Moment.messages).map (·.2) := by
  induction passes with
  | nil t => exact ⟨rfl, (List.append_nil _).symm⟩
  | @cons m rest u later ih =>
    obtain ⟨after, messages, sent⟩ := Moment.announcing sound announcing
    obtain ⟨behind, all⟩ := ih (sound.undergo m.happening) after
    rw [List.flatMap_cons, List.flatMap_cons, List.map_append, List.map_append, all, sent]
    exact ⟨by rw [messages, behind], List.append_assoc ..⟩

/-- With a firmware there is no other handover. -/
theorem alive_notMem_armed (passes : Passes t moments u) (loaded : t.firmware ≠ none)
    (noReset : ∀ m ∈ moments, m.happening ≠ .reset) : ∀ m ∈ moments, .alive ∉ m.armed := by
  have step : ∀ m ∈ moments, m.before.firmware ≠ none → m.after.firmware ≠ none :=
    fun m mem loaded unloaded => loaded ((Target.undergo_unloaded_iff (noReset m mem)).mp unloaded).1
  intro m mem armed
  exact (passes.keeps (·.firmware ≠ none) step loaded).2 m mem (Moment.alive_mem_armed.mp armed).2

/-- Without a firmware interrupt there is no firmware. -/
theorem unloaded (passes : Passes t moments u) (fresh : t.Fresh config)
    (noReset : ∀ m ∈ moments, m.happening ≠ .reset)
    (quiet : ∀ m ∈ moments, ¬ m.happening.InterruptsFirmware) : u.firmware = none :=
  (passes.keeps (·.firmware = none) (fun m mem none =>
    (Target.undergo_unloaded_iff (noReset m mem)).mpr ⟨none, quiet m mem⟩) fresh.unloaded).1

end Passes

namespace Chip

variable {config : Config} {chip : Chip}

/-- **The firmware announces itself once.** What a chip sends in a run is what the moments of its
history send. From one reset to the next, nothing is sent before the host interrupts the firmware; and
after the first such interrupt, one message, the ready event: at the tick `aliveDelay` later, or at the
last tick, as soon as time is advanced to it. Whatever else happens in between, nothing else is ever
sent. -/
theorem announced_once (attached : attach config = .ok chip) (ops : List Operation) :
    (chip.run ops).target.sent = ((chip.history ops).flatMap Moment.messages).map (·.2) ∧
    ∀ stretch, Stretch (chip.history ops) stretch →
      ((∀ m ∈ stretch, ¬ m.happening.InterruptsFirmware) →
        stretch.flatMap Moment.messages = []) ∧
      ∀ quiet first later, stretch = quiet ++ first :: later →
        (∀ m ∈ quiet, ¬ m.happening.InterruptsFirmware) → first.happening.InterruptsFirmware →
        let due := min (first.tick + config.aliveDelay) Clock.lastTick
        ((∀ m ∈ later, ¬ m.Reaches due) → stretch.flatMap Moment.messages = []) ∧
        ((∃ m ∈ later, m.Reaches due) →
          stretch.flatMap Moment.messages = [(due, config.readyFrame)]) := by
  constructor
  · have fresh := fresh_attach attached
    have silent : chip.target.sent = [] := by
      rw [target_attach attached]
      rfl
    have sent := ((passes_run ops chip).announcing fresh.toSound fresh.announcing).2
    rwa [silent, List.nil_append] at sent
  · intro stretch found
    have noReset := found.noReset
    obtain ⟨t, u, passes, fresh⟩ := fresh_of_stretch attached found
    rw [(passes.announcing fresh.toSound fresh.announcing).1]
    have unarmed : ∀ m : Moment, ¬ m.happening.InterruptsFirmware → .alive ∉ m.armed :=
      fun m none armed => none (Moment.alive_mem_armed.mp armed).1
    constructor
    · intro quiet
      have each := (passes.idle fresh.toSound (by decide) noReset
        (fun m mem => unarmed m (quiet m mem)) (fresh.idle .alive)).2
      rw [List.flatMap_eq_nil_iff.mpr each]
      rfl
    · rintro quiet first later rfl none interrupts
      have noReset : (∀ m ∈ quiet, m.happening ≠ .reset) ∧ first.happening ≠ .reset ∧
          ∀ m ∈ later, m.happening ≠ .reset := by
        simpa only [List.forall_mem_append, List.forall_mem_cons] using noReset
      obtain ⟨v, before, behind⟩ := passes.split
      obtain ⟨same, behind⟩ := behind.head
      have unloaded := before.unloaded fresh noReset.1 none
      have sound := (before.sound fresh.toSound).1
      rw [← same] at unloaded sound
      -- Up to the interrupt there is nothing to announce, and after it no other handover.
      have idle := (before.idle fresh.toSound (by decide) noReset.1
        (fun m mem => unarmed m (none m mem)) (fresh.idle .alive)).2
      obtain ⟨awaits, nothing⟩ := Moment.arming (Moment.alive_mem_armed.mpr ⟨interrupts, unloaded⟩)
      have loaded : first.after.firmware ≠ Option.none := fun none =>
        ((Target.undergo_unloaded_iff noReset.2.1).mp none).2 interrupts
      have once := behind.ticksOf_awaited (sound.undergo first.happening) (by decide) noReset.2.2
        (behind.alive_notMem_armed loaded noReset.2.2) awaits
      rw [List.flatMap_append, List.flatMap_cons, List.flatMap_eq_nil_iff.mpr idle, nothing,
        List.nil_append, List.nil_append]
      rw [sound.config] at once
      exact ⟨fun unreached => by rw [once.1 unreached]; rfl,
        fun reached => by rw [once.2 reached]; rfl⟩

/-- The host selects a card, interrupts its firmware, and lets two seconds go by. -/
def loading : List Operation :=
  [.command 5 0x10fe0000, .command 3 0, .command 7 0x45670000, .command 52 0x9008e401,
    .advance 2000000000]

theorem announced_once_loading :
    attach {} = .ok (assemble {}).reset ∧ ((assemble {}).reset.run loading).target.sent =
      [[0x01, 0x10, 0x00, 0x03, 0x7f, 0x00, 0x00, 0x01, 0x03]] := by
  have attached : attach {} = .ok (assemble {}).reset := rfl
  let t := (assemble {}).reset.target
  let first : Moment := ⟨t, .write 0x472 1⟩
  let last : Moment := ⟨first.after, .advance 2000000000⟩
  have course : (assemble {}).reset.course loading = [first.happening, last.happening] := by
    decide +kernel
  have history : (assemble {}).reset.history loading = [first, last] :=
    congrArg t.history course
  have whole : Stretch [first, last] [first, last] :=
    ⟨[], [], rfl, .inl rfl, by simp [first, last]⟩
  have sound : last.before.clock.Sound := ((fresh_attach attached).toSound.undergo _).clock
  have reaches : last.Reaches (min (first.tick + 2000000000) Clock.lastTick) := by
    have now := Moment.now_of_passing (m := last) sound rfl
    have ticks : first.tick = 0 ∧ last.tick = 0 := by decide +kernel
    refine ⟨⟨_, rfl⟩, ?_⟩
    rw [now, ticks.1, ticks.2]
    decide
  obtain ⟨sent, each⟩ := announced_once attached loading
  rw [history] at sent each
  have once := ((each _ whole).2 [] first [last] rfl (by simp) ⟨1, by decide, 0x472, rfl, rfl⟩).2
    ⟨last, List.mem_cons_self, reaches⟩
  rw [once] at sent
  exact ⟨attached, sent⟩

end Chip

end WlanCard
