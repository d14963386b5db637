import WlanCard.Proofs.Chip.Deferral
import WlanCard.Proofs.HostInterface.Credits

/-!
# Grants of credits

A completed message takes the credits of its mailbox and puts their grant off; the grant gives them
back. `Moment.completed` and `Moment.granted` are what the two leave behind. With the law of work that is
put off, every completed message is followed by one grant, counted from the last of them
(`granted_once`).
-/

namespace WlanCard

namespace Target

variable {t u : Target} {limit : Nat} {event : Deferred} {m n : MailboxNumber}

/-! ## Dropping -/

/-- Handing a message on concerns no credits. -/
theorem routeMessage_credits (t : Target) (m n : MailboxNumber) (length : Nat) :
    (t.routeMessage m length).host.credits n = t.host.credits n ∧
      (t.routeMessage m length).host.counter = t.host.counter := by
  rcases t.routeMessage_host m length with same | ⟨w, same | ⟨count, same⟩⟩
  · rw [same]
    exact ⟨rfl, rfl⟩
  · rw [same]
    exact ⟨HostInterface.credits_setWindow .., rfl⟩
  · rw [same]
    exact ⟨(HostInterface.credits_setAvailable ..).trans (HostInterface.credits_setWindow ..), rfl⟩

/-- **A completed message** takes the credits of its mailbox. -/
theorem completeMessage_credits (t : Target) (m n : MailboxNumber) (length : Nat) :
    (t.completeMessage m length).host.credits n =
      if n = m then Mailbox.noCredits else t.host.credits n := by
  have routed := (routeMessage_credits (t.settleCredits (t.host.dropCredits m)) m n length).1
  rw [completeMessage_host, routed, settleCredits_eq]
  exact HostInterface.credits_setCredits ..

theorem completeMessage_counter (t : Target) (m : MailboxNumber) (length : Nat) :
    bitSet (t.completeMessage m length).host.counter.status m = true := by
  have routed := (routeMessage_credits (t.settleCredits (t.host.dropCredits m)) m m length).2
  rw [completeMessage_host, routed, settleCredits_eq]
  show bitSet (t.host.counter.raise (m.bit 0)).status m = true
  simp [bitSet_bit]

/-! ## Granting -/

/-- The credits of a mailbox have been restored, and the host can tell. -/
structure Granted (m : MailboxNumber) (t : Target) : Prop where
  credits : t.host.credits m = Mailbox.fullCredits
  counter : bitSet t.host.counter.status (m + 4) = true

/-- Of all work only the grants give credits. -/
theorem fire_credits (t : Target) (event : Deferred) (n : MailboxNumber) :
    (t.fire event).host.credits n =
      if event = .creditGrant n then Mailbox.fullCredits else t.host.credits n := by
  cases event with
  | counterUpdate => rfl
  | creditGrant m =>
    show (t.settleCredits (t.host.grantCredits m)).host.credits n = _
    rw [settleCredits_eq]
    simp only [Deferred.creditGrant.injEq, eq_comm (a := m)]
    exact HostInterface.credits_setCredits ..
  | alive =>
    show t.announce.host.credits n = t.host.credits n
    rcases t.announce_host with same | ⟨message, same⟩
    · rw [same]
    · rw [same]
      exact HostInterface.credits_deliver ..

/-- No work acknowledges anything. -/
theorem fire_counter (t : Target) (event : Deferred) (i : Nat) :
    bitSet (t.fire event).host.counter.status i = (bitSet t.host.counter.status i ||
      match event with
      | .creditGrant m => bitSet (m.bit 4) i
      | .counterUpdate | .alive => false) := by
  cases event with
  | counterUpdate => exact (Bool.or_false _).symm
  | creditGrant m =>
    show bitSet (t.settleCredits (t.host.grantCredits m)).host.counter.status i = _
    rw [settleCredits_eq]
    exact InterruptSource.status_raise ..
  | alive =>
    show bitSet t.announce.host.counter.status i = _
    rw [Bool.or_false]
    rcases t.announce_host with same | ⟨message, same⟩
    · rw [same]
    · rw [same]
      rfl

/-- A grant restores the credits of its mailbox, and no work takes them again. -/
theorem granted_fire (now : event = .creditGrant m ∨ t.Granted m) : (t.fire event).Granted m where
  credits := by
    rw [fire_credits]
    rcases now with grant | before
    · exact if_pos grant
    · rw [before.credits, ite_self]
  counter := by
    rw [fire_counter]
    rcases now with rfl | before
    · simp [bitSet_bit]
    · rw [before.counter, Bool.true_or]

theorem granted_drain (before : t.Granted m) : (t.drain limit).2.Granted m := by
  have popped_granted : ∀ {s u : Target} {event}, s.Granted m → s.popDue limit = (event, u) →
      u.Granted m := by
    intro s u event granted popped
    have host := popDue_host popped
    exact ⟨host ▸ granted.credits, host ▸ granted.counter⟩
  exact (drain_keeps (·.Granted m) (fun _ _ granted popped => popped_granted granted popped)
    (fun _ _ _ granted popped => granted_fire (.inr (popped_granted granted popped))) before).1

/-- **Time going by** restores the credits of the mailboxes whose grant comes due, and those alone. -/
theorem credits_drain (t : Target) (limit : Nat) (m : MailboxNumber) :
    if Firing.ticksOf (.creditGrant m) (t.drain limit).1 = [] then
      (t.drain limit).2.host.credits m = t.host.credits m
    else (t.drain limit).2.Granted m := by
  induction t using drain.induct limit with
  | case1 t u popped =>
    rw [drain_of_none popped]
    exact congrArg (·.credits m) (popDue_host popped)
  | case2 t event u popped ih =>
    rw [drain_of_some popped, Firing.ticksOf_cons]
    dsimp only
    by_cases grant : event = .creditGrant m
    · rw [if_pos grant]
      exact granted_drain (granted_fire (.inl grant))
    · rw [if_neg grant, List.nil_append]
      rwa [fire_credits, if_neg grant, popDue_host popped] at ih

end Target

/-! ## Moments -/

namespace Moment

variable {x : Moment} {m : MailboxNumber}

theorem creditGrant_mem_armed : .creditGrant m ∈ x.armed ↔ x.happening.Completes m :=
  Target.mem_armed_creditGrant

/-- **A completed message** leaves its mailbox without credits, and the host can tell. -/
theorem completed (completes : x.happening.Completes m) :
    x.after.host.credits m = Mailbox.noCredits ∧
      bitSet x.after.host.counter.status m = true := by
  have grant := creditGrant_mem_armed.mpr completes
  obtain ⟨value, address, same, -⟩ := completes
  unfold armed at grant
  unfold after
  rw [same] at grant ⊢
  show (x.before.writeByte address value).host.credits m = _ ∧
    bitSet (x.before.writeByte address value).host.counter.status m = true
  rcases x.before.writeByte_cases address value with ⟨n, length, led, armed⟩ | ⟨-, armed⟩ | ⟨-, armed⟩
  · obtain rfl : m = n := by
      rw [armed] at grant
      split at grant <;> simpa using grant
    rw [led]
    exact ⟨(Target.completeMessage_credits ..).trans (if_pos rfl), Target.completeMessage_counter ..⟩
  · rw [armed] at grant
    simp at grant
  · rw [armed] at grant
    simp at grant

/-- **A grant** leaves its mailbox with all credits, and the host can tell. -/
theorem granted (done : x.ticksOf (.creditGrant m) ≠ []) : x.after.Granted m := by
  rcases x.happening.still_or_advance with still | ⟨ticks, passing⟩
  · exact absurd (ticksOf_of_still _ still) done
  · have law := Target.credits_drain x.before (Clock.tickAfter x.tick ticks) m
    unfold ticksOf firings at done
    rw [passing] at done
    rw [if_neg done] at law
    unfold after
    rw [passing]
    exact ⟨law.credits, law.counter⟩

end Moment

namespace Chip

variable {config : Config} {chip : Chip}

/-- **No grant of credits is lost or made twice.** Every completed message leaves its mailbox without
credits. From the last of them since a reset on, one grant is put off, to the tick `creditDelay` later
or the last tick, until time is advanced to that tick: then it is made there, once, and leaves all
credits. After a reset or a grant there is none without another message. -/
theorem granted_once (attached : attach config = .ok chip) (ops : List Operation)
    (m : MailboxNumber) :
    (∀ x ∈ chip.history ops, x.happening.Completes m →
      x.after.host.credits m = Mailbox.noCredits ∧
        bitSet x.after.host.counter.status m = true) ∧
    ∀ stretch, Stretch (chip.history ops) stretch →
      (∀ earlier last waiting later, stretch = earlier ++ last :: (waiting ++ later) →
        last.happening.Completes m → (∀ x ∈ waiting, ¬ x.happening.Completes m) →
        let due := min (last.tick + config.creditDelay) Clock.lastTick
        (∀ x ∈ waiting, ¬ x.Reaches due) →
        (∀ x ∈ last :: waiting,
          x.after.Awaits (.creditGrant m) due ∧ x.ticksOf (.creditGrant m) = []) ∧
        ∀ next rest, later = next :: rest → next.Reaches due →
          next.ticksOf (.creditGrant m) = [due] ∧
            next.after.clock.live (.creditGrant m) = [] ∧
            next.after.host.credits m = Mailbox.fullCredits ∧
            bitSet next.after.host.counter.status (m + 4) = true) ∧
      (∀ earlier calm later, stretch = earlier ++ (calm ++ later) →
        (earlier = [] ∨
          ∃ older last, earlier = older ++ [last] ∧ last.ticksOf (.creditGrant m) ≠ []) →
        (∀ x ∈ calm, ¬ x.happening.Completes m) →
        ∀ x ∈ calm, x.ticksOf (.creditGrant m) = []) := by
  refine ⟨fun x _ => Moment.completed, fun stretch found => ?_⟩
  have noReset := found.noReset
  obtain ⟨t, u, passes, fresh⟩ := fresh_of_stretch attached found
  have unarmed : ∀ {xs : List Moment}, (∀ x ∈ xs, ¬ x.happening.Completes m) →
      ∀ x ∈ xs, .creditGrant m ∉ x.armed :=
    fun none x mem armed => none x mem (Moment.creditGrant_mem_armed.mp armed)
  constructor
  · rintro earlier last waiting later rfl completes none due unreached
    simp only [List.forall_mem_append, List.forall_mem_cons] at noReset
    obtain ⟨v, before, fromLast⟩ := passes.split
    obtain ⟨rfl, behind⟩ := fromLast.head
    obtain ⟨w, between, rest⟩ := behind.split
    have sound := (before.sound fresh.toSound).1
    have armed := Moment.arming (Moment.creditGrant_mem_armed.mpr completes)
    rw [sound.config] at armed
    have after := sound.undergo last.happening
    obtain ⟨awaits, each⟩ := between.awaited after (by simp) noReset.2.2.1 (unarmed none) unreached
      armed.1
    refine ⟨List.forall_mem_cons.mpr ⟨armed, each⟩, ?_⟩
    rintro next further rfl reaches
    obtain ⟨rfl, -⟩ := rest.head
    obtain ⟨idle, done⟩ := Moment.reached (by simp) (between.sound after).1.clock awaits reaches
    have granted := Moment.granted (x := next) (m := m) (by simp [done])
    exact ⟨done, idle, granted.credits, granted.counter⟩
  · rintro earlier calm later rfl since none
    simp only [List.forall_mem_append] at noReset
    obtain ⟨v, before, passes⟩ := passes.split
    obtain ⟨w, passes, -⟩ := passes.split
    have idle : v.clock.live (.creditGrant m) = [] := by
      rcases since with rfl | ⟨older, last, rfl, done⟩
      · rw [← before.eq_of_nil]
        exact fresh.idle _
      · have sounds := (before.sound fresh.toSound).2
        obtain ⟨w, -, before⟩ := before.split
        rw [← before.head.2.eq_of_nil]
        exact Moment.idle_of_done (by simp) (sounds last (by simp)).clock done
    exact (passes.idle (before.sound fresh.toSound).1 (by simp) noReset.2.1 (unarmed none) idle).2

/-- The host selects a card, completes a message of one byte in the control mailbox, and lets a 64th of
a second go by. -/
def messaging : List Operation :=
  [.command 5 0x10fe0000, .command 3 0, .command 7 0x45670000, .command 52 0x901ffe00,
    .advance 15625000]

theorem granted_once_messaging :
    attach {} = .ok (assemble {}).reset ∧
      ∃ last next : Moment, (assemble {}).reset.history messaging = [last, next] ∧
        last.after.host.credits 0 = 0x00 ∧ last.after.Awaits (.creditGrant 0) 15625000 ∧
        next.ticksOf (.creditGrant 0) = [15625000] ∧ next.after.host.credits 0 = 0xff := by
  have attached : attach {} = .ok (assemble {}).reset := rfl
  let t := (assemble {}).reset.target
  let last : Moment := ⟨t, .write 0xfff 0⟩
  let next : Moment := ⟨last.after, .advance 15625000⟩
  have course : (assemble {}).reset.course messaging = [last.happening, next.happening] := by
    decide +kernel
  have history : (assemble {}).reset.history messaging = [last, next] :=
    congrArg t.history course
  have whole : Stretch [last, next] [last, next] :=
    ⟨[], [], rfl, .inl rfl, by simp [last, next]⟩
  have sound : next.before.clock.Sound :=
    ((fresh_attach attached).toSound.undergo last.happening).clock
  have completes : last.happening.Completes 0 := ⟨0, 0xfff, rfl, rfl⟩
  have ticks : last.tick = 0 ∧ next.tick = 0 := by decide +kernel
  have reaches : next.Reaches (min (last.tick + 15625000) Clock.lastTick) := by
    have now := Moment.now_of_passing (m := next) sound rfl
    refine ⟨⟨_, rfl⟩, ?_⟩
    rw [now, ticks.1, ticks.2]
    decide
  obtain ⟨dropped, each⟩ := granted_once attached messaging 0
  rw [history] at dropped each
  obtain ⟨waits, granted⟩ := (each _ whole).1 [] last [] [next] rfl completes (by simp) (by simp)
  have awaits := (waits last List.mem_cons_self).1
  obtain ⟨once, -, credits, -⟩ := granted next [] rfl reaches
  rw [ticks.1] at awaits once
  exact ⟨attached, last, next, history, (dropped last List.mem_cons_self completes).1, awaits, once,
    credits⟩

end Chip

end WlanCard
