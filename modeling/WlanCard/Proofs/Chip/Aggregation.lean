import WlanCard.Proofs.Chip.Deferral
import WlanCard.Proofs.HostInterface.Aggregation

/-!
# The host status of a chip is complete

What the bit of a source misses in the host status, a chip makes up for later: news of credits put off a
counter update. So as long as the host clears no such bit itself, the processor and the errors always
show, and the counters show unless an update is pending (`interrupts_aggregated`).

`Target.UpToDate` is the invariant; it is kept by every happening, and by each piece of work that comes
due (`UpToDate.undergo`, `upToDate_fire`).
-/

namespace WlanCard

/-- A write to the host status that clears the bit of a source. -/
def Happening.Hides (s : StatusSource) (h : Happening) : Prop :=
  ∃ value, bitSet value s.number = true ∧ h.Writes .hostStatus value

namespace Target

variable {t u : Target} {limit : Nat} {event : Deferred} {s : StatusSource}

/-- The host status shows every source, and the counters at the latest when an update is done. -/
def UpToDate (t : Target) : Prop :=
  ∀ s : StatusSource, (s = .counter → t.clock.live .counterUpdate = []) → t.host.Shows s

/-! ## Happenings -/

theorem settles_routeMessage (t : Target) (m : MailboxNumber) (length : Nat) (s : StatusSource) :
    HostInterface.Settles s t.host (t.routeMessage m length).host := by
  rcases t.routeMessage_host m length with same | ⟨w, same | ⟨count, same⟩⟩ <;> rw [same] <;>
    exact .kept rfl rfl

theorem shows_completeMessage {m : MailboxNumber} {length : Nat}
    (known : s = .counter → (t.host.dropCredits m).1 = false) (shows : t.host.Shows s) :
    (t.completeMessage m length).host.Shows s := by
  rw [completeMessage_host]
  refine (settles_routeMessage _ m length s).shows ?_
  rw [settleCredits_eq]
  exact (t.host.settles_setCredits s m _ (.inl rfl) known).shows shows

/-- A register write shows a source again, unless it hides it or brings news of credits. -/
theorem shows_writeByte {address : UInt32} {value : UInt8}
    (spared : ¬ (Happening.write address value).Hides s)
    (known : s = .counter → .counterUpdate ∉ t.armed (.write address value))
    (shows : t.host.Shows s) : (t.writeByte address value).host.Shows s := by
  have kept : address.toNat = HostRegister.hostStatus.address → bitSet value s.number = false := by
    intro stands
    exact Bool.eq_false_iff.mpr fun hit => spared ⟨value, hit, address, rfl, stands⟩
  have written := (t.host.settles_write s kept).shows shows
  rcases t.writeByte_cases address value with ⟨m, length, led, armed⟩ | ⟨led, -⟩ | ⟨led, -⟩
  · rw [led]
    refine shows_completeMessage (fun counter => ?_) written
    have quiet := known counter
    rw [armed] at quiet
    refine Bool.eq_false_iff.mpr fun news => quiet ?_
    rw [if_pos news]
    exact List.mem_cons_self
  · rw [led]
    exact written
  · rw [led]
    exact written

/-! ## Work that comes due -/

/-- **Each piece of work** leaves the status up to date: what brings news puts off their update. -/
theorem upToDate_fire (within : limit ≤ Clock.lastTick) (sound : t.clock.Sound)
    (upToDate : t.UpToDate) (popped : t.popDue limit = (some event, u)) :
    (u.fire event).UpToDate := by
  obtain ⟨-, -, left⟩ := sound.popDue_some within (popDue_eq_iff.mp popped).1
  have left := left .counterUpdate
  have host := popDue_host popped
  intro s none
  have live : s = .counter → .counterUpdate ∉ u.armedBy event ∧ u.clock.live .counterUpdate = [] := by
    intro counter
    have none := none counter
    rw [fire_clock, Clock.live_armAll] at none
    split at none
    · cases none
    next quiet => exact ⟨quiet, none⟩
  cases event with
  | counterUpdate =>
    by_cases counter : s = .counter
    · subst counter
      exact u.host.shows_derive .counter
    · have shows := upToDate s fun same => absurd same counter
      rw [← host] at shows
      exact (u.host.settles_updateCounter s).shows shows
  | creditGrant m =>
    rw [if_neg (by simp)] at left
    have shows := upToDate s fun counter => left ▸ (live counter).2
    rw [← host] at shows
    show (u.settleCredits (u.host.grantCredits m)).host.Shows s
    rw [settleCredits_eq]
    refine (u.host.settles_setCredits s m _ (.inr rfl) fun counter => ?_).shows shows
    refine Bool.eq_false_iff.mpr fun news => (live counter).1 ?_
    rw [show u.armedBy (.creditGrant m) = [.counterUpdate] from if_pos news]
    exact List.mem_cons_self
  | alive =>
    rw [if_neg (by simp)] at left
    have shows := upToDate s fun counter => left ▸ (live counter).2
    rw [← host] at shows
    show u.announce.host.Shows s
    rcases u.announce_host with same | ⟨message, same⟩
    · rw [same]
      exact shows
    · rw [same]
      exact (u.host.settles_deliver s .control message).shows shows

/-- All work due by a tick leaves the status up to date. -/
theorem upToDate_drain (within : limit ≤ Clock.lastTick) (sound : t.clock.Sound)
    (upToDate : t.UpToDate) : (t.drain limit).2.UpToDate := by
  have rest : ∀ t u : Target, t.clock.Sound ∧ t.UpToDate → t.popDue limit = (none, u) →
      u.clock.Sound ∧ u.UpToDate := by
    intro t u now popped
    have live := (Clock.popDue_none (popDue_eq_iff.mp popped).1).1 .counterUpdate
    have host := popDue_host popped
    refine ⟨sound_popDue within now.1 popped, fun s none => ?_⟩
    rw [host]
    exact now.2 s fun counter => live ▸ none counter
  exact (drain_keeps (fun t => t.clock.Sound ∧ t.UpToDate) rest
    (fun _ _ _ now popped =>
      ⟨sound_fire within now.1 popped, upToDate_fire within now.1 now.2 popped⟩)
    ⟨sound, upToDate⟩).1.2

/-- What shows once nothing is pending any more showed before, and there were no news. -/
theorem UpToDate.shown (upToDate : t.UpToDate) {h : Happening}
    (none : s = .counter → (t.undergo h).clock.live .counterUpdate = [])
    (still : h ≠ .reset ∧ h.Still) :
    (s = .counter → .counterUpdate ∉ t.armed h) ∧ t.host.Shows s := by
  have live : s = .counter → .counterUpdate ∉ t.armed h ∧ t.clock.live .counterUpdate = [] := by
    intro counter
    have none := none counter
    rw [undergo_clock still, Clock.live_armAll] at none
    split at none
    · cases none
    next quiet => exact ⟨quiet, none⟩
  exact ⟨fun counter => (live counter).1, upToDate s fun counter => (live counter).2⟩

/-- **Every happening** that hides no source leaves the status up to date. -/
theorem UpToDate.undergo (upToDate : t.UpToDate) (sound : t.clock.Sound) {h : Happening}
    (spared : ∀ s, ¬ h.Hides s) : (t.undergo h).UpToDate := by
  cases h with
  | reset => exact fun s _ => t.host.shows_reset s
  | advance ticks => exact upToDate_drain (Clock.tickAfter_le ..) sound upToDate
  | read address =>
    intro s none
    exact (t.host.settles_read s address).shows (upToDate.shown none ⟨nofun, fun _ => nofun⟩).2
  | raiseCpu bits =>
    intro s none
    exact (t.host.settles_raiseCpu s bits).shows (upToDate.shown none ⟨nofun, fun _ => nofun⟩).2
  | raiseError bits =>
    intro s none
    exact (t.host.settles_raiseError s bits).shows (upToDate.shown none ⟨nofun, fun _ => nofun⟩).2
  | write address value =>
    intro s none
    obtain ⟨known, shows⟩ := upToDate.shown none ⟨nofun, fun _ => nofun⟩
    exact shows_writeByte (spared s) known shows

end Target

namespace Chip

/-- **Interrupts are aggregated soundly and completely.** Whatever is done to the host interface, a bit
of the host status that shows a source is set only while that source asks for an interrupt, one that
tells of a frame only while the lookahead of its mailbox is to be read, and bit 5 never. And whatever is
done to a chip, if its host never clears the bit of a source, errors and processor show as they are, and
so do the counters unless a counter update is pending. -/
theorem interrupts_aggregated :
    (∀ ops : List HostInterface.Operation,
      let h := HostInterface.powerOn.run ops
      (bitSet h.status 7 = true → h.error.status &&& h.error.enable ≠ 0) ∧
      (bitSet h.status 6 = true → h.cpu.status &&& h.cpu.enable ≠ 0) ∧
      (bitSet h.status 4 = true → h.counter.status &&& h.counter.enable ≠ 0) ∧
      (∀ m : MailboxNumber, bitSet h.status m = true → bitSet h.lookaheadValid m = true) ∧
      bitSet h.status 5 = false) ∧
    ∀ (config : Config) (chip : Chip), attach config = .ok chip → ∀ ops : List Operation,
      (∀ x ∈ chip.history ops, ∀ value, x.happening.Writes .hostStatus value →
        bitSet value 4 = false ∧ bitSet value 6 = false ∧ bitSet value 7 = false) →
      let t := (chip.run ops).target
      (bitSet t.host.status 7 = true ↔ t.host.error.status &&& t.host.error.enable ≠ 0) ∧
      (bitSet t.host.status 6 = true ↔ t.host.cpu.status &&& t.host.cpu.enable ≠ 0) ∧
      (t.clock.isPending .counterUpdate = true ∨
        (bitSet t.host.status 4 = true ↔ t.host.counter.status &&& t.host.counter.enable ≠ 0)) := by
  constructor
  · intro ops
    have explained := HostInterface.explained_run ops
    exact ⟨fun set => bne_iff_ne.mp (explained.source .error set),
      fun set => bne_iff_ne.mp (explained.source .cpu set),
      fun set => bne_iff_ne.mp (explained.source .counter set), explained.frame, explained.unused⟩
  · intro config chip attached ops spared
    have fresh := fresh_attach attached
    have start : chip.target.UpToDate := by
      rw [target_attach attached]
      exact fun s _ => HostInterface.shows_reset _ s
    have noneHidden : ∀ x ∈ chip.history ops, ∀ s, ¬ x.happening.Hides s := by
      rintro x mem s ⟨value, hit, writes⟩
      obtain ⟨counter, cpu, error⟩ := spared x mem value writes
      cases s with
      | counter => exact absurd (counter.symm.trans hit) Bool.false_ne_true
      | cpu => exact absurd (cpu.symm.trans hit) Bool.false_ne_true
      | error => exact absurd (error.symm.trans hit) Bool.false_ne_true
    have kept := (passes_run ops chip).keeps (fun t => t.Sound config ∧ t.UpToDate)
      (fun x mem now =>
        ⟨now.1.undergo x.happening, now.2.undergo now.1.clock (noneHidden x mem)⟩)
      ⟨fresh.toSound, start⟩
    have upToDate := kept.1.2
    refine ⟨(upToDate .error (by simp)).iff, (upToDate .cpu (by simp)).iff, ?_⟩
    by_cases pending : (chip.run ops).target.clock.live .counterUpdate = []
    · exact .inr (upToDate .counter fun _ => pending).iff
    · exact .inl (Clock.isPending_iff.mpr pending)

/-- The host asks to hear of the processor, which then reports something; then it clears the bit of a
frame. -/
def reporting : List Operation :=
  [.command 5 0x10fe0000, .command 3 0, .command 7 0x45670000, .command 52 0x90083201, .raiseCpu 0x01,
    .command 52 0x90080001]

theorem interrupts_aggregated_reporting :
    attach {} = .ok (assemble {}).reset ∧
      bitSet ((assemble {}).reset.run reporting).target.host.status 6 = true ∧
      bitSet ((assemble {}).reset.run reporting).target.host.status 7 = false := by
  have attached : attach {} = .ok (assemble {}).reset := rfl
  have course : (assemble {}).reset.course reporting =
      [.write 0x419 1, .raiseCpu 0x01, .write 0x400 1] := by decide +kernel
  have spared : ∀ x ∈ (assemble {}).reset.history reporting, ∀ value,
      x.happening.Writes .hostStatus value →
      bitSet value 4 = false ∧ bitSet value 6 = false ∧ bitSet value 7 = false := by
    rintro x mem value ⟨address, same, stands⟩
    have mem := mem_course mem
    rw [course, same] at mem
    have written : value = 1 := by
      simp only [List.mem_cons, Happening.write.injEq, reduceCtorEq, false_or, List.not_mem_nil,
        or_false] at mem
      rcases mem with ⟨rfl, -⟩ | ⟨-, written⟩
      · exact absurd stands (by decide)
      · exact written
    rw [written]
    decide
  obtain ⟨error, cpu, -⟩ := interrupts_aggregated.2 {} _ attached reporting spared
  refine ⟨attached, cpu.mpr (by decide +kernel), ?_⟩
  refine Bool.eq_false_iff.mpr fun set => error.mp set ?_
  decide +kernel

end Chip

end WlanCard
