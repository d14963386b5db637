import WlanCard.Proofs.Checked.CommonArea
import WlanCard.Proofs.Checked.ControlMessages
import WlanCard.Proofs.Chip.Firing

/-!
# The target in steps that can fault

Register accesses, messages and deferred work, with the windows handed to those who read them. Three
counts of the target only ever grow until something sets them back: the epochs of its clock, the
bytes written into each window, and the commands that the firmware has not acted on. What it takes
for none of them to overflow is `Target.Affords`, and one byte or one reset uses up one of what it
affords (`checkedFunctions_agrees`).

Work that comes due counts nothing, so doing it cannot fault at all (`checkedFire_eq`).
-/

namespace WlanCard

open Checked

/-! ## The clock -/

namespace Clock

variable {ε : Type}

/-- Opens a new epoch. -/
def checkedOpenEpoch (c : Clock ε) : Checked (Clock ε) := do
  let epoch ← add 64 c.epoch 1
  return { c with epoch := epoch }

theorem checkedOpenEpoch_eq {c : Clock ε} (room : c.epoch + 1 < 2 ^ 64) :
    c.checkedOpenEpoch = .ok c.openEpoch :=
  ok_bind (add_eq room) rfl

variable [DecidableEq ε]

/-- Pops the earliest timer due by `limit`, which is taken out of the queue by its place there. -/
def checkedPopDue (c : Clock ε) (limit : Nat) : Checked (Option ε × Clock ε) :=
  match Timer.earliestDue limit c.pending with
  | none => .ok (none, c)
  | some t => do
    let i ← index c.pending.length (c.pending.idxOf t)
    let left := { c with now := max c.now t.deadline, pending := c.pending.eraseIdx i }
    if t.epoch = c.epoch then return (some t.event, left) else checkedPopDue left limit
termination_by c.pending.length
decreasing_by
  have inside := i.isLt
  rw [List.length_eraseIdx, if_pos inside]
  omega

/-- Taking a timer of the queue out is taking out what stands in its place. -/
theorem take_eq {c : Clock ε} {t : Timer ε} (mem : t ∈ c.pending) :
    ∃ i : Fin c.pending.length, c.pending.idxOf t = i ∧
      { c with now := max c.now t.deadline, pending := c.pending.eraseIdx i } = c.take t := by
  refine ⟨⟨c.pending.idxOf t, List.idxOf_lt_length_iff.mpr mem⟩, rfl, ?_⟩
  rw [take, List.erase_eq_eraseIdx_of_idxOf rfl]

/-- **What comes due** is in the queue, at a place of its own. -/
theorem checkedPopDue_eq (c : Clock ε) (limit : Nat) :
    c.checkedPopDue limit = .ok (c.popDue limit) := by
  fun_induction popDue c limit with
  | case1 c none => rw [checkedPopDue, none]
  | case2 c t found current =>
    obtain ⟨i, place, taken⟩ := take_eq (Timer.mem_of_earliestDue found)
    rw [checkedPopDue, found]
    refine ok_bind (index_eq place) ?_
    rw [if_pos current, taken]
    rfl
  | case3 c t found stale ih =>
    obtain ⟨i, place, taken⟩ := take_eq (Timer.mem_of_earliestDue found)
    rw [checkedPopDue, found]
    refine ok_bind (index_eq place) ?_
    rw [if_neg stale, taken]
    exact ih

end Clock

namespace Target

/-! ## Messages -/

/-- Lets the bootloader carry out a message in the control mailbox. -/
def checkedBootMessage (t : Target) (length : Nat) : Checked Target := do
  let window ← HostInterface.cut t.host.bytes 0
  let outcome ← t.boot.checkedHandle window length
  let window ← Window.checkedOfList outcome.2.2
  let host := t.host.setWindow .control window
  return { t with
    boot := outcome.2.1
    host := match outcome.1 with
      | some count => host.setAvailable .control count
      | none => host }

/-- Lets the firmware take notice of a message in the control mailbox, if there is one. -/
def checkedFirmwareMessage (t : Target) (length : Nat) : Checked Target :=
  match t.firmware with
  | none => .ok t
  | some firmware => do
    let window ← HostInterface.cut t.host.bytes 0
    let received ← firmware.checkedReceive window length
    return { t with firmware := some received }

/-- Hands a message to whom it is for. -/
def checkedRouteMessage (t : Target) (m : MailboxNumber) (length : Nat) : Checked Target :=
  if m = .control then
    if t.boot.done then t.checkedFirmwareMessage length else t.checkedBootMessage length
  else .ok t

/-- Acts on a completed message. -/
def checkedCompleteMessage (t : Target) (m : MailboxNumber) (length : Nat) : Checked Target := do
  let answer ← t.host.checkedSetCredits m Mailbox.noCredits HostInterface.droppedShift
  let routed ← (t.settleCredits answer).checkedRouteMessage m length
  return { routed with clock := routed.clock.arm routed.config.creditDelay (.creditGrant m) }

/-- Acts on what a register write has led to. -/
def checkedHandle (t : Target) : HostEvent → Checked Target
  | .messageComplete m length => t.checkedCompleteMessage m length
  | .wlanInterrupt value => .ok (if t.handsOver value then t.handOver else t)

/-! ## Accesses -/

/-- Writes the byte at an address of function 1. -/
def checkedWriteByte (t : Target) (address : UInt32) (value : UInt8) : Checked Target := do
  let answer ← t.host.checkedWrite address value
  let t := { t with host := answer.2 }
  match answer.1 with
  | some event => t.checkedHandle event
  | none => return t

/-- Writes bytes, each `stride` after the last. -/
def checkedWriteRun (stride : UInt32) :
    (address : UInt32) → (bytes : List UInt8) → (t : Target) → Checked Target
  | _, [], t => .ok t
  | address, value :: rest, t => do
    let written ← t.checkedWriteByte address value
    checkedWriteRun stride (address + stride) rest written

/-- Back to the bootloader. -/
def checkedReset (t : Target) : Checked Target := do
  let clock ← t.clock.checkedOpenEpoch
  return { t with
    host := t.host.reset
    boot := t.boot.reset
    firmware := none
    clock := clock }

/-- The target as the function behind a card. -/
def checkedFunctions : CheckedFunctions Target where
  reset := checkedReset
  read _ address length how t := do
    let answer ← HostInterface.checkedReadRun how.stride length address t.host
    return (answer.1, { t with host := answer.2 })
  write _ address bytes how t := t.checkedWriteRun how.stride address bytes

/-! ## Work that comes due -/

/-- Announces the firmware, the first time. -/
def checkedAnnounce (t : Target) : Checked Target :=
  match t.firmware with
  | none => .ok t
  | some firmware =>
    if firmware.announced then .ok t
    else do
      let message ← firmware.checkedReadyMessage
      let host ← t.host.checkedDeliver 0 message
      return { t with
        firmware := some { firmware with announced := true }
        sent := t.sent ++ [message]
        host := host }

/-- Does work that has come due. -/
def checkedFire (t : Target) : Deferred → Checked Target
  | .counterUpdate => .ok { t with host := t.host.updateCounter }
  | .creditGrant m => do
    let answer ← t.host.checkedSetCredits m Mailbox.fullCredits HostInterface.grantedShift
    return t.settleCredits answer
  | .alive => t.checkedAnnounce

/-! ## Without a fault -/

variable {t : Target} {k : Nat}

/-- None of the counts overflows, not even if `k` more are counted. -/
structure Affords (k : Nat) (t : Target) : Prop where
  epoch : t.clock.epoch + k < 2 ^ 64
  written : ∀ m, t.host.written m + k < 2 ^ 64
  unhandled : t.unhandledCommands + k < 2 ^ 64

theorem Affords.less {j : Nat} (le : j ≤ k) (room : t.Affords k) : t.Affords j where
  epoch := Nat.lt_of_le_of_lt (Nat.add_le_add_left le _) room.epoch
  written m := Nat.lt_of_le_of_lt (Nat.add_le_add_left le _) (room.written m)
  unhandled := Nat.lt_of_le_of_lt (Nat.add_le_add_left le _) room.unhandled

/-- Only the counts matter. -/
theorem Affords.of_eq {u : Target} (room : t.Affords k) (epoch : u.clock.epoch = t.clock.epoch)
    (written : ∀ m, u.host.written m = t.host.written m)
    (unhandled : u.unhandledCommands = t.unhandledCommands) : u.Affords k where
  epoch := epoch ▸ room.epoch
  written m := written m ▸ room.written m
  unhandled := unhandled ▸ room.unhandled

theorem checkedBootMessage_eq (t : Target) (length : Nat) :
    t.checkedBootMessage length = .ok (t.bootMessage length) := by
  refine ok_bind (t.host.cut_bytes 0) ?_
  refine ok_bind (t.boot.checkedHandle_eq (t.host.mailbox 0).window length) ?_
  exact ok_bind (Window.checkedOfList_eq rfl) rfl

theorem checkedFirmwareMessage_eq {length : Nat} (room : t.unhandledCommands + 1 < 2 ^ 64) :
    t.checkedFirmwareMessage length =
      .ok { t with firmware := t.firmware.map (·.receive length) } := by
  obtain ⟨config, host, boot, firmware, clock, sent⟩ := t
  cases firmware with
  | none => rfl
  | some firmware =>
    refine ok_bind (host.cut_bytes 0) ?_
    exact ok_bind (firmware.checkedReceive_eq room (host.mailbox 0).window length) rfl

theorem checkedRouteMessage_eq (m : MailboxNumber) (length : Nat)
    (room : t.unhandledCommands + 1 < 2 ^ 64) :
    t.checkedRouteMessage m length = .ok (t.routeMessage m length) := by
  unfold checkedRouteMessage routeMessage
  split
  · split
    · exact checkedFirmwareMessage_eq room
    · exact t.checkedBootMessage_eq length
  · rfl

/-- Settling credits counts nothing: it replaces the host interface and arms a timer at most. -/
theorem settleCredits_keeps (t : Target) (answer : Bool × HostInterface) :
    (t.settleCredits answer).host = answer.2 ∧ (t.settleCredits answer).firmware = t.firmware ∧
      (t.settleCredits answer).clock.epoch = t.clock.epoch := by
  unfold settleCredits
  dsimp only
  split <;> exact ⟨rfl, rfl, rfl⟩

theorem checkedCompleteMessage_eq (m : MailboxNumber) (length : Nat)
    (room : t.unhandledCommands + 1 < 2 ^ 64) :
    t.checkedCompleteMessage m length = .ok (t.completeMessage m length) := by
  let settled := t.settleCredits (t.host.dropCredits m)
  obtain ⟨-, firmware, -⟩ := t.settleCredits_keeps (t.host.dropCredits m)
  have unhandled : settled.unhandledCommands = t.unhandledCommands :=
    congrArg (·.elim 0 Firmware.unhandled) firmware
  have routed : settled.checkedRouteMessage m length = .ok (settled.routeMessage m length) :=
    checkedRouteMessage_eq m length (unhandled.symm ▸ room)
  exact ok_bind (t.host.checkedSetCredits_eq m _ (Nat.zero_le 4)) (ok_bind routed rfl)

theorem checkedHandle_eq (event : HostEvent) (room : t.unhandledCommands + 1 < 2 ^ 64) :
    t.checkedHandle event = .ok (t.handle event) := by
  cases event with
  | messageComplete m length => exact checkedCompleteMessage_eq m length room
  | wlanInterrupt value => rfl

/-! ### What is counted -/

/-- All that is counted on the way from one target to another is one command at most. -/
structure CountsCommand (t u : Target) : Prop where
  epoch : u.clock.epoch = t.clock.epoch
  written : ∀ m, u.host.written m = t.host.written m
  unhandled : u.unhandledCommands ≤ t.unhandledCommands + 1

theorem CountsCommand.refl (t : Target) : t.CountsCommand t :=
  ⟨rfl, fun _ => rfl, Nat.le_succ _⟩

theorem CountsCommand.affords {u : Target} (counts : t.CountsCommand u)
    (epoch : t.clock.epoch + k < 2 ^ 64) (written : ∀ m, t.host.written m + k < 2 ^ 64)
    (unhandled : t.unhandledCommands + (k + 1) < 2 ^ 64) : u.Affords k where
  epoch := counts.epoch ▸ epoch
  written m := counts.written m ▸ written m
  unhandled := by
    have most := counts.unhandled
    omega

theorem bootMessage_written (t : Target) (length : Nat) (m : MailboxNumber) :
    (t.bootMessage length).host.written m = t.host.written m := by
  let outcome := t.boot.handle (t.host.mailbox .control).window length
  have placed := (t.host.perform_mark m (.setWindow .control outcome.window)).2
  show (match outcome.available with
    | some count => (t.host.setWindow .control outcome.window).setAvailable .control count
    | none => t.host.setWindow .control outcome.window).written m = _
  cases outcome.available with
  | none => exact placed
  | some count =>
    exact (HostInterface.perform_mark _ m (.setAvailable .control count)).2.trans placed

theorem routeMessage_counts (t : Target) (m : MailboxNumber) (length : Nat) :
    t.CountsCommand (t.routeMessage m length) := by
  unfold routeMessage
  split
  · split
    · refine ⟨rfl, fun _ => rfl, ?_⟩
      show (t.firmware.map (·.receive length)).elim 0 Firmware.unhandled ≤
        t.firmware.elim 0 Firmware.unhandled + 1
      cases t.firmware with
      | none => exact Nat.zero_le _
      | some firmware =>
        show (firmware.receive length).unhandled ≤ firmware.unhandled + 1
        unfold Firmware.receive
        split
        · exact Nat.le_succ _
        · exact Nat.le_refl _
    · exact ⟨rfl, t.bootMessage_written length, Nat.le_succ _⟩
  · exact .refl t

theorem completeMessage_counts (t : Target) (m : MailboxNumber) (length : Nat) :
    t.CountsCommand (t.completeMessage m length) := by
  let settled := t.settleCredits (t.host.dropCredits m)
  obtain ⟨host, firmware, epoch⟩ := t.settleCredits_keeps (t.host.dropCredits m)
  have routed := settled.routeMessage_counts m length
  have unhandled : settled.unhandledCommands = t.unhandledCommands :=
    congrArg (·.elim 0 Firmware.unhandled) firmware
  have written : ∀ n, settled.host.written n = t.host.written n := by
    intro n
    refine (congrArg (·.written n) host).trans ?_
    exact (t.host.perform_mark n (.dropCredits m)).2
  exact ⟨routed.epoch.trans epoch, fun n => (routed.written n).trans (written n),
    unhandled ▸ routed.unhandled⟩

theorem handle_counts (t : Target) (event : HostEvent) : t.CountsCommand (t.handle event) := by
  cases event with
  | messageComplete m length => exact t.completeMessage_counts m length
  | wlanInterrupt value =>
    show t.CountsCommand (if t.handsOver value then t.handOver else t)
    split
    · exact ⟨rfl, fun _ => rfl, Nat.zero_le _⟩
    · exact .refl t

/-! ### Accesses -/

/-- **One byte** uses up one of what the target affords. -/
theorem checkedWriteByte_eq (address : UInt32) (value : UInt8) (room : t.Affords (k + 1)) :
    t.checkedWriteByte address value = .ok (t.writeByte address value) ∧
      (t.writeByte address value).Affords k := by
  let answer := t.host.write address value
  let stored : Target := { t with host := answer.2 }
  have epoch : t.clock.epoch + (k + 1) < 2 ^ 64 := room.epoch
  have unhandled : t.unhandledCommands + (k + 1) < 2 ^ 64 := room.unhandled
  have wrote : t.host.checkedWrite address value = .ok answer := by
    refine t.host.checkedWrite_eq address value fun m => ?_
    have before := room.written m
    omega
  have written : ∀ m, answer.2.written m + k < 2 ^ 64 := by
    intro m
    have before := room.written m
    have after : answer.2.written m ≤ t.host.written m + 1 := t.host.written_write_le m address value
    omega
  suffices acted : (match answer.1 with
      | some event => stored.checkedHandle event
      | none => return stored) = .ok (t.writeByte address value) ∧
        (t.writeByte address value).Affords k from
    ⟨ok_bind wrote acted.1, acted.2⟩
  have affords : ∀ u, stored.CountsCommand u → u.Affords k := fun u counts =>
    counts.affords (show t.clock.epoch + k < _ by omega) written unhandled
  unfold writeByte
  dsimp only
  cases answer.1 with
  | none => exact ⟨rfl, affords stored (.refl stored)⟩
  | some event =>
    refine ⟨checkedHandle_eq event ?_, affords _ (stored.handle_counts event)⟩
    show t.unhandledCommands + 1 < 2 ^ 64
    omega

theorem checkedWriteRun_eq (stride address : UInt32) (bytes : List UInt8)
    (room : t.Affords (k + bytes.length)) :
    t.checkedWriteRun stride address bytes = .ok (t.writeRun stride address bytes) ∧
      (t.writeRun stride address bytes).Affords k := by
  induction bytes generalizing address t with
  | nil => exact ⟨rfl, room⟩
  | cons value rest ih =>
    obtain ⟨wrote, left⟩ := checkedWriteByte_eq address value (k := k + rest.length) room
    obtain ⟨ran, left⟩ := ih (address + stride) left
    exact ⟨ok_bind wrote ran, left⟩

/-- **A reset** uses up one, for the epoch that it opens. -/
theorem checkedReset_eq (room : t.Affords (k + 1)) :
    t.checkedReset = .ok t.reset ∧ t.reset.Affords k := by
  have epoch : t.clock.epoch + (k + 1) < 2 ^ 64 := room.epoch
  refine ⟨ok_bind (Clock.checkedOpenEpoch_eq (by omega)) rfl, ?_, fun m => ?_, ?_⟩
  · show t.clock.epoch + 1 + k < 2 ^ 64
    omega
  · show t.host.reset.written m + k < 2 ^ 64
    rw [t.host.written_reset]
    omega
  · show 0 + k < 2 ^ 64
    omega

/-- **The target is a function in order**: it does as the total one does for as long as it can afford
it. -/
theorem checkedFunctions_agrees : checkedFunctions.Agrees functions (fun k t => t.Affords k) where
  less le room := room.less le
  reset room := checkedReset_eq room
  read {_ t} _ address length how room :=
    ⟨ok_bind (t.host.checkedReadRun_eq how.stride length address) rfl,
      room.of_eq rfl (fun m => t.host.written_readRun m how.stride length address) rfl⟩
  write _ address bytes how room := checkedWriteRun_eq how.stride address bytes room
  readStorage _ _ room := ⟨rfl, room⟩
  writeStorage _ _ _ room := ⟨rfl, room⟩

/-! ### Work that comes due -/

theorem checkedAnnounce_eq (t : Target) : t.checkedAnnounce = .ok t.announce := by
  unfold checkedAnnounce announce
  cases t.firmware with
  | none => rfl
  | some firmware =>
    dsimp only [Firmware.announce]
    split
    · rfl
    · refine ok_bind firmware.checkedReadyMessage_eq ?_
      exact ok_bind (t.host.checkedDeliver_eq 0 firmware.readyMessage) rfl

/-- **Work that comes due** is done, whatever has been counted. -/
theorem checkedFire_eq (t : Target) (event : Deferred) : t.checkedFire event = .ok (t.fire event) := by
  cases event with
  | counterUpdate => rfl
  | creditGrant m => exact ok_bind (t.host.checkedSetCredits_eq m _ (Nat.le_refl 4)) rfl
  | alive => exact t.checkedAnnounce_eq

theorem fire_affords (event : Deferred) (room : t.Affords k) : (t.fire event).Affords k := by
  cases event with
  | counterUpdate => exact room.of_eq rfl (fun _ => rfl) rfl
  | creditGrant m =>
    obtain ⟨host, firmware, epoch⟩ := t.settleCredits_keeps (t.host.grantCredits m)
    refine room.of_eq epoch (fun n => (congrArg (·.written n) host).trans ?_)
      (congrArg (·.elim 0 Firmware.unhandled) firmware)
    exact (t.host.perform_mark n (.grantCredits m)).2
  | alive =>
    show t.announce.Affords k
    unfold announce
    cases running : t.firmware with
    | none => exact room
    | some firmware =>
      have delivered : ∀ m message, (t.host.deliver .control message).written m = t.host.written m :=
        fun m message => (t.host.perform_mark m (.deliver .control message)).2
      dsimp only [Firmware.announce]
      by_cases done : firmware.announced
      · rw [if_pos done]
        exact room
      · rw [if_neg done]
        exact room.of_eq rfl (delivered · _) (congrArg (·.elim 0 Firmware.unhandled) running.symm)

/-- Time passing counts nothing. -/
theorem Affords.popDue {u : Target} {limit : Nat} {answer : Option Deferred} (room : t.Affords k)
    (popped : t.popDue limit = (answer, u)) : u.Affords k := by
  obtain rfl : (t.popDue limit).2 = u := congrArg Prod.snd popped
  exact room.of_eq (popDue_epoch rfl) (fun _ => rfl) rfl

/-- At power-on nothing has been counted. -/
theorem powerOn_affords (config : Config) (short : k < 2 ^ 64) : (powerOn config).Affords k where
  epoch := (Nat.zero_add k).symm ▸ short
  written m := by
    show HostInterface.powerOn.written m + k < 2 ^ 64
    rwa [HostInterface.written_powerOn, Nat.zero_add]
  unhandled := (Nat.zero_add k).symm ▸ short

end Target

end WlanCard
