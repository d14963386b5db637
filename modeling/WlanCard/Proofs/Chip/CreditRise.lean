import WlanCard.Proofs.Chip.AccessPaths
import WlanCard.Proofs.Chip.Credits

/-!
# Where credits come from

`Moment.credits_cases` is the account of a mailbox's credits, moment by moment. Messages and the register
that takes one credit lower them, grants and resets restore them. So on the bus alone no credits come
back (`credits_rise`), but for one thing: the register that takes a credit takes one where none is left,
too, and the mailbox then has all of them.
-/

namespace WlanCard

namespace Moment

variable {x : Moment} {m : MailboxNumber}

/-- The host takes a credit where none is left, which leaves the mailbox with all of them. -/
def Wraps (m : MailboxNumber) (x : Moment) : Prop :=
  x.happening.Reads (.creditTake m) ∧ x.before.host.credits m = Mailbox.noCredits ∧
    x.after.host.credits m = Mailbox.fullCredits

/-- **The account of the credits of a mailbox**: what a moment does to them. -/
theorem credits_cases (x : Moment) (m : MailboxNumber) :
    x.after.host.credits m = x.before.host.credits m ∨
    (x.happening.Completes m ∧ x.after.host.credits m = Mailbox.noCredits) ∨
    (x.happening.Reads (.creditTake m) ∧
      x.after.host.credits m = x.before.host.credits m - 1) ∨
    ((x.happening = .reset ∨ x.ticksOf (.creditGrant m) ≠ []) ∧
      x.after.host.credits m = Mailbox.fullCredits) := by
  obtain ⟨t, h⟩ := x
  cases h with
  | reset => exact .inr (.inr (.inr ⟨.inl rfl, HostInterface.credits_reset ..⟩))
  | raiseCpu bits | raiseError bits => exact .inl rfl
  | read address =>
    have taken : (t.host.read address).2.credits m = _ := HostInterface.credits_read t.host address m
    split at taken
    next stands => exact .inr (.inr (.inl ⟨⟨address, rfl, stands⟩, taken⟩))
    next other => exact .inl taken
  | write address value =>
    have written := HostInterface.credits_write t.host address value m
    rcases t.writeByte_cases address value with ⟨n, length, led, armed⟩ | ⟨led, -⟩ | ⟨led, -⟩
    · have credits : (t.writeByte address value).host.credits m = _ :=
        congrArg (·.host.credits m) led
      rw [Target.completeMessage_credits] at credits
      split at credits
      next here =>
        subst here
        have grant : Deferred.creditGrant m ∈ t.armed (.write address value) := by
          rw [armed]
          exact List.mem_append_right _ List.mem_cons_self
        exact .inr (.inl ⟨Target.mem_armed_creditGrant.mp grant, credits⟩)
      next => exact .inl (credits.trans written)
    · exact .inl ((congrArg (·.host.credits m) led).trans written)
    · exact .inl ((congrArg (·.host.credits m) led).trans written)
  | advance ticks =>
    have law := Target.credits_drain t (Clock.tickAfter t.clock.now ticks) m
    split at law
    next => exact .inl law
    next done => exact .inr (.inr (.inr ⟨.inr done, law.credits⟩))

/-- Only a reset, a grant and taking a credit where none is left raise the credits of a mailbox. -/
theorem le_or_rise (x : Moment) (m : MailboxNumber) :
    x.after.host.credits m ≤ x.before.host.credits m ∨ x.Wraps m ∨ x.happening = .reset ∨
      x.ticksOf (.creditGrant m) ≠ [] := by
  rcases x.credits_cases m with same | ⟨-, none⟩ | ⟨reads, one⟩ | ⟨all, -⟩
  · exact .inl (UInt8.le_of_eq same)
  · rw [none]
    exact .inl UInt8.zero_le
  · by_cases empty : x.before.host.credits m = Mailbox.noCredits
    · refine .inr (.inl ⟨reads, empty, ?_⟩)
      rw [one, empty]
      rfl
    · have some : 1 ≤ (x.before.host.credits m).toNat :=
        Nat.pos_of_ne_zero fun none => empty (UInt8.toNat_inj.mp none)
      left
      rw [one]
      exact UInt8.sub_le (UInt8.le_iff_toNat_le.mpr some)
  · exact .inr (.inr all)

end Moment

namespace Chip

/-- **Credits come back later.** From none to some, the credits of a mailbox come by a grant, by a reset,
or by taking one where none is left. In a run on the bus alone, and without a reset, they never rise in
any other moment than one of the last kind; without such a moment, no more are left in the end than at
the beginning. -/
theorem credits_rise (chip : Chip) (ops : List Operation) (m : MailboxNumber) :
    (∀ x ∈ chip.history ops, x.before.host.credits m = 0 → x.after.host.credits m ≠ 0 →
      x.Wraps m ∨ x.happening = .reset ∨ x.ticksOf (.creditGrant m) ≠ []) ∧
    ((∀ op ∈ ops, op.isBusCall = true) → (∀ x ∈ chip.history ops, x.happening ≠ .reset) →
      (∀ x ∈ chip.history ops,
        x.Wraps m ∨ x.after.host.credits m ≤ x.before.host.credits m) ∧
      ((∀ x ∈ chip.history ops, ¬ x.Wraps m) →
        (chip.run ops).target.host.credits m ≤ chip.target.host.credits m)) := by
  constructor
  · intro x _ none some
    rcases x.le_or_rise m with le | rise
    · rw [none] at le
      exact absurd (UInt8.le_zero_iff.mp le) some
    · exact rise
  · intro bus noReset
    have step : ∀ x ∈ chip.history ops,
        x.Wraps m ∨ x.after.host.credits m ≤ x.before.host.credits m := by
      intro x mem
      rcases x.le_or_rise m with le | wraps | reset | grant
      · exact .inr le
      · exact .inl wraps
      · exact absurd reset (noReset x mem)
      · have still := still_of_bus bus chip _ (mem_course mem)
        exact absurd (Moment.ticksOf_of_still _ still) grant
    refine ⟨step, fun none => ?_⟩
    have kept := (passes_run ops chip).keeps
      (·.host.credits m ≤ chip.target.host.credits m)
      (fun x mem le => UInt8.le_trans ((step x mem).resolve_left (none x mem)) le)
    exact (kept UInt8.le_rfl).1

/-- A chip whose host has just completed a message in the control mailbox. -/
def spent : Chip := (selected.perform (.command 52 0x901ffe00)).2

theorem reachable_spent : spent.Reachable :=
  .perform _ reachable_selected

/-- Taking a credit where none is left gives the mailbox all of them, on the bus alone. -/
theorem taken_credit_wraps :
    ¬ ∀ chip : Chip, chip.Reachable → ∀ ops : List Operation,
      (∀ op ∈ ops, op.isBusCall = true) → (∀ x ∈ chip.history ops, x.happening ≠ .reset) →
      ∀ m, (chip.run ops).target.host.credits m ≤ chip.target.host.credits m := by
  intro never
  let ops : List Operation := [.command 52 0x1008a000]
  have course : spent.course ops = [.read 0x450] := by decide +kernel
  have noReset : ∀ x ∈ spent.history ops, x.happening ≠ .reset := by
    intro x mem
    have mem := mem_course mem
    rw [course] at mem
    rw [List.mem_singleton.mp mem]
    nofun
  have less := never spent reachable_spent ops (by decide) noReset 0
  have wrapped : ¬ (spent.run ops).target.host.credits 0 ≤ spent.target.host.credits 0 := by
    decide +kernel
  exact wrapped less

end Chip

end WlanCard
