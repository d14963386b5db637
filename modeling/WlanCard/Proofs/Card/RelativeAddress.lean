import Mathlib.Data.Nat.ModEq
import WlanCard.Proofs.Card.Responses
import WlanCard.Proofs.Word

/-!
# Relative addresses

A card publishes another address with every command that asks it to, a fixed step from the last one, and
goes back to zero with a reset. So its address is told by the number of addresses that it has published
since the last reset (`publications`, `address_run`); nothing else that is done to a card moves it
(`perform_address`).

The step is odd, so addresses come back only after every other one has been published
(`publication_inj`). A host that selects a card by the address that it was told last selects that card.
-/

namespace WlanCard

/-! ## Publications -/

/-- The number of the command that an operation is. -/
def Card.Operation.number? : Card.Operation → Option UInt8
  | .command number _ => some number
  | _ => none

section

variable {σ : Type}

namespace Turn

theorem publishes_iff (t : Turn σ) :
    t.Publishes ↔ t.operation.number? = some 3 ∧ t.found.card.Legal 3 := by
  obtain ⟨a, op⟩ := t
  constructor
  · rintro ⟨argument, rfl, legal⟩
    exact ⟨rfl, legal⟩
  · rintro ⟨asks, legal⟩
    cases op with
    | command number argument =>
      obtain rfl : number = 3 := Option.some.inj asks
      exact ⟨argument, rfl, legal⟩
    | writeData | readData | setFunctionIrq | setHandler | reset => cases asks

instance (t : Turn σ) : Decidable t.Publishes :=
  decidable_of_iff _ t.publishes_iff.symm

/-- A turn is answered by a relative address, in the first two bytes of a response of that kind. -/
def Tells (fs : Functions σ) (t : Turn σ) (address : Nat) : Prop :=
  ∃ r, (t.found.perform fs t.operation).1 = .response r ∧ r.kind = .r6 ∧ r.bytes.length = 4 ∧
    Word.ofBigEndian (r.bytes.take 2) = address

theorem Tells.unique {fs : Functions σ} {t : Turn σ} {x y : Nat} (first : t.Tells fs x)
    (second : t.Tells fs y) : x = y := by
  obtain ⟨r, answer, -, -, rfl⟩ := first
  obtain ⟨r', answer', -, -, rfl⟩ := second
  cases answer.symm.trans answer'
  rfl

end Turn

variable (fs : Functions σ)

/-- The turns since the last reset. -/
def sinceReset (log : List (Turn σ)) : List (Turn σ) :=
  (log.reverse.takeWhile fun t => !decide (t.Resets fs)).reverse

/-- The number of addresses that a card has published since the last reset. -/
def publications (log : List (Turn σ)) : Nat :=
  (sinceReset fs log).countP fun t => t.Publishes

/-- A turn of a run publishes the `k`-th address since the last reset. -/
def PublishesNth (log : List (Turn σ)) (k : Nat) (t : Turn σ) : Prop :=
  t.Publishes ∧ ∃ before after, log = before ++ t :: after ∧ k = publications fs before + 1

theorem sinceReset_concat (log : List (Turn σ)) (t : Turn σ) :
    sinceReset fs (log ++ [t]) = if t.Resets fs then [] else sinceReset fs log ++ [t] := by
  unfold sinceReset
  rw [List.reverse_concat, List.takeWhile_cons]
  by_cases resets : t.Resets fs <;> simp [resets]

/-- **One more turn** starts the count again, or adds to it what it publishes. -/
theorem publications_concat (log : List (Turn σ)) (t : Turn σ) :
    publications fs (log ++ [t]) =
      if t.Resets fs then 0 else publications fs log + if t.Publishes then 1 else 0 := by
  unfold publications
  rw [sinceReset_concat]
  by_cases resets : t.Resets fs
  · rw [if_pos resets, if_pos resets]
    rfl
  · rw [if_neg resets, if_neg resets, List.countP_append, List.countP_singleton]
    simp only [decide_eq_true_eq]

variable {fs}

/-- Without a reset, what is published adds up. -/
theorem publications_append (log : List (Turn σ)) {more : List (Turn σ)}
    (noReset : ∀ t ∈ more, ¬ t.Resets fs) :
    publications fs (log ++ more) = publications fs log + more.countP fun t => t.Publishes := by
  induction more using List.reverseRecOn with
  | nil => rw [List.append_nil]; rfl
  | append_singleton more t ih =>
    have rest := ih fun u mem => noReset u (List.mem_append_left _ mem)
    have last := noReset t (List.mem_append_right _ (List.mem_singleton_self t))
    rw [← List.append_assoc, publications_concat, if_neg last, rest, List.countP_append,
      List.countP_singleton, Nat.add_assoc]
    simp only [decide_eq_true_eq]

/-- **Where addresses have been published** since the last reset, one of them is the last. -/
theorem last_publication {log : List (Turn σ)} (some : publications fs log ≠ 0) :
    Since (fun before t => t.Publishes ∧ publications fs log = publications fs before + 1)
      (fun t => ¬ t.Publishes ∧ ¬ t.Resets fs) log := by
  induction log using List.reverseRecOn with
  | nil => exact absurd rfl some
  | append_singleton log t ih =>
    rw [publications_concat] at some ⊢
    by_cases resets : t.Resets fs
    · exact absurd (if_pos resets) some
    · rw [if_neg resets] at some ⊢
      by_cases publishes : t.Publishes
      · rw [if_pos publishes]
        exact since_concat.mpr (.inl ⟨publishes, rfl⟩)
      · rw [if_neg publishes] at some ⊢
        exact since_concat.mpr (.inr ⟨ih some, publishes, resets⟩)

end

/-! ## What moves the address -/

namespace Attached

variable {σ : Type} {fs : Functions σ} {a : Attached σ}

/-- **A card that publishes an address** stands by under the next one, and answers with it. -/
theorem command_publishes (fs : Functions σ) (argument : UInt32) (legal : a.card.Legal 3) :
    (a.command fs 3 argument).2.card.standing =
        { a.card.standing with
          phase := .standby
          address := a.card.address + Card.addressStep } ∧
      ∃ flags, (a.command fs 3 argument).1 =
        ⟨.r6, Word.bigEndian 2 (a.card.address + Card.addressStep).toBitVec ++ [flags, 0]⟩ := by
  let found := a.prepare 3 (Command.ofWire 3 argument)
  have same : found.card.standing = a.card.standing := prepare_standing ..
  have address : found.card.address = a.card.address := congrArg Standing.address same
  have executed : a.execute fs 3 argument = (.r6, { found with card := found.card.publishAddress }) :=
    execute_of_legal fs argument legal
  have quiet := command_of_legal fs argument legal
  constructor
  · rw [command_standing, executed, ← same, ← address]
    rfl
  · rw [← address]
    unfold Attached.command at quiet ⊢
    rw [executed] at quiet ⊢
    refine ⟨_, if_neg (Bool.eq_false_iff.mp quiet)⟩

/-- A turn that publishes an address is no reset. -/
theorem not_resets_of_publishes {t : Turn σ} (publishes : t.Publishes) : ¬ t.Resets fs := by
  obtain ⟨a, op⟩ := t
  obtain ⟨argument, rfl, legal⟩ := publishes
  intro resets
  rcases perform_moves fs (.command 3 argument) a with ⟨-, restarted⟩ | ⟨spared, -⟩
  · have phase := congrArg Standing.phase ((command_publishes fs argument legal).1.symm.trans restarted)
    cases phase
  · exact spared resets

/-- **One operation** moves the address of a card only if it resets the card or publishes an address. -/
theorem perform_address (fs : Functions σ) (op : Card.Operation) (a : Attached σ) :
    (a.perform fs op).2.card.address =
      if Turn.Resets fs ⟨a, op⟩ then 0
      else if Turn.Publishes ⟨a, op⟩ then a.card.address + Card.addressStep
      else a.card.address := by
  by_cases publishes : Turn.Publishes ⟨a, op⟩
  · rw [if_neg (not_resets_of_publishes publishes), if_pos publishes]
    obtain ⟨argument, rfl, legal⟩ := publishes
    exact congrArg Standing.address (command_publishes fs argument legal).1
  · rw [if_neg publishes]
    rcases perform_moves fs op a with ⟨resets, restarted⟩ | ⟨spared, moves⟩
    · rw [if_pos resets]
      exact congrArg Standing.address restarted
    · rw [if_neg spared]
      show (a.perform fs op).2.card.standing.address = _
      generalize (a.perform fs op).2.card.standing = after at moves
      cases moves with
      | lasts lasts => rcases lasts with rfl | ⟨-, rfl⟩ <;> rfl
      | @publishes argument legal => exact absurd ⟨argument, rfl, legal⟩ publishes
      | agrees | selects | deselects | deactivates | opens => rfl

end Attached

/-! ## The addresses themselves -/

/-- The address of a card that has published some number of addresses. -/
def Card.addressAfter (k : Nat) : UInt16 :=
  UInt16.ofNat k * addressStep

theorem Card.toNat_addressAfter (k : Nat) : (addressAfter k).toNat = k * 0x4567 % 2 ^ 16 := by
  unfold addressAfter
  rw [UInt16.toNat_mul, UInt16.toNat_ofNat']
  show k % 2 ^ 16 * 0x4567 % 2 ^ 16 = _
  rw [Nat.mod_mul_mod]

theorem Card.addressAfter_zero : addressAfter 0 = 0 :=
  UInt16.zero_mul

theorem Card.addressAfter_succ (k : Nat) : addressAfter (k + 1) = addressAfter k + addressStep := by
  unfold addressAfter
  rw [UInt16.ofNat_add, UInt16.add_mul]
  exact congrArg _ (UInt16.one_mul _)

/-- **The step is odd**, so a round of addresses has all of them. -/
theorem publication_inj {j k : Nat} :
    j * 0x4567 % 2 ^ 16 = k * 0x4567 % 2 ^ 16 ↔ j % 2 ^ 16 = k % 2 ^ 16 := by
  have odd : Nat.gcd (2 ^ 16) 0x4567 = 1 := by decide
  exact ⟨Nat.ModEq.cancel_right_of_coprime odd, Nat.ModEq.mul_right _⟩

/-- The address in the upper half of an argument. -/
theorem Command.toNat_addressArgument (argument : UInt32) :
    (addressArgument argument).toNat = argument.toNat / 2 ^ 16 := by
  have below := argument.toNat_lt
  have amount : (16 : UInt32).toNat % 32 = 16 := rfl
  show (argument >>> 16).toNat % 2 ^ 16 = _
  rw [UInt32.toNat_shiftRight, amount, Nat.shiftRight_eq_div_pow]
  exact Nat.mod_eq_of_lt (by omega)

/-! ## Runs -/

namespace Attached

variable {σ : Type} {fs : Functions σ} {a : Attached σ}

/-- A turn of a run finds the card as the turns before it have left it. -/
theorem history_split {ops : List Card.Operation} {before after : List (Turn σ)} {t : Turn σ}
    (split : a.history fs ops = before ++ t :: after) :
    ∃ earlier, before = a.history fs earlier ∧ t.found = a.run fs earlier := by
  induction before generalizing a ops with
  | nil =>
    cases ops with
    | nil => cases split
    | cons op ops =>
      cases split
      exact ⟨[], rfl, rfl⟩
  | cons first before ih =>
    cases ops with
    | nil => cases split
    | cons op ops =>
      obtain ⟨rfl, rest⟩ := List.cons.inj split
      obtain ⟨earlier, rfl, found⟩ := ih rest
      exact ⟨op :: earlier, rfl, found⟩

/-- **The address of a card** is told by what it has published since the last reset. -/
theorem address_run (fs : Functions σ) (model : CardModel) (s : σ) (ops : List Card.Operation) :
    let start : Attached σ := ⟨Card.new model, s⟩
    (start.run fs ops).card.address = Card.addressAfter (publications fs (start.history fs ops)) := by
  intro start
  refine history_induction
    (fun log b => b.card.address = Card.addressAfter (publications fs log)) (fun log b op now => ?_)
    Card.addressAfter_zero.symm ops
  rw [perform_address, publications_concat, now]
  split
  · exact Card.addressAfter_zero.symm
  · split
    · exact (Card.addressAfter_succ _).symm
    · rfl

/-- A turn that publishes tells the address that the card has after it. -/
theorem tells_of_publishes {t : Turn σ} (publishes : t.Publishes) :
    t.Tells fs (t.left fs).card.address.toNat := by
  obtain ⟨a, op⟩ := t
  obtain ⟨argument, rfl, legal⟩ := publishes
  obtain ⟨standing, flags, answer⟩ := command_publishes fs argument legal
  have address : (Turn.left fs ⟨a, .command 3 argument⟩).card.address =
      a.card.address + Card.addressStep := congrArg Standing.address standing
  refine ⟨_, congrArg Card.Answer.response answer, rfl, ?_, ?_⟩
  · rw [List.length_append, Word.length_bigEndian]
    rfl
  · rw [List.take_left' (Word.length_bigEndian 2 _), Word.ofBigEndian_bigEndian, address]
    exact Nat.mod_eq_of_lt (UInt16.toNat_lt _)

/-- A card that stands by is selected under its own address. -/
theorem command_select (fs : Functions σ) (argument : UInt32) (native : a.card.mode = .native)
    (standby : a.card.phase = .standby) :
    (a.command fs 7 argument).2.card.phase = .command ↔
      argument.toNat / 2 ^ 16 = a.card.address.toNat := by
  have legal : a.card.Legal 7 := ⟨native, .inl standby⟩
  let found := a.prepare 7 (Command.ofWire 7 argument)
  have same : found.card.standing = a.card.standing := prepare_standing ..
  have address : found.card.address = a.card.address := congrArg Standing.address same
  have phase : found.card.phase = .standby := (congrArg Standing.phase same).trans standby
  have selected : (a.command fs 7 argument).2.card.phase =
      (found.card.select (Command.addressArgument argument)).2.phase := by
    show (a.execute fs 7 argument).2.card.phase = _
    rw [execute_of_legal fs argument legal]
    rfl
  rw [selected, ← Command.toNat_addressArgument, ← address, UInt16.toNat_inj]
  unfold Card.select
  rw [phase]
  dsimp only
  split
  next meant => exact iff_of_true rfl meant
  next other => exact iff_of_false (by rw [phase]; nofun) other

/-- A publication counts, with those that follow it. -/
theorem publications_publishing (log : List (Turn σ)) {t : Turn σ} {more : List (Turn σ)}
    (publishes : t.Publishes) (noReset : ∀ u ∈ more, ¬ u.Resets fs) :
    publications fs (log ++ t :: more) =
      publications fs log + 1 + more.countP fun u => u.Publishes := by
  have quiet : ∀ u ∈ t :: more, ¬ u.Resets fs :=
    List.forall_mem_cons.mpr ⟨not_resets_of_publishes publishes, noReset⟩
  have counts : ((t :: more).countP fun u => u.Publishes) = (more.countP fun u => u.Publishes) + 1 :=
    List.countP_cons_of_pos (decide_eq_true publishes)
  rw [publications_append log quiet, counts, Nat.add_assoc, Nat.add_comm 1]

theorem publications_of_published {log : List (Turn σ)} (published : Published fs log) :
    publications fs log ≠ 0 := by
  obtain ⟨before, t, after, rfl, ⟨-, publishes⟩, kept⟩ := published
  rw [publications_publishing before publishes kept]
  exact Nat.ne_of_gt (Nat.add_pos_left (Nat.succ_pos _) _)

/-- **Relative addresses**, in every run of a new card. The `k`-th address that the card publishes since
the last reset is `k` steps from zero; the response to the command tells it in its first two bytes, and
the card keeps it until it publishes the next one or is reset. So two addresses are the same exactly if
their numbers are, up to whole rounds of all addresses: two that are published less than a round apart,
without a reset in between, are different, and zero is told only after a whole number of rounds. A card
that stands by has published an address since the last reset, and is selected exactly by a command that
carries the one that it has published last. -/
theorem addresses_published (fs : Functions σ) (model : CardModel) (s : σ)
    (ops : List Card.Operation) :
    let start : Attached σ := ⟨Card.new model, s⟩
    let log := start.history fs ops
    let now := start.run fs ops
    (∀ k t, PublishesNth fs log k t →
      t.Tells fs (k * 0x4567 % 2 ^ 16) ∧ (t.left fs).card.address.toNat = k * 0x4567 % 2 ^ 16) ∧
    (∀ t ∈ log, ¬ t.Publishes → ¬ t.Resets fs → (t.left fs).card.address = t.found.card.address) ∧
    now.card.address.toNat = publications fs log * 0x4567 % 2 ^ 16 ∧
    (∀ j k t u x y, PublishesNth fs log j t → PublishesNth fs log k u → t.Tells fs x → u.Tells fs y →
      (x = y ↔ j % 2 ^ 16 = k % 2 ^ 16)) ∧
    (∀ (before between after : List (Turn σ)) (t u : Turn σ) (x y : Nat),
      log = before ++ t :: (between ++ u :: after) →
      t.Publishes → u.Publishes → (∀ v ∈ between, ¬ v.Resets fs) →
      (between.countP fun v => v.Publishes) + 1 < 2 ^ 16 → t.Tells fs x → u.Tells fs y → x ≠ y) ∧
    (∀ k t, PublishesNth fs log k t → (t.Tells fs 0 ↔ 2 ^ 16 ∣ k)) ∧
    (now.card.phase = .standby → ∃ x,
      Since (fun _ t => t.Publishes ∧ t.Tells fs x) (fun t => ¬ t.Publishes ∧ ¬ t.Resets fs) log ∧
      ∀ argument, (now.command fs 7 argument).2.card.phase = .command ↔
        argument.toNat / 2 ^ 16 = x) := by
  intro start log now
  have address : now.card.address.toNat = publications fs log * 0x4567 % 2 ^ 16 := by
    rw [← Card.toNat_addressAfter, ← address_run fs model s ops]
  have nth : ∀ k t, PublishesNth fs log k t →
      (t.left fs).card.address.toNat = k * 0x4567 % 2 ^ 16 := by
    rintro k t ⟨publishes, before, after, split, rfl⟩
    obtain ⟨earlier, rfl, found⟩ := history_split split
    unfold Turn.left
    rw [perform_address, if_neg (not_resets_of_publishes publishes), if_pos publishes, found,
      address_run fs model s earlier, ← Card.addressAfter_succ, Card.toNat_addressAfter]
  have told : ∀ k t, PublishesNth fs log k t → t.Tells fs (k * 0x4567 % 2 ^ 16) := fun k t named =>
    nth k t named ▸ tells_of_publishes named.1
  have alike : ∀ j k t u x y, PublishesNth fs log j t → PublishesNth fs log k u → t.Tells fs x →
      u.Tells fs y → (x = y ↔ j % 2 ^ 16 = k % 2 ^ 16) := by
    intro j k t u x y first second tells tells'
    rw [tells.unique (told j t first), tells'.unique (told k u second), publication_inj]
  refine ⟨fun k t named => ⟨told k t named, nth k t named⟩, fun t _ other spared => ?_, address, alike,
    ?_, fun k t named => ?_, fun standby => ?_⟩
  · unfold Turn.left
    rw [perform_address, if_neg spared, if_neg other]
  · intro before between after t u x y split publishes publishes' noReset near tells tells' same
    have first : PublishesNth fs log (publications fs before + 1) t :=
      ⟨publishes, before, _, split, rfl⟩
    have second : PublishesNth fs log (publications fs (before ++ t :: between) + 1) u :=
      ⟨publishes', before ++ t :: between, after, by rw [split, List.append_assoc]; rfl, rfl⟩
    have round := (alike _ _ t u x y first second tells tells').mp same
    rw [publications_publishing before publishes noReset] at round
    omega
  · have zero := publication_inj (j := k) (k := 0)
    rw [Nat.zero_mul, Nat.zero_mod] at zero
    rw [Nat.dvd_iff_mod_eq_zero, ← zero]
    exact ⟨fun tells => (told k t named).unique tells, fun none => none ▸ told k t named⟩
  · have enumerated := run_enumerated fs model s ops
    have native : now.card.mode = .native :=
      enumerated.native fun beginning => by cases standby.symm.trans beginning
    have some := publications_of_published (enumerated.published (.inl standby))
    obtain ⟨before, t, after, split, ⟨publishes, count⟩, kept⟩ := last_publication some
    refine ⟨now.card.address.toNat, ⟨before, t, after, split, ⟨publishes, ?_⟩, kept⟩,
      fun argument => command_select fs argument native standby⟩
    rw [address]
    exact told _ t ⟨publishes, before, after, split, count⟩

/-- The host asks for two addresses, one after the other. -/
def publishing : List Card.Operation :=
  [.command 5 0x00ff8000, .command 3 0, .command 3 0]

/-- It selects the card under the second of them. -/
theorem addresses_published_twice :
    let start : Attached Unit := ⟨Card.new plainModel, ()⟩
    let now := start.run .numbered publishing
    PublishesNth .numbered (start.history .numbered publishing) 2
        ⟨start.run .numbered [.command 5 0x00ff8000, .command 3 0], .command 3 0⟩ ∧
      Turn.Tells .numbered ⟨start.run .numbered [.command 5 0x00ff8000, .command 3 0], .command 3 0⟩
        (2 * 0x4567 % 2 ^ 16) ∧
      now.card.phase = .standby ∧
      (now.command .numbered 7 0x8ace0000).2.card.phase = .command ∧
      (now.command .numbered 7 0x45670000).2.card.phase ≠ .command := by
  intro start now
  obtain ⟨told, -, -, -, -, -, selects⟩ := addresses_published .numbered plainModel () publishing
  have second : PublishesNth .numbered (start.history .numbered publishing) 2
      ⟨start.run .numbered [.command 5 0x00ff8000, .command 3 0], .command 3 0⟩ :=
    ⟨by decide +kernel, start.history .numbered [.command 5 0x00ff8000, .command 3 0], [], rfl,
      by decide +kernel⟩
  have standby : now.card.phase = .standby := by decide +kernel
  obtain ⟨x, -, meant⟩ : ∃ x, _ ∧ ∀ argument,
      (now.command .numbered 7 argument).2.card.phase = .command ↔ argument.toNat / 2 ^ 16 = x :=
    selects standby
  have selected : (now.command .numbered 7 0x8ace0000).2.card.phase = .command := by decide +kernel
  have own := (meant 0x8ace0000).mp selected
  have other : (now.command .numbered 7 0x45670000).2.card.phase ≠ .command := fun taken => by
    have differs : (0x45670000 : UInt32).toNat / 2 ^ 16 ≠ (0x8ace0000 : UInt32).toNat / 2 ^ 16 := by
      decide
    exact differs (((meant 0x45670000).mp taken).trans own.symm)
  exact ⟨second, (told 2 _ second).1, standby, selected, other⟩

end Attached

end WlanCard
