import WlanCard.Proofs.Card.Command

/-!
# How far a transfer has come

A transfer that an extended command asked for stands, after `k` bytes, in block `k / length` at
position `k % length` (`Transfer.StandsAt`). Moving one byte leads to the next such place, or past the
end exactly when the blocks are exhausted (`StandsAt.next`).

`Card.Progress` says the same of the card: after `k` bytes it is back in the command phase if the
blocks are exhausted, and else data flows through a transfer that stands there. Moving a byte makes
progress (`progress_proceed`); whatever keeps the data path keeps it (`Progress.of_keepsFlow`).
-/

namespace WlanCard

/-! ## Counting blocks -/

namespace BlockCount

/-- The number of blocks, or `i` if that is less. -/
def upTo : BlockCount → Nat → Nat
  | .finite count, i => min count i
  | .infinite, i => i

/-- The blocks left after `i` of them. -/
def after : BlockCount → Nat → BlockCount
  | .finite count, i => .finite (count - i)
  | .infinite, _ => .infinite

/-- In blocks of the given length, `k` bytes are all there are. -/
def Exhausted : BlockCount → (length k : Nat) → Prop
  | .finite count, length, k => count * length ≤ k
  | .infinite, _, _ => False

instance : (blocks : BlockCount) → (length k : Nat) → Decidable (blocks.Exhausted length k)
  | .finite count, length, k => inferInstanceAs (Decidable (count * length ≤ k))
  | .infinite, _, _ => inferInstanceAs (Decidable False)

end BlockCount

namespace ExtendedRequest

/-- The register address at which block `i` of a transfer starts. -/
def blockAddress (q : ExtendedRequest) (length i : Nat) : UInt32 :=
  q.address + UInt32.ofNat (i * length) * q.addressing.stride

theorem blockAddress_succ (q : ExtendedRequest) (length i : Nat) :
    q.blockAddress length (i + 1) =
      q.blockAddress length i + UInt32.ofNat length * q.addressing.stride := by
  simp only [blockAddress, Nat.succ_mul, UInt32.ofNat_add, UInt32.add_mul, UInt32.add_assoc]

/-- No request asks for no block at all. -/
theorem not_exhausted_zero (q : ExtendedRequest) {length : Nat} (pos : 0 < length) :
    ¬ q.blocks.Exhausted length 0 := by
  have some : ∀ count, 0 < count → ¬ (BlockCount.finite count).Exhausted length 0 := fun count h =>
    Nat.not_le.mpr (Nat.mul_pos h pos)
  unfold blocks
  split
  · split
    · exact id
    · exact some 512 (by decide)
  next count => exact some q.count (Nat.pos_of_ne_zero count)

end ExtendedRequest

/-! ## The place of a transfer -/

namespace Transfer

/-- The transfer once a byte has passed: within the block, at the next block, or nowhere. -/
def next? (t : Transfer) : Option Transfer :=
  if t.blockDone then
    if t.finishBlock.1 then none else some t.finishBlock.2
  else some t

/-- A transfer is one that `q` asks for, in blocks of the given length. -/
structure Serves (t : Transfer) (q : ExtendedRequest) (length : Nat) : Prop where
  function : t.function = q.function
  direction : t.direction = q.direction
  addressing : t.addressing = q.addressing
  blockLength : t.blockLength = length
  size : t.staging.size = length

/-- A transfer goes to whatever answers the function asked for. -/
theorem Serves.bound {t : Transfer} {q : ExtendedRequest} {length : Nat} (serves : t.Serves q length)
    {handlers : Vector Handler 8} {handler : Handler} (bound : handlers.get q.function = handler) :
    handlers.get t.function = handler := by
  simpa only [serves.function] using bound

/-- A transfer has come to position `offset` of block `block`. -/
structure ReachesIn (t : Transfer) (q : ExtendedRequest) (length block offset : Nat) : Prop
    extends t.Serves q length where
  blocks : t.blocks = q.blocks.after block
  start : t.start = q.blockAddress length block
  offset : t.offset = offset

/-- A transfer stands after `k` bytes. -/
abbrev StandsAt (t : Transfer) (q : ExtendedRequest) (length k : Nat) : Prop :=
  t.ReachesIn q length (k / length) (k % length)

theorem standsAt_new (q : ExtendedRequest) (length : Nat) :
    (Card.transferFor q length).StandsAt q length 0 where
  function := rfl
  direction := rfl
  addressing := rfl
  blockLength := rfl
  size := Array.size_replicate
  blocks := by
    rw [Nat.zero_div]
    change q.blocks = _
    cases q.blocks <;> rfl
  start := by
    rw [Nat.zero_div]
    have none : UInt32.ofNat 0 = 0 := rfl
    simp only [Card.transferFor, new, ExtendedRequest.blockAddress, Nat.zero_mul, none,
      UInt32.zero_mul, UInt32.add_zero]
  offset := (Nat.zero_mod length).symm

/-- One byte further within a block, whatever it has left in the staging buffer. -/
theorem ReachesIn.step {t : Transfer} {q : ExtendedRequest} {length block offset : Nat}
    (reaches : t.ReachesIn q length block offset) {staging : Array UInt8}
    (size : staging.size = length) :
    { t with offset := t.offset + 1, staging := staging : Transfer }.ReachesIn q length block
      (offset + 1) where
  function := reaches.function
  direction := reaches.direction
  addressing := reaches.addressing
  blockLength := reaches.blockLength
  size := size
  blocks := reaches.blocks
  start := reaches.start
  offset := congrArg (· + 1) reaches.offset

/-- The first byte of the next block. -/
theorem ReachesIn.nextBlock {t : Transfer} {q : ExtendedRequest} {length block offset : Nat}
    (reaches : t.ReachesIn q length block offset) {blocks : BlockCount}
    (counted : blocks = q.blocks.after (block + 1)) :
    ({ t with blocks := blocks } : Transfer).nextBlock.ReachesIn q length (block + 1) 0 where
  function := reaches.function
  direction := reaches.direction
  addressing := reaches.addressing
  blockLength := reaches.blockLength
  size := reaches.size
  blocks := counted
  start := by
    rw [q.blockAddress_succ, ← reaches.start, ← reaches.blockLength, ← reaches.addressing]
    rfl
  offset := rfl

theorem ReachesIn.blockDone_iff {t : Transfer} {q : ExtendedRequest} {length block offset : Nat}
    (reaches : t.ReachesIn q length block offset) : t.blockDone = true ↔ length ≤ offset := by
  rw [blockDone, reaches.blockLength, reaches.offset, decide_eq_true_iff]

/-- The byte after the last one of a block starts the next block. -/
theorem place_of_full {length k : Nat} (full : k % length + 1 = length) :
    (k + 1) / length = k / length + 1 ∧ (k + 1) % length = 0 := by
  have pos : 0 < length := by omega
  have split := Nat.div_add_mod k length
  refine (Nat.div_mod_unique pos).mpr ⟨?_, pos⟩
  rw [Nat.mul_succ]
  omega

/-- Any other byte is followed by one of the same block. -/
theorem place_of_room {length k : Nat} (room : k % length + 1 < length) :
    (k + 1) / length = k / length ∧ (k + 1) % length = k % length + 1 := by
  have split := Nat.div_add_mod k length
  refine (Nat.div_mod_unique (by omega)).mpr ⟨?_, room⟩
  omega

/-- What is over stays over. -/
theorem exhausted_succ {blocks : BlockCount} {length k : Nat} (spent : blocks.Exhausted length k) :
    blocks.Exhausted length (k + 1) := by
  cases blocks with
  | finite count => exact Nat.le_succ_of_le spent
  | infinite => exact spent

/-- A transfer of finitely many blocks is over with the last byte of the last block. -/
theorem exhausted_iff (blocks : BlockCount) {length k : Nat} (pos : 0 < length) :
    blocks.Exhausted length k ↔ ∃ count, blocks = .finite count ∧ count ≤ k / length := by
  cases blocks with
  | finite count =>
    simp only [BlockCount.Exhausted, BlockCount.finite.injEq, exists_eq_left',
      Nat.le_div_iff_mul_le pos]
  | infinite => simp only [BlockCount.Exhausted, reduceCtorEq, false_and, exists_false]

/-- What comes after `k` bytes: the end if the blocks are exhausted, or else the place of the next
byte, with the staging buffer given. -/
def Continues (next : Option Transfer) (q : ExtendedRequest) (length k : Nat)
    (staging : Array UInt8) : Prop :=
  (q.blocks.Exhausted length k ∧ next = none) ∨
    (¬ q.blocks.Exhausted length k ∧
      ∃ v, next = some v ∧ v.StandsAt q length k ∧ v.staging = staging)

/-- Within a block the transfer stays as the byte left it. -/
theorem continues_of_room {u : Transfer} {q : ExtendedRequest} {length k : Nat}
    (pos : 0 < length) (left : ¬ q.blocks.Exhausted length k)
    (reaches : u.ReachesIn q length (k / length) (k % length + 1))
    (room : k % length + 1 < length) : Continues u.next? q length (k + 1) u.staging := by
  obtain ⟨block, offset⟩ := place_of_room room
  have open' : u.blockDone = false := by
    rw [Bool.eq_false_iff, ne_eq, reaches.blockDone_iff]
    exact Nat.not_le.mpr room
  refine .inr ⟨?_, u, ?_, ?_, rfl⟩
  · rwa [exhausted_iff _ pos, block, ← exhausted_iff _ pos]
  · rw [next?, open']
    rfl
  · rwa [StandsAt, block, offset]

/-- The last byte of a block leads to the next block, or past the end after the last one. -/
theorem continues_of_full {u : Transfer} {q : ExtendedRequest} {length k : Nat}
    (left : ¬ q.blocks.Exhausted length k)
    (reaches : u.ReachesIn q length (k / length) (k % length + 1))
    (full : k % length + 1 = length) : Continues u.next? q length (k + 1) u.staging := by
  have pos : 0 < length := by omega
  obtain ⟨block, offset⟩ := place_of_full full
  have done : u.blockDone = true := reaches.blockDone_iff.mpr (Nat.le_of_eq full.symm)
  have here := reaches.blocks
  rw [exhausted_iff _ pos] at left
  simp only [Continues, exhausted_iff _ pos, StandsAt, block, offset]
  rw [next?, if_pos done]
  cases asked : q.blocks with
  | infinite =>
    rw [asked] at here
    have counted : u.blocks = q.blocks.after (k / length + 1) := by rw [here, asked]; rfl
    right
    refine ⟨by simp, u.nextBlock, ?_, reaches.nextBlock counted, rfl⟩
    rw [finishBlock, here]
    rfl
  | finite count =>
    rw [asked] at here
    simp only [asked, BlockCount.finite.injEq, exists_eq_left', Nat.not_le] at left ⊢
    have last : count - k / length - 1 = 0 ↔ count ≤ k / length + 1 := by omega
    by_cases spent : count ≤ k / length + 1
    · left
      refine ⟨spent, ?_⟩
      rw [finishBlock, here]
      simp only [BlockCount.after, last.mpr spent, ↓reduceIte]
    · right
      refine ⟨Nat.not_le.mp spent, _, ?_, reaches.nextBlock rfl, rfl⟩
      rw [finishBlock, here]
      simp only [BlockCount.after, mt last.mp spent, ↓reduceIte, asked]
      rfl

/-- **One byte on**: past the end exactly when the blocks are exhausted, and else at the next place,
with the staging buffer as the byte left it. -/
theorem StandsAt.next {t : Transfer} {q : ExtendedRequest} {length k : Nat}
    (stands : t.StandsAt q length k) (pos : 0 < length) (left : ¬ q.blocks.Exhausted length k)
    {staging : Array UInt8} (size : staging.size = length) :
    Continues { t with offset := t.offset + 1, staging := staging : Transfer }.next? q length (k + 1)
      staging := by
  have reaches := stands.step size
  rcases Nat.lt_or_eq_of_le (Nat.succ_le_of_lt (Nat.mod_lt k pos)) with room | full
  · exact continues_of_room pos left reaches room
  · exact continues_of_full left reaches full

end Transfer

/-! ## The card while data flows -/

namespace Card

/-- Data flows through a transfer: it runs on the selected function and nothing stops it. -/
structure Flows (c : Card) (t : Transfer) : Prop where
  phase : c.phase = .transfer
  clean : c.status.meets Status.dataErrors = false
  activeCommand : c.activeCommand = extendedNumber
  transfer : c.transfer = some t
  functionSelect : c.area.functionSelect = t.function

theorem Flows.openDataPath {c : Card} {t : Transfer} (flows : c.Flows t) :
    c.openDataPath? = some t := by
  simp only [openDataPath?, flows.phase, flows.clean, flows.activeCommand, flows.transfer,
    Bool.not_false, and_self, ↓reduceIte]

theorem openDataPath_eq_none {c : Card} (idle : c.phase ≠ .transfer) : c.openDataPath? = none := by
  simp only [openDataPath?, idle, false_and, ↓reduceIte]

/-- What keeps the data path and leaves no error keeps data flowing. -/
theorem Flows.of_keepsFlow {c d : Card} {t : Transfer} (flows : c.Flows t) (kept : c.KeepsFlow d)
    (clean : d.status.meets Status.dataErrors = false) : d.Flows t where
  phase := kept.phase.trans flows.phase
  clean := clean
  activeCommand := kept.activeCommand.trans flows.activeCommand
  transfer := kept.transfer.trans flows.transfer
  functionSelect := kept.functionSelect.trans flows.functionSelect

/-- The card once a byte has passed through the transfer given. -/
def proceed (c : Card) (t : Transfer) : Card :=
  match t.next? with
  | none => c.endTransfer
  | some next => { c with transfer := some next }

theorem proceed_of_room (c : Card) {t : Transfer} (room : t.blockDone = false) :
    c.proceed t = { c with transfer := some t } := by
  simp only [proceed, Transfer.next?, room, Bool.false_eq_true, ↓reduceIte]

theorem proceed_of_full (c : Card) {t : Transfer} (full : t.blockDone = true) :
    c.proceed t =
      if t.finishBlock.1 then c.endTransfer else { c with transfer := some t.finishBlock.2 } := by
  simp only [proceed, Transfer.next?, full, ↓reduceIte]
  split
  next last => split at last <;> simp_all only [↓reduceIte, reduceCtorEq]
  next more => split at more <;> simp_all only [↓reduceIte, reduceCtorEq, Option.some.injEq]

theorem endTransfer_phase (c : Card) : c.endTransfer.phase = .command := by
  unfold endTransfer
  split <;> rfl

/-- After `k` bytes of a transfer that `q` asked for, the card is back in the command phase if the
blocks are exhausted; else data flows through a transfer that stands there, with a staging buffer as
described. -/
def Progress (c : Card) (q : ExtendedRequest) (length k : Nat) (staged : Array UInt8 → Prop) : Prop :=
  (q.blocks.Exhausted length k ∧ c.phase = .command) ∨
    (¬ q.blocks.Exhausted length k ∧
      ∃ t, c.Flows t ∧ t.StandsAt q length k ∧ staged t.staging)

variable {q : ExtendedRequest} {length k : Nat} {staged : Array UInt8 → Prop}

/-- The transfer is over exactly when the blocks are exhausted. -/
theorem Progress.phase {c : Card} (progress : c.Progress q length k staged) :
    c.phase = if q.blocks.Exhausted length k then .command else .transfer := by
  rcases progress with ⟨spent, idle⟩ | ⟨left, t, flows, -⟩
  · rw [if_pos spent, idle]
  · rw [if_neg left, flows.phase]

/-- What keeps the data path and raises no data error keeps the progress made. -/
theorem Progress.of_keepsFlow {c d : Card} (progress : c.Progress q length k staged)
    (kept : c.KeepsFlow d)
    (clean : c.status.meets Status.dataErrors = false → d.status.meets Status.dataErrors = false) :
    d.Progress q length k staged := by
  rcases progress with ⟨spent, idle⟩ | ⟨left, t, flows, stands⟩
  · exact .inl ⟨spent, kept.phase.trans idle⟩
  · exact .inr ⟨left, t, flows.of_keepsFlow kept (clean flows.clean), stands⟩

theorem Progress.setFunctionIrq {c : Card} (progress : c.Progress q length k staged) (line : Fin 8)
    (level : Bool) : (c.setFunctionIrq line level).Progress q length k staged :=
  progress.of_keepsFlow (c.setFunctionIrq_keepsFlow line level) id

/-- **A byte makes progress**: the card is at the next place, or back in the command phase. -/
theorem progress_proceed {c : Card} {t : Transfer} (flows : c.Flows t)
    (stands : t.StandsAt q length k) (pos : 0 < length) (left : ¬ q.blocks.Exhausted length k)
    {staging : Array UInt8} (size : staging.size = length) (held : staged staging) :
    (c.proceed { t with offset := t.offset + 1, staging := staging }).Progress q length (k + 1)
      staged := by
  rcases stands.next pos left size with ⟨spent, last⟩ | ⟨more, v, next, there, same⟩
  · refine .inl ⟨spent, ?_⟩
    rw [proceed, last]
    exact endTransfer_phase c
  · refine .inr ⟨more, v, ?_, there, same ▸ held⟩
    rw [proceed, next]
    exact {
      phase := flows.phase
      clean := flows.clean
      activeCommand := flows.activeCommand
      transfer := rfl
      functionSelect := by
        rw [there.function, ← stands.function]
        exact flows.functionSelect }

end Card

end WlanCard
