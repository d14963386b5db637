import WlanCard.Card.Functions
import WlanCard.Card.Response
import WlanCard.Proofs.Word

/-!
# What responses clear, they report

The two kinds of response that report the status register also clear bits of it. No bit gets lost that way:
an R1 shows each bit that it clears, and an R5 has an error flag for it, on either bus
(`cleared_is_reported`).

That hangs on masks fitting together. Those of an R1 are disjoint, so what it clears is never among the
bits that it takes from before the command. Those that the flags of an R5 stand for are listed in
`errorReport`; together they are the bits that it clears, no more and no less (`covered_errorReport`).
-/

namespace WlanCard

/-! ## Bits of the status -/

/-- Whether bit `i` of a word is set. -/
def wordBit (x : UInt32) (i : Nat) : Bool :=
  x.toBitVec.getLsbD i

theorem wordBit_and (x y : UInt32) (i : Nat) : wordBit (x &&& y) i = (wordBit x i && wordBit y i) :=
  BitVec.getLsbD_and

theorem wordBit_or (x y : UInt32) (i : Nat) : wordBit (x ||| y) i = (wordBit x i || wordBit y i) :=
  BitVec.getLsbD_or

theorem wordBit_andNot (x y : UInt32) (i : Nat) :
    wordBit (x &&& ~~~y) i = (wordBit x i && !wordBit y i) :=
  Word.getLsbD_andNot ..

/-- Words with the same bits are the same. -/
theorem eq_of_wordBit {x y : UInt32} (same : ∀ i, wordBit x i = wordBit y i) : x = y :=
  UInt32.toBitVec_inj.mp (BitVec.eq_of_getLsbD_eq fun i _ => same i)

/-- Masks without a common bit. -/
theorem wordBit_of_disjoint {x y : UInt32} (disjoint : x &&& y = 0) {i : Nat}
    (inside : wordBit x i = true) : wordBit y i = false := by
  have neither : wordBit (x &&& y) i = false := by
    rw [disjoint]
    exact BitVec.getLsbD_zero
  rwa [wordBit_and, inside, Bool.true_and] at neither

namespace Status

/-- From one status to the next the bits of a mask are cleared, and no other bit changes. -/
def Loses (mask : UInt32) (before after : Status) : Prop :=
  ∀ i, wordBit after.bits i = (wordBit before.bits i && !wordBit mask i)

theorem loses_clear (s : Status) (mask : UInt32) : Loses mask s (s.clear mask) :=
  wordBit_andNot s.bits mask

/-- What has gone was a bit of the mask. -/
theorem Loses.mask_of_gone {mask : UInt32} {before after : Status} (loses : Loses mask before after)
    {i : Nat} (there : wordBit before.bits i = true) (gone : wordBit after.bits i = false) :
    wordBit mask i = true := by
  have bit := loses i
  rwa [there, gone, Bool.true_and, eq_comm, Bool.not_eq_false'] at bit

theorem meets_or (s : Status) (x y : UInt32) : s.meets (x ||| y) = (s.meets x || s.meets y) := by
  have distributes : s.meet (x ||| y) = s.meet x ||| s.meet y := by
    apply UInt32.toBitVec_inj.mp
    exact BitVec.and_or_distrib_left
  rw [Bool.eq_iff_iff, Bool.or_eq_true]
  simp only [meets, bne_iff_ne, distributes, ne_eq, UInt32.or_eq_zero_iff, not_and_or]

/-- What is set of a mask is decided by the bits of the mask. -/
theorem meet_eq_iff {s t : Status} {mask : UInt32} :
    s.meet mask = t.meet mask ↔
      ∀ i, wordBit mask i = true → wordBit s.bits i = wordBit t.bits i := by
  constructor
  · intro same i inside
    have bit : wordBit (s.bits &&& mask) i = wordBit (t.bits &&& mask) i := congrArg (wordBit · i) same
    rwa [wordBit_and, wordBit_and, inside, Bool.and_true, Bool.and_true] at bit
  · intro same
    refine eq_of_wordBit fun i => ?_
    unfold meet
    rw [wordBit_and, wordBit_and]
    cases inside : wordBit mask i with
    | false => rw [Bool.and_false, Bool.and_false]
    | true => rw [same i inside]

end Status

namespace Response

/-! ## Flags and the bits that they stand for -/

/-- Flags of a byte, each with the bits of the status that it stands for. -/
abbrev Report := List (Fin 8 × UInt32)

/-- The bits that the flags of a report stand for. -/
def Report.covered (report : Report) : UInt32 :=
  report.foldr (fun entry rest => entry.2 ||| rest) 0

/-- The byte with the flags that a status raises. -/
def Report.flags (report : Report) (status : Status) : UInt8 :=
  report.foldr (fun entry rest => flagAt entry.1 (status.meets entry.2) ||| rest) 0

theorem flagAt_eq_zero_iff (i : Fin 8) (b : Bool) : flagAt i b = 0 ↔ b = false := by
  revert i b
  decide

/-- **No flag is raised** exactly if none of the bits is set that the flags stand for. -/
theorem Report.flags_eq_zero_iff (report : Report) (status : Status) :
    report.flags status = 0 ↔ status.meets report.covered = false := by
  induction report with
  | nil =>
    refine iff_of_true rfl ?_
    show (status.bits &&& 0 != 0) = false
    rw [UInt32.and_zero]
    rfl
  | cons entry report ih =>
    show flagAt entry.1 _ ||| flags report status = 0 ↔ status.meets (entry.2 ||| covered report) = false
    rw [UInt8.or_eq_zero_iff, flagAt_eq_zero_iff, ih, Status.meets_or, Bool.or_eq_false_iff]

/-- What flags are raised depends on no bit but those that they stand for. -/
theorem Report.flags_congr {report : Report} {s t : Status}
    (same : ∀ i, wordBit report.covered i = true → wordBit s.bits i = wordBit t.bits i) :
    report.flags s = report.flags t := by
  induction report with
  | nil => rfl
  | cons entry report ih =>
    have covers (i : Nat) : wordBit (covered (entry :: report)) i =
        (wordBit entry.2 i || wordBit (covered report) i) := wordBit_or ..
    have first : s.meet entry.2 = t.meet entry.2 :=
      Status.meet_eq_iff.mpr fun i inside => same i (by rw [covers, inside, Bool.true_or])
    have rest : flags report s = flags report t :=
      ih fun i inside => same i (by rw [covers, inside, Bool.or_true])
    show flagAt entry.1 (s.meet entry.2 != 0) ||| flags report s = _
    rw [first, rest]
    rfl

/-- The error flags of an R5. -/
def errorReport : BusMode → Report
  | .native =>
    [(7, Status.Flag.commandCrcError.mask), (6, Status.Flag.illegalCommand.mask), (3, nativeErrorMask),
      (1, Status.Flag.addressError.mask), (0, Status.Flag.outOfRange.mask)]
  | .spi =>
    [(6, spiErrorMask), (4, Status.Flag.addressError.mask), (3, Status.Flag.commandCrcError.mask),
      (2, Status.Flag.illegalCommand.mask)]

/-- **The masks fit together**: the error flags stand for the bits that an R5 clears. -/
theorem covered_errorReport (mode : BusMode) : (errorReport mode).covered = directClearMask := by
  cases mode <;> decide

/-- The error flags of an R5, without what its flag byte tells of the phase: two bits on a native bus, where
the byte stands behind two others, and one bit on a serial bus, where it comes first. -/
def errorFlags (r : Response) : BusMode → UInt8
  | .native => r.bytes.getD 2 0 &&& ~~~0x30
  | .spi => r.bytes.getD 0 0 &&& ~~~0x01

/-- An R5 carries the flags of its report. -/
theorem errorFlags_direct (status : Status) (phase : Phase) (mode : BusMode) (data : UInt8) :
    (direct status phase mode data).1.errorFlags mode = (errorReport mode).flags status := by
  -- Flags are told from the phase by where they stand, so all that counts is which of them are raised.
  cases mode with
  | native =>
    have apart : ∀ crc illegal error address range : Bool,
        (flagAt 7 crc ||| flagAt 6 illegal ||| phase.code <<< 4 ||| flagAt 3 error ||| flagAt 1 address
            ||| flagAt 0 range) &&& ~~~0x30 =
          flagAt 7 crc ||| (flagAt 6 illegal ||| (flagAt 3 error ||| (flagAt 1 address
            ||| (flagAt 0 range ||| 0)))) := by
      cases phase <;> decide
    exact apart ..
  | spi =>
    have apart : ∀ error address crc illegal : Bool,
        (flagAt 6 error ||| flagAt 4 address ||| flagAt 3 crc ||| flagAt 2 illegal
            ||| flagAt 0 (phase.code == 0)) &&& ~~~0x01 =
          flagAt 6 error ||| (flagAt 4 address ||| (flagAt 3 crc ||| (flagAt 2 illegal ||| 0))) := by
      cases phase <;> decide
    exact apart ..

/-! ## The status as an R1 shows it -/

/-- The word that an R1 brings is the status, with the carried bits from before the command. -/
theorem word_normal (kind : ResponseKind) (last status : Status) :
    (normal kind last status).1.word = status.meet (~~~carryMask) ||| last.meet carryMask := by
  let bits := status.meet (~~~carryMask) ||| last.meet carryMask
  show UInt32.ofNat (Word.ofBigEndian (Word.bigEndian 4 bits.toBitVec)) = bits
  rw [Word.ofBigEndian_bigEndian, UInt32.toNat_toBitVec,
    Nat.mod_eq_of_lt (show bits.toNat < 256 ^ 4 from bits.toNat_lt), UInt32.ofNat_toNat]

theorem wordBit_normal (kind : ResponseKind) (last status : Status) (i : Nat) :
    wordBit (normal kind last status).1.word i =
      wordBit (if wordBit carryMask i then last.bits else status.bits) i := by
  rw [word_normal]
  unfold Status.meet
  rw [wordBit_or, wordBit_andNot, wordBit_and]
  cases wordBit carryMask i <;> simp

/-- What is carried over is class B without the flag of an illegal command. -/
theorem carryMask_eq : carryMask = Status.classB &&& ~~~Status.Flag.illegalCommand.mask := by
  decide

/-- An R1 takes no bit from before the command that it clears. -/
theorem classC_disjoint : Status.classC &&& carryMask = 0 := by
  decide

/-- **No bit of the status is cleared without being reported.** An R1 clears class C, and shows the bits of
the status, with those of class B but the flag of an illegal command as they were before: so each bit that
it clears it shows. An R5 clears the bits of its mask, and its error flags are silent exactly if none of
them is set. They depend on no other bit of the status, nor on the phase or the data byte. -/
theorem cleared_is_reported (status last : Status) :
    (∀ kind,
      let answer := normal kind last status
      Status.Loses Status.classC status answer.2 ∧
      (∀ i, wordBit status.bits i = true → wordBit answer.2.bits i = false →
        wordBit answer.1.word i = true) ∧
      ∀ i, wordBit answer.1.word i =
        if wordBit Status.classB i && !wordBit Status.Flag.illegalCommand.mask i then wordBit last.bits i
        else wordBit status.bits i) ∧
    ∀ phase mode data,
      let answer := direct status phase mode data
      Status.Loses directClearMask status answer.2 ∧
      (answer.1.errorFlags mode = 0 ↔ status.meet directClearMask = 0) ∧
      ∀ (other : Status) (phase : Phase) (data : UInt8),
        (∀ i, wordBit directClearMask i = true → wordBit other.bits i = wordBit status.bits i) →
        (direct other phase mode data).1.errorFlags mode = answer.1.errorFlags mode := by
  refine ⟨fun kind => ?_, fun phase mode data => ?_⟩
  · intro answer
    have loses : Status.Loses Status.classC status answer.2 := status.loses_clear Status.classC
    refine ⟨loses, fun i there gone => ?_, fun i => ?_⟩
    · have current := wordBit_of_disjoint classC_disjoint (loses.mask_of_gone there gone)
      rw [wordBit_normal, current]
      exact there
    · rw [wordBit_normal, carryMask_eq, wordBit_andNot]
      split <;> rfl
  · intro answer
    refine ⟨status.loses_clear directClearMask, ?_, fun other phase data same => ?_⟩
    · rw [errorFlags_direct, Report.flags_eq_zero_iff, covered_errorReport]
      exact bne_eq_false_iff_eq
    · rw [errorFlags_direct, errorFlags_direct]
      exact Report.flags_congr (covered_errorReport mode ▸ same)

/-- An access to a missing function has raised its error: an R1 shows it, and so do the flags of an R5. -/
theorem cleared_is_reported_missing :
    let status := Status.powerOn.raise Status.Flag.addressError.mask
    wordBit (normal .r1 .powerOn status).1.word 30 = true ∧
      (direct status .transfer .spi 0xa5).1.errorFlags .spi ≠ 0 ∧
      (direct ⟨Status.Flag.addressError.mask⟩ .command .spi 0).1.errorFlags .spi =
        (direct status .transfer .spi 0xa5).1.errorFlags .spi := by
  intro status
  obtain ⟨shown, flagged⟩ := cleared_is_reported status .powerOn
  obtain ⟨-, silent, alike⟩ := flagged .transfer .spi 0xa5
  exact ⟨(shown .r1).2.1 30 (by decide) (by decide), mt silent.mp (by decide),
    alike ⟨Status.Flag.addressError.mask⟩ .command 0 (Status.meet_eq_iff.mp (by decide))⟩

end Response

end WlanCard
