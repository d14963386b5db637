import WlanCard.Proofs.Card.DataPath

/-!
# Transfers to the host

A transfer to the host makes one read for each block that the host begins, with the first byte of
that block, and hands out exactly the bytes that were answered; after the last block it hands out
zeros (`read_transfer_hands_out`). Operations that spare the transfer change none of this.

The invariant of a run is `HasLeft`: of all bytes that were answered so far, those that the host has
not read yet are the rest of the staging buffer, and between two blocks there are none.
-/

namespace WlanCard

/-! ## Counting reads -/

namespace BlockCount

/-- How many of `k` bytes lie in the blocks asked for. -/
def within : BlockCount → (length k : Nat) → Nat
  | .finite count, length, k => min k (count * length)
  | .infinite, _, k => k

theorem within_zero (blocks : BlockCount) (length : Nat) : blocks.within length 0 = 0 := by
  cases blocks with
  | finite count => exact Nat.zero_min _
  | infinite => rfl

theorem within_of_left {blocks : BlockCount} {length k : Nat}
    (left : ¬ blocks.Exhausted length k) :
    blocks.within length k = k ∧ blocks.within length (k + 1) = k + 1 := by
  cases blocks with
  | finite count =>
    have more : k < count * length := Nat.not_le.mp left
    exact ⟨Nat.min_eq_left (Nat.le_of_lt more), Nat.min_eq_left more⟩
  | infinite => exact ⟨rfl, rfl⟩

theorem within_of_exhausted {blocks : BlockCount} {length k : Nat}
    (spent : blocks.Exhausted length k) :
    blocks.within length (k + 1) = blocks.within length k ∧ blocks.within length k ≤ k := by
  cases blocks with
  | finite count =>
    have enough : count * length ≤ k := spent
    exact ⟨(Nat.min_eq_right (Nat.le_succ_of_le enough)).trans (Nat.min_eq_right enough).symm,
      Nat.min_le_left ..⟩
  | infinite => exact spent.elim

end BlockCount

/-- The number of blocks begun grows with the first byte of a block only. -/
theorem begun_succ {length : Nat} (pos : 0 < length) (k : Nat) :
    (k + 1 + length - 1) / length = k / length + 1 ∧
      (k + length - 1) / length = if k % length = 0 then k / length else k / length + 1 := by
  have split := Nat.div_add_mod' k length
  have place := Nat.mod_lt k pos
  have next : k + 1 + length - 1 = k + length := by omega
  refine ⟨by rw [next, Nat.add_div_right k pos], ?_⟩
  split
  next first =>
    refine Nat.div_eq_of_lt_le ?_ ?_
    · omega
    · rw [Nat.succ_mul]
      omega
  next inside =>
    refine Nat.div_eq_of_lt_le ?_ ?_
    · rw [Nat.succ_mul]
      omega
    · rw [Nat.succ_mul, Nat.succ_mul]
      omega

namespace ExtendedRequest

/-- The read that begins block `i` of a transfer. -/
def blockRead (q : ExtendedRequest) (length i : Nat) : Access :=
  .read q.function (q.blockAddress length i) length q.addressing

/-- The reads that byte `j` of a transfer leads to: one, if it is the first of a block. -/
def readsAt (q : ExtendedRequest) (length j : Nat) : List Access :=
  if j % length = 0 ∧ ¬ q.blocks.Exhausted length j then [q.blockRead length (j / length)] else []

/-- The reads of all bytes are one for each block that has been begun. -/
theorem flatMap_readsAt (q : ExtendedRequest) {length : Nat} (pos : 0 < length) (k : Nat) :
    (List.range k).flatMap (q.readsAt length) =
      (List.range ((q.blocks.within length k + length - 1) / length)).map (q.blockRead length) := by
  induction k with
  | zero =>
    rw [q.blocks.within_zero, Nat.zero_add, Nat.div_eq_of_lt (Nat.sub_lt pos Nat.one_pos)]
    rfl
  | succ k ih =>
    rw [List.range_succ, List.flatMap_append, ih, List.flatMap_singleton, readsAt]
    by_cases spent : q.blocks.Exhausted length k
    · rw [(BlockCount.within_of_exhausted spent).1, if_neg fun first => first.2 spent]
      exact List.append_nil _
    · obtain ⟨here, next⟩ := BlockCount.within_of_left spent
      obtain ⟨after, before⟩ := begun_succ pos k
      rw [here, next, after, before]
      by_cases first : k % length = 0
      · rw [if_pos first, if_pos (And.intro first spent), List.range_succ, List.map_append]
        rfl
      · rw [if_neg first, if_neg fun both => first both.1]
        exact List.append_nil _

end ExtendedRequest

/-! ## The staging buffer -/

/-- Of the bytes answered so far, those after the first `k` are the rest of the staging buffer; where
a block begins there are none. -/
def HasLeft (length k : Nat) (answered : List UInt8) (staging : Array UInt8) : Prop :=
  answered.drop k = if k % length = 0 then [] else staging.toList.drop (k % length)

/-- The next byte to be read follows the first `k`. -/
theorem take_drop_succ {k i : Nat} {answered staging : List UInt8}
    (left : answered.drop k = staging.drop i) (place : i < staging.length) :
    answered.take (k + 1) = answered.take k ++ [staging.getD i 0] ∧
      answered.drop (k + 1) = staging.drop (i + 1) := by
  have next : answered[k]? = staging[i]? := by
    have head := congrArg List.head? left
    rwa [List.head?_drop, List.head?_drop] at head
  have rest := congrArg (List.drop 1) left
  rw [List.drop_drop, List.drop_drop] at rest
  refine ⟨?_, rest⟩
  rw [List.take_add_one, next, List.getD_eq_getElem?_getD, List.getElem?_eq_getElem place]
  rfl

/-- Where a byte has been read, the rest of the buffer is what is left. -/
theorem hasLeft_succ {length k : Nat} {answered : List UInt8} {staging : Array UInt8}
    (pos : 0 < length) (size : staging.size = length)
    (rest : answered.drop (k + 1) = staging.toList.drop (k % length + 1)) :
    HasLeft length (k + 1) answered staging := by
  unfold HasLeft
  rcases Nat.lt_or_eq_of_le (Nat.succ_le_of_lt (Nat.mod_lt k pos)) with room | full
  · obtain ⟨-, offset⟩ := Transfer.place_of_room room
    rw [offset, if_neg (Nat.succ_ne_zero _), rest]
  · obtain ⟨-, offset⟩ := Transfer.place_of_full full
    rw [offset, if_pos rfl, rest, List.drop_of_length_le]
    rw [Array.length_toList, size]
    exact Nat.le_of_eq full.symm

/-! ## Runs -/

/-- The bytes that the functions have answered over the data lines. -/
def Card.Event.answered (log : List Card.Event) : List UInt8 :=
  (dataExchanges log).flatMap (·.answer)

/-- How far a transfer to the host has come, which reads it has made and what it has handed out,
after a trace. -/
structure Card.HandsOut (c : Card) (q : ExtendedRequest) (length : Nat) (log : List Card.Event) :
    Prop where
  progress : c.Progress q length (Event.bytesRead log).length
    (HasLeft length (Event.bytesRead log).length (Event.answered log))
  readings : (Event.readings log).map (·.exchanges.map (·.access)) =
    (List.range (Event.bytesRead log).length).map (q.readsAt length)
  reads : (Event.dataExchanges log).map (·.access) =
    (List.range (Event.bytesRead log).length).flatMap (q.readsAt length)
  bytes : Event.bytesRead log =
    (Event.answered log).take (q.blocks.within length (Event.bytesRead log).length) ++
      List.replicate
        ((Event.bytesRead log).length - q.blocks.within length (Event.bytesRead log).length) 0

/-- An event that hands out no byte and makes no access over the data lines changes nothing. -/
theorem Card.HandsOut.keep {c d : Card} {q : ExtendedRequest} {length : Nat} {log : List Card.Event}
    (hands : c.HandsOut q length log) {event : Card.Event} (other : event.operation ≠ .readData)
    (silent : event.answer.byte? = none)
    (quiet : (if event.operation.isData then event.exchanges else []) = [])
    (kept : ∀ staged, c.Progress q length (Event.bytesRead log).length staged →
      d.Progress q length (Event.bytesRead log).length staged) :
    d.HandsOut q length (log ++ [event]) := by
  have read : Event.bytesRead (log ++ [event]) = Event.bytesRead log := by
    rw [Event.bytesRead_concat, silent]
    exact List.append_nil _
  have made : Event.dataExchanges (log ++ [event]) = Event.dataExchanges log := by
    rw [Event.dataExchanges_concat, quiet]
    exact List.append_nil _
  have readings : Event.readings (log ++ [event]) = Event.readings log := by
    rw [Event.readings_concat, if_neg other]
    exact List.append_nil _
  have answered : Event.answered (log ++ [event]) = Event.answered log := by
    rw [Event.answered, made]
    rfl
  exact {
    progress := by rw [read, answered]; exact kept _ hands.progress
    readings := by rw [read, readings]; exact hands.readings
    reads := by rw [read, made]; exact hands.reads
    bytes := by rw [read, answered]; exact hands.bytes }

/-- Once the host reads a byte, the events of the trace say so. -/
theorem Card.HandsOut.read {c d : Card} {q : ExtendedRequest} {length : Nat} {log : List Card.Event}
    (hands : c.HandsOut q length log) {event : Card.Event} (value : UInt8)
    (reads : event.operation = .readData) (handed : event.answer = .byte value)
    (first : event.exchanges.map (·.access) = q.readsAt length (Event.bytesRead log).length)
    (progress : d.Progress q length ((Event.bytesRead log).length + 1)
      (HasLeft length ((Event.bytesRead log).length + 1)
        (Event.answered log ++ event.exchanges.flatMap (·.answer))))
    (bytes : Event.bytesRead log ++ [value] =
      (Event.answered log ++ event.exchanges.flatMap (·.answer)).take
          (q.blocks.within length ((Event.bytesRead log).length + 1)) ++
        List.replicate ((Event.bytesRead log).length + 1 -
          q.blocks.within length ((Event.bytesRead log).length + 1)) 0) :
    d.HandsOut q length (log ++ [event]) := by
  have read : Event.bytesRead (log ++ [event]) = Event.bytesRead log ++ [value] := by
    rw [Event.bytesRead_concat, handed]
    rfl
  have count : (Event.bytesRead log ++ [value]).length = (Event.bytesRead log).length + 1 :=
    List.length_append
  have made : Event.dataExchanges (log ++ [event]) = Event.dataExchanges log ++ event.exchanges := by
    rw [Event.dataExchanges_concat, reads]
    rfl
  have answered : Event.answered (log ++ [event]) =
      Event.answered log ++ event.exchanges.flatMap (·.answer) := by
    rw [Event.answered, made, List.flatMap_append]
    rfl
  constructor
  · rw [read, count, answered]
    exact progress
  · rw [read, count, Event.readings_concat, if_pos reads, List.map_append, hands.readings,
      List.range_succ, List.map_append, List.map_singleton, List.map_singleton, first]
  · rw [read, count, made, List.map_append, hands.reads, List.range_succ, List.flatMap_append,
      List.flatMap_singleton, first]
  · rw [read, count, answered]
    exact bytes

namespace Attached

open Card

variable {σ : Type} {fs : Functions σ} {a : Attached σ} {q : ExtendedRequest} {length : Nat}
  {log : List Event}

/-- After the last block the host reads zeros. -/
theorem handsOut_over (hands : a.card.HandsOut q length log) (idle : a.card.phase = .command)
    (spent : q.blocks.Exhausted length (Event.bytesRead log).length) :
    (a.perform fs .readData).2.card.HandsOut q length (log ++ [a.event fs .readData]) := by
  have noTransfer : a.card.phase ≠ .transfer := by rw [idle]; decide
  have lost := exchanges_readData_lost fs (readData_idle fs.observed (a := a.watched) noTransfer)
  obtain ⟨same, le⟩ := BlockCount.within_of_exhausted spent
  have idle' : (a.perform fs .readData).2.card.phase = .command := by
    rw [perform, readData_idle fs noTransfer]
    exact idle
  refine hands.read 0 rfl ?_ ?_ (.inl ⟨Transfer.exhausted_succ spent, idle'⟩) ?_
  · rw [event, perform, readData_idle fs noTransfer]
  · rw [event, lost, ExtendedRequest.readsAt, if_neg fun both => both.2 spent]
    rfl
  · rw [event, lost, same, Nat.succ_sub le, List.replicate_succ', ← List.append_assoc]
    exact congrArg (· ++ [0]) (hands.bytes.trans (by rw [List.flatMap_nil, List.append_nil]))

/-- What the functions answer for the byte about to be read: a block, if one begins with it. -/
def fetchedAnswer (fs : Functions σ) (t : Transfer) (s : σ) : List UInt8 :=
  if t.offset = 0 then (fs.read t.function t.start t.blockLength t.addressing s).1 else []

/-- Once a block has been fetched where it begins, the bytes that are left are those of the staging
buffer. -/
theorem fetched (fs : Functions σ) (s : σ) {t : Transfer} {k : Nat} {answered : List UInt8}
    (stands : t.StandsAt q length k) (enough : k ≤ answered.length)
    (holds : HasLeft length k answered t.staging) :
    let taken := (beforeTake fs t s).1
    let answered' := answered ++ fetchedAnswer fs t s
    answered'.take k = answered.take k ∧ answered'.drop k = taken.toList.drop (k % length) ∧
      taken.size = length := by
  intro taken answered'
  rw [HasLeft] at holds
  by_cases first : t.offset = 0
  · have begins : k % length = 0 := stands.offset.symm.trans first
    let answer := (fs.read t.function t.start t.blockLength t.addressing s).1
    have buffer : taken = answer.toArray := by
      simp only [taken, beforeTake, if_pos first, answer]
    have grown : answered' = answered ++ answer := by
      simp only [answered', fetchedAnswer, if_pos first, answer]
    have none : answered.length = k := by
      rw [if_pos begins, List.drop_eq_nil_iff] at holds
      exact Nat.le_antisymm holds enough
    rw [grown, buffer, begins, List.drop_left' none, List.take_left' none, List.take_of_length_le]
    · refine ⟨rfl, rfl, ?_⟩
      rw [List.size_toArray, fs.length_read, stands.blockLength]
    · exact Nat.le_of_eq none
  · have inside : k % length ≠ 0 := stands.offset ▸ first
    have buffer : taken = t.staging := by
      simp only [taken, beforeTake, if_neg first]
    have same : answered' = answered := by
      simp only [answered', fetchedAnswer, if_neg first, List.append_nil]
    rw [if_neg inside] at holds
    rw [same, buffer]
    exact ⟨rfl, holds, stands.size⟩

/-- The byte that is read is the next one that was answered. -/
theorem hasLeft_read (fs : Functions σ) (s : σ) {t : Transfer} {k : Nat} {answered : List UInt8}
    (pos : 0 < length) (stands : t.StandsAt q length k) (enough : k ≤ answered.length)
    (holds : HasLeft length k answered t.staging) :
    let taken := (beforeTake fs t s).1
    let answered' := answered ++ fetchedAnswer fs t s
    answered'.take (k + 1) = answered.take k ++ [taken.getD t.offset 0] ∧
      HasLeft length (k + 1) answered' taken ∧ taken.size = length := by
  intro taken answered'
  obtain ⟨before, rest, size⟩ := fetched fs s stands enough holds
  have place : k % length < taken.toList.length :=
    Nat.lt_of_lt_of_eq (Nat.mod_lt _ pos) (Array.length_toList.trans size).symm
  obtain ⟨byte, after⟩ := take_drop_succ rest place
  refine ⟨?_, hasLeft_succ pos size after, size⟩
  rw [byte, before, stands.offset, List.getD_eq_getElem?_getD, Array.getElem?_toList,
    Array.getD_eq_getD_getElem?]

/-- While data flows, the host reads the next byte that was answered. -/
theorem handsOut_flowing (hands : a.card.HandsOut q length log) (pos : 0 < length)
    (direction : q.direction = .read) (bound : a.card.handlers.get q.function = .attached)
    (left : ¬ q.blocks.Exhausted length (Event.bytesRead log).length) {t : Transfer}
    (flows : a.card.Flows t) (stands : t.StandsAt q length (Event.bytesRead log).length)
    (holds : HasLeft length (Event.bytesRead log).length (Event.answered log) t.staging) :
    (a.perform fs .readData).2.card.HandsOut q length (log ++ [a.event fs .readData]) := by
  have towards : t.direction = .read := stands.direction.trans direction
  have attached := stands.bound bound
  obtain ⟨here, next⟩ := BlockCount.within_of_left left
  have bytes : Event.bytesRead log =
      (Event.answered log).take (Event.bytesRead log).length := by
    have all := hands.bytes
    rwa [here, Nat.sub_self, List.replicate_zero, List.append_nil] at all
  have enough : (Event.bytesRead log).length ≤ (Event.answered log).length := by
    have short := congrArg List.length bytes
    rw [List.length_take] at short
    omega
  have answer : (a.exchanges fs .readData).flatMap (·.answer) = fetchedAnswer fs t a.device := by
    rw [exchanges_readData_flowing fs flows towards attached, fetchedAnswer]
    split
    · exact List.flatMap_singleton ..
    · rfl
  obtain ⟨byte, after, size⟩ := hasLeft_read fs a.device pos stands enough holds
  rw [← answer] at byte after
  have read := readData_flowing fs flows towards attached
  refine hands.read ((beforeTake fs t a.device).1.getD t.offset 0) rfl ?_ ?_ ?_ ?_
  · rw [event, perform, read]
  · rw [event, exchanges_readData_flowing fs flows towards attached, stands.offset,
      ExtendedRequest.readsAt]
    by_cases first : (Event.bytesRead log).length % length = 0
    · rw [if_pos first, if_pos (And.intro first left), ExtendedRequest.blockRead, ← stands.start,
        stands.function, stands.addressing, stands.blockLength]
      rfl
    · rw [if_neg first, if_neg fun both => first both.1]
      rfl
  · rw [perform, read]
    exact progress_proceed flows stands pos left size after
  · rw [next, Nat.sub_self, List.replicate_zero, List.append_nil]
    refine Eq.trans ?_ byte.symm
    rw [← bytes]

/-- A byte written against the direction is nothing to the transfer. -/
theorem handsOut_writeData (hands : a.card.HandsOut q length log) (direction : q.direction = .read)
    (value : UInt8) :
    (a.perform fs (.writeData value)).2.card.HandsOut q length
      (log ++ [a.event fs (.writeData value)]) := by
  have lost : ∀ {τ : Type} (gs : Functions τ) (s : τ),
      Attached.writeData gs value ⟨a.card, s⟩ = ⟨a.card, s⟩ := by
    intro τ gs s
    rcases hands.progress with ⟨spent, idle⟩ | ⟨left, t, flows, stands, -⟩
    · exact writeData_idle gs value (by rw [idle]; decide)
    · exact writeData_against gs value flows (stands.direction.trans direction)
  have same : (a.perform fs (.writeData value)).2.card = a.card := by
    rw [perform, lost fs a.device]
  refine hands.keep nofun rfl ?_ fun staged progress => same ▸ progress
  exact exchanges_writeData_lost fs value (lost fs.observed _)

/-- Every operation that spares a transfer to the host keeps it handing out. -/
theorem handsOut_perform (hands : a.card.HandsOut q length log) (pos : 0 < length)
    (direction : q.direction = .read) (bound : a.card.handlers.get q.function = .attached)
    {op : Operation} (spares : op.Spares a.card q.function) :
    (a.perform fs op).2.card.HandsOut q length (log ++ [a.event fs op]) := by
  cases op with
  | readData =>
    rcases hands.progress with ⟨spent, idle⟩ | ⟨left, t, flows, stands, holds⟩
    · exact handsOut_over hands idle spent
    · exact handsOut_flowing hands pos direction bound left flows stands holds
  | writeData value => exact handsOut_writeData hands direction value
  | command _ _ | setFunctionIrq _ _ =>
    exact hands.keep nofun rfl rfl fun staged progress =>
      perform_spared_progress fs progress spares rfl
  | setHandler _ _ | reset => exact spares.elim

/-- **A transfer to the host hands out exactly what the function answered**, whatever operations that
spare it come in between: `(n + length - 1) / length` reads for the `n` bytes that lie in the blocks
asked for, each made with the first byte of its block, and zeros after the last byte. The card is in
the transfer phase until that byte. -/
theorem read_transfer_hands_out (fs : Functions σ) {a : Attached σ} {argument : UInt32}
    (idle : a.card.phase = .command)
    (started : (a.command fs extendedNumber argument).2.card.phase = .transfer)
    (direction : (Command.extendedArgument argument).direction = .read)
    (bound : a.card.handlers.get (Command.extendedArgument argument).function = .attached)
    {ops : List Operation}
    (spares : ∀ op ∈ ops, op.Spares a.card (Command.extendedArgument argument).function) :
    let q := Command.extendedArgument argument
    let length := a.card.blockLengthFor q
    let opened := (a.command fs extendedNumber argument).2
    let trace := opened.trace fs ops
    let k := ops.count .readData
    let n := q.blocks.within length k
    (Event.dataExchanges trace).map (·.access) =
        (List.range ((n + length - 1) / length)).map (q.blockRead length) ∧
      (Event.readings trace).map (·.exchanges.map (·.access)) =
        (List.range k).map (q.readsAt length) ∧
      Event.bytesRead trace = (Event.answered trace).take n ++ List.replicate (k - n) 0 ∧
      (opened.run fs ops).card.phase =
        if q.blocks.Exhausted length k then .command else .transfer := by
  intro q length opened trace k n
  have opens : a.card.Opens q := (command_extended_opens_iff fs argument idle).mp started
  have wiring : a.card.KeepsWiring opened.card := command_keepsWiring ..
  have start : opened.card.HandsOut q length [] := by
    refine ⟨.inr ⟨q.not_exhausted_zero opens.2.1, _, command_extended_opens fs _ idle opens,
      Transfer.standsAt_new .., ?_⟩, rfl, rfl, ?_⟩
    · exact (if_pos (Nat.zero_mod length)).symm
    · have none : q.blocks.within length (Event.bytesRead []).length = 0 := q.blocks.within_zero length
      rw [none]
      rfl
  have done : (opened.run fs ops).card.HandsOut q length trace :=
    run_spared (fun log c => c.HandsOut q length log)
      (fun _ _ _ bound spares hands => handsOut_perform hands opens.2.1 direction bound spares)
      wiring bound spares start
  obtain ⟨progress, readings, reads, bytes⟩ := done
  have count : (Event.bytesRead trace).length = k := length_bytesRead_trace fs ops opened
  rw [count] at progress readings reads bytes
  exact ⟨reads.trans (q.flatMap_readsAt opens.2.1 k), readings, bytes, progress.phase⟩

/-- Five bytes asked of two blocks of two, with a direct read of the function, a byte written against
the direction and an interrupt line in between. -/
def fiveReads : List Operation :=
  [.readData, .command directNumber 0x10002000, .readData, .writeData 9, .readData,
    .setFunctionIrq 0 true, .readData, .readData]

theorem read_transfer_hands_out_two_blocks :
    (numbered.command .numbered extendedNumber 0x1c010202).2.card.phase = .transfer ∧
      (Event.dataExchanges ((numbered.command .numbered extendedNumber 0x1c010202).2.trace .numbered
          fiveReads)).map (·.access) =
        [.read 1 0x81 2 .incrementing, .read 1 0x83 2 .incrementing] ∧
      Event.bytesRead ((numbered.command .numbered extendedNumber 0x1c010202).2.trace .numbered
          fiveReads) = [0x81, 0x82, 0x83, 0x84, 0] ∧
      ((numbered.command .numbered extendedNumber 0x1c010202).2.run .numbered fiveReads).card.phase =
        .command := by
  have idle : numbered.card.phase = .command := by decide +kernel
  have started : (numbered.command .numbered extendedNumber 0x1c010202).2.card.phase = .transfer := by
    decide +kernel
  have spares : ∀ op ∈ fiveReads,
      op.Spares numbered.card (Command.extendedArgument 0x1c010202).function := by decide +kernel
  have handed := read_transfer_hands_out .numbered idle started (by decide +kernel)
    (by decide +kernel) spares
  exact ⟨started, handed.1.trans (by decide +kernel), handed.2.2.1.trans (by decide +kernel),
    handed.2.2.2.trans (by decide +kernel)⟩

end Attached

end WlanCard
