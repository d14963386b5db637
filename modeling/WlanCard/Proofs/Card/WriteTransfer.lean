import WlanCard.Proofs.Card.DataPath

/-!
# Transfers from the host

A transfer from the host makes one write for each block that the host has completed, in order, with
exactly the bytes of that block (`write_transfer_delivers`). Whatever the host does besides, as long
as it spares the transfer, changes none of them.

The invariant of a run is `HoldsTail`: the staging buffer begins with the bytes of the block that is
not complete yet. A byte extends that tail, and the byte that completes a block finds the whole block
in the buffer.
-/

namespace WlanCard

namespace ExtendedRequest

/-- The writes that a transfer makes of the bytes that the host has sent: one for each complete block
among those asked for. -/
def writes (q : ExtendedRequest) (length : Nat) (bytes : List UInt8) : List Access :=
  (List.range (q.blocks.upTo (bytes.length / length))).map fun i =>
    .write q.function (q.blockAddress length i) ((bytes.drop (i * length)).take length) q.addressing

theorem upTo_le (blocks : BlockCount) (i : Nat) : blocks.upTo i ≤ i := by
  cases blocks with
  | finite count => exact Nat.min_le_right count i
  | infinite => exact Nat.le_refl i

theorem writes_nil (q : ExtendedRequest) (length : Nat) : q.writes length [] = [] := by
  have none : q.blocks.upTo 0 = 0 := Nat.le_zero.mp (upTo_le q.blocks 0)
  rw [writes, List.length_nil, Nat.zero_div, none, List.range_zero, List.map_nil]

/-- A block that is complete stays as it is when a byte is added. -/
theorem writes_prefix (q : ExtendedRequest) {length : Nat} (bytes : List UInt8) (value : UInt8)
    {complete : Nat} (within : complete * length ≤ bytes.length) :
    ((List.range complete).map fun i => Access.write q.function (q.blockAddress length i)
        (((bytes ++ [value]).drop (i * length)).take length) q.addressing) =
      (List.range complete).map fun i => Access.write q.function (q.blockAddress length i)
        ((bytes.drop (i * length)).take length) q.addressing := by
  refine List.map_congr_left fun i mem => ?_
  have before : (i + 1) * length ≤ bytes.length :=
    Nat.le_trans (Nat.mul_le_mul_right length (List.mem_range.mp mem)) within
  rw [Nat.succ_mul] at before
  rw [List.drop_append_of_le_length (by omega), List.take_append_of_le_length]
  rw [List.length_drop]
  omega

/-- A byte that completes no further block adds no write. -/
theorem writes_append_of_same (q : ExtendedRequest) {length : Nat} (bytes : List UInt8)
    (value : UInt8)
    (same : q.blocks.upTo ((bytes.length + 1) / length) = q.blocks.upTo (bytes.length / length)) :
    q.writes length (bytes ++ [value]) = q.writes length bytes := by
  have within : q.blocks.upTo (bytes.length / length) * length ≤ bytes.length :=
    Nat.le_trans (Nat.mul_le_mul_right length (upTo_le ..)) (Nat.div_mul_le_self ..)
  unfold writes
  rw [List.length_append, List.length_singleton, same]
  exact q.writes_prefix bytes value within

/-- Once the blocks are exhausted, no block is added. -/
theorem upTo_of_exhausted (q : ExtendedRequest) {length k : Nat} (pos : 0 < length)
    (spent : q.blocks.Exhausted length k) :
    q.blocks.upTo ((k + 1) / length) = q.blocks.upTo (k / length) := by
  have later := Transfer.exhausted_succ spent
  rw [Transfer.exhausted_iff _ pos] at spent later
  obtain ⟨count, asked, enough⟩ := spent
  obtain ⟨count', asked', enough'⟩ := later
  obtain rfl : count = count' := BlockCount.finite.inj (asked.symm.trans asked')
  rw [asked]
  exact (Nat.min_eq_left enough').trans (Nat.min_eq_left enough).symm

/-- The byte that completes a block adds the write of it. -/
theorem writes_append_of_full (q : ExtendedRequest) {length : Nat} (bytes : List UInt8)
    (value : UInt8) (left : ¬ q.blocks.Exhausted length bytes.length)
    (full : bytes.length % length + 1 = length) :
    q.writes length (bytes ++ [value]) =
      q.writes length bytes ++
        [.write q.function (q.blockAddress length (bytes.length / length))
          (bytes.drop (bytes.length / length * length) ++ [value]) q.addressing] := by
  have pos : 0 < length := by omega
  have next := (Transfer.place_of_full full).1
  have split := Nat.div_add_mod' bytes.length length
  rw [Transfer.exhausted_iff _ pos] at left
  have all : q.blocks.upTo (bytes.length / length) = bytes.length / length ∧
      q.blocks.upTo (bytes.length / length + 1) = bytes.length / length + 1 := by
    cases asked : q.blocks with
    | infinite => exact ⟨rfl, rfl⟩
    | finite count =>
      simp only [asked, BlockCount.finite.injEq, exists_eq_left', Nat.not_le] at left
      exact ⟨Nat.min_eq_right (by omega), Nat.min_eq_right left⟩
  unfold writes
  rw [List.length_append, List.length_singleton, next, all.1, all.2, List.range_succ,
    List.map_append, q.writes_prefix bytes value (Nat.div_mul_le_self ..), List.map_singleton,
    List.drop_append_of_le_length (Nat.div_mul_le_self ..), List.take_of_length_le]
  rw [List.length_append, List.length_drop, List.length_singleton]
  omega

end ExtendedRequest

/-! ## The staging buffer -/

/-- A staging buffer begins with the bytes after the last complete block. -/
def HoldsTail (length : Nat) (bytes : List UInt8) (staging : Array UInt8) : Prop :=
  staging.toList.take (bytes.length % length) = bytes.drop (bytes.length / length * length)

namespace HoldsTail

variable {length : Nat} {bytes : List UInt8} {staging : Array UInt8}

theorem nil : HoldsTail length [] staging := by
  unfold HoldsTail
  rw [List.length_nil, Nat.zero_mod, List.take_zero, List.drop_nil]

/-- A byte put at its place extends the tail. -/
theorem take_put (holds : HoldsTail length bytes staging) (pos : 0 < length)
    (size : staging.size = length) (value : UInt8) :
    (staging.setIfInBounds (bytes.length % length) value).toList.take (bytes.length % length + 1) =
      bytes.drop (bytes.length / length * length) ++ [value] := by
  have room : bytes.length % length < staging.toList.length := by
    have same : staging.toList.length = length := Array.length_toList.trans size
    rw [same]
    exact Nat.mod_lt _ pos
  rw [Array.toList_setIfInBounds, List.set_eq_take_append_cons_drop, if_pos room, ← holds,
    List.take_append, List.length_take, Nat.min_eq_left (Nat.le_of_lt room),
    Nat.add_sub_cancel_left, List.take_succ_cons, List.take_zero, List.take_of_length_le]
  rw [List.length_take]
  omega

theorem append (holds : HoldsTail length bytes staging) (pos : 0 < length)
    (size : staging.size = length) (value : UInt8) :
    HoldsTail length (bytes ++ [value])
      (staging.setIfInBounds (bytes.length % length) value) := by
  have put := holds.take_put pos size value
  unfold HoldsTail
  rw [List.length_append, List.length_singleton]
  rcases Nat.lt_or_eq_of_le (Nat.succ_le_of_lt (Nat.mod_lt bytes.length pos)) with room | full
  · obtain ⟨block, offset⟩ := Transfer.place_of_room room
    rw [block, offset, put, List.drop_append_of_le_length (Nat.div_mul_le_self ..)]
  · -- the byte completed its block, and nothing of the next one is there yet
    obtain ⟨block, offset⟩ := Transfer.place_of_full full
    have whole := Nat.div_add_mod' (bytes.length + 1) length
    rw [offset, List.take_zero, List.drop_of_length_le]
    rw [List.length_append, List.length_singleton]
    omega

/-- The buffer holds the whole block once its last byte has been put. -/
theorem toList_put (holds : HoldsTail length bytes staging) (size : staging.size = length)
    (value : UInt8) (full : bytes.length % length + 1 = length) :
    (staging.setIfInBounds (bytes.length % length) value).toList =
      bytes.drop (bytes.length / length * length) ++ [value] := by
  have stored : (staging.setIfInBounds (bytes.length % length) value).toList.length = length := by
    rw [Array.length_toList, Array.size_setIfInBounds, size]
  rw [← holds.take_put (by omega) size value, full, List.take_of_length_le (Nat.le_of_eq stored)]

end HoldsTail

/-- A written byte completes a block exactly if it is the last one of it; the function is then handed
that block. -/
theorem Attached.afterPut_put {σ : Type} (fs : Functions σ) (s : σ) {t : Transfer}
    {q : ExtendedRequest} {length : Nat} {sent : List UInt8} (pos : 0 < length)
    (stands : t.StandsAt q length sent.length) (holds : HoldsTail length sent t.staging)
    (value : UInt8) :
    afterPut fs (t.put value) s =
      if sent.length % length + 1 = length then
        fs.write q.function (q.blockAddress length (sent.length / length))
          (sent.drop (sent.length / length * length) ++ [value]) q.addressing s
      else s := by
  have size : (t.staging.setIfInBounds t.offset value).size = length := by
    rw [Array.size_setIfInBounds, stands.size]
  have reaches : (t.put value).ReachesIn q length _ _ := stands.step size
  have place : sent.length % length < length := Nat.mod_lt _ pos
  have done : (t.put value).blockDone = true ↔ sent.length % length + 1 = length :=
    reaches.blockDone_iff.trans ⟨fun le => Nat.le_antisymm place le, fun eq => Nat.le_of_eq eq.symm⟩
  unfold afterPut
  by_cases full : sent.length % length + 1 = length
  · have block := holds.toList_put stands.size value full
    rw [← stands.offset] at block
    rw [if_pos (done.mpr full), if_pos full, ← block, ← stands.start, ← stands.function,
      ← stands.addressing]
    rfl
  · rw [if_neg (mt done.mp full), if_neg full]

/-! ## Runs -/

/-- How far a transfer from the host has come, and which writes it has made, after a trace. -/
structure Card.Delivers (c : Card) (q : ExtendedRequest) (length : Nat) (log : List Card.Event) :
    Prop where
  progress : c.Progress q length (Event.bytesWritten log).length
    (HoldsTail length (Event.bytesWritten log))
  writes : (Event.dataExchanges log).map (·.access) = q.writes length (Event.bytesWritten log)

/-- An event that sends no byte and makes no access over the data lines delivers nothing further. -/
theorem Card.Delivers.keep {c d : Card} {q : ExtendedRequest} {length : Nat} {log : List Card.Event}
    (delivers : c.Delivers q length log) {event : Card.Event}
    (silent : event.operation.byteWritten? = none)
    (quiet : (if event.operation.isData then event.exchanges else []) = [])
    (kept : ∀ staged, c.Progress q length (Event.bytesWritten log).length staged →
      d.Progress q length (Event.bytesWritten log).length staged) :
    d.Delivers q length (log ++ [event]) := by
  have sent : Event.bytesWritten (log ++ [event]) = Event.bytesWritten log := by
    rw [Event.bytesWritten_concat, silent]
    exact List.append_nil _
  have made : Event.dataExchanges (log ++ [event]) = Event.dataExchanges log := by
    rw [Event.dataExchanges_concat, quiet]
    exact List.append_nil _
  constructor
  · rw [sent]
    exact kept _ delivers.progress
  · rw [sent, made]
    exact delivers.writes

namespace Attached

open Card

variable {σ : Type} {fs : Functions σ} {a : Attached σ} {q : ExtendedRequest} {length : Nat}
  {log : List Event}

theorem bytesWritten_writeData (fs : Functions σ) (a : Attached σ) (log : List Event) (value : UInt8) :
    Event.bytesWritten (log ++ [a.event fs (.writeData value)]) = Event.bytesWritten log ++ [value] :=
  Event.bytesWritten_concat ..

theorem dataExchanges_writeData (delivers : a.card.Delivers q length log) (fs : Functions σ)
    (value : UInt8) :
    (Event.dataExchanges (log ++ [a.event fs (.writeData value)])).map (·.access) =
      q.writes length (Event.bytesWritten log) ++
        (a.exchanges fs (.writeData value)).map (·.access) := by
  rw [Event.dataExchanges_concat, List.map_append, delivers.writes]
  rfl

/-- After the last block the host's bytes are lost, and complete nothing. -/
theorem delivers_over (delivers : a.card.Delivers q length log) (pos : 0 < length)
    (idle : a.card.phase = .command)
    (spent : q.blocks.Exhausted length (Event.bytesWritten log).length) (value : UInt8) :
    (a.perform fs (.writeData value)).2.card.Delivers q length
      (log ++ [a.event fs (.writeData value)]) := by
  have noTransfer : a.card.phase ≠ .transfer := by rw [idle]; decide
  have lost := exchanges_writeData_lost fs value (writeData_idle fs.observed value (a := a.watched)
    noTransfer)
  refine ⟨.inl ⟨?_, ?_⟩, ?_⟩
  · rw [bytesWritten_writeData, List.length_append]
    exact Transfer.exhausted_succ spent
  · rw [perform, writeData_idle fs value noTransfer]
    exact idle
  · rw [dataExchanges_writeData delivers, lost, bytesWritten_writeData,
      q.writes_append_of_same _ _ (q.upTo_of_exhausted pos spent)]
    exact List.append_nil _

/-- While data flows, the next byte of the host is delivered with its block. -/
theorem delivers_flowing (delivers : a.card.Delivers q length log) (pos : 0 < length)
    (direction : q.direction = .write) (bound : a.card.handlers.get q.function = .attached)
    (left : ¬ q.blocks.Exhausted length (Event.bytesWritten log).length) {t : Transfer}
    (flows : a.card.Flows t) (stands : t.StandsAt q length (Event.bytesWritten log).length)
    (holds : HoldsTail length (Event.bytesWritten log) t.staging) (value : UInt8) :
    (a.perform fs (.writeData value)).2.card.Delivers q length
      (log ++ [a.event fs (.writeData value)]) := by
  have towards : t.direction = .write := stands.direction.trans direction
  have attached : a.card.handlers.get t.function = .attached := stands.bound bound
  constructor
  · have size : (t.staging.setIfInBounds t.offset value).size = length := by
      rw [Array.size_setIfInBounds, stands.size]
    have put := holds.append pos stands.size value
    rw [← stands.offset] at put
    rw [perform, writeData_flowing fs value flows towards attached, bytesWritten_writeData,
      List.length_append]
    exact progress_proceed flows stands pos left size put
  · rw [dataExchanges_writeData delivers, bytesWritten_writeData,
      exchanges_writeData_flowing fs value flows towards attached,
      afterPut_put fs.observed _ pos stands holds]
    split
    next full =>
      rw [q.writes_append_of_full _ _ left full]
      rfl
    next more =>
      -- the block has room left, so that the byte completes nothing
      have place : (Event.bytesWritten log).length % length < length := Nat.mod_lt _ pos
      have room := Nat.lt_of_le_of_ne (Nat.succ_le_of_lt place) more
      rw [q.writes_append_of_same _ _ (by rw [(Transfer.place_of_room room).1])]
      exact List.append_nil _

/-- A byte read against the direction is nothing to the transfer. -/
theorem delivers_readData (delivers : a.card.Delivers q length log)
    (direction : q.direction = .write) :
    (a.perform fs .readData).2.card.Delivers q length (log ++ [a.event fs .readData]) := by
  have lost : ∀ {τ : Type} (gs : Functions τ) (s : τ),
      Attached.readData gs ⟨a.card, s⟩ = (0, ⟨a.card, s⟩) := by
    intro τ gs s
    rcases delivers.progress with ⟨spent, idle⟩ | ⟨left, t, flows, stands, -⟩
    · exact readData_idle gs (by rw [idle]; decide)
    · exact readData_against gs flows (stands.direction.trans direction)
  have same : (a.perform fs .readData).2.card = a.card := by
    rw [perform, lost fs a.device]
  refine delivers.keep rfl ?_ fun staged progress => same ▸ progress
  exact exchanges_readData_lost fs (lost fs.observed _)

/-- Every operation that spares a transfer from the host keeps it delivering. -/
theorem delivers_perform (delivers : a.card.Delivers q length log) (pos : 0 < length)
    (direction : q.direction = .write) (bound : a.card.handlers.get q.function = .attached)
    {op : Operation} (spares : op.Spares a.card q.function) :
    (a.perform fs op).2.card.Delivers q length (log ++ [a.event fs op]) := by
  cases data : op.isData with
  | false =>
    refine delivers.keep (Operation.byteWritten_eq_none data) ?_ fun staged progress =>
      perform_spared_progress fs progress spares data
    exact if_neg (Bool.eq_false_iff.mp data)
  | true =>
    cases op with
    | writeData value =>
      rcases delivers.progress with ⟨spent, idle⟩ | ⟨left, t, flows, stands, holds⟩
      · exact delivers_over delivers pos idle spent value
      · exact delivers_flowing delivers pos direction bound left flows stands holds value
    | readData => exact delivers_readData delivers direction
    | _ => cases data

/-- **A transfer from the host delivers exactly the host's bytes**, whatever operations that spare it
come in between: one write for each completed block, in order. The card is in the transfer phase
until the last byte of the last block, and ignores every later one. -/
theorem write_transfer_delivers (fs : Functions σ) {a : Attached σ} {argument : UInt32}
    (idle : a.card.phase = .command)
    (started : (a.command fs extendedNumber argument).2.card.phase = .transfer)
    (direction : (Command.extendedArgument argument).direction = .write)
    (bound : a.card.handlers.get (Command.extendedArgument argument).function = .attached)
    {ops : List Operation}
    (spares : ∀ op ∈ ops, op.Spares a.card (Command.extendedArgument argument).function) :
    let q := Command.extendedArgument argument
    let length := a.card.blockLengthFor q
    let opened := (a.command fs extendedNumber argument).2
    let bytes := Operation.bytesWritten ops
    (Event.dataExchanges (opened.trace fs ops)).map (·.access) = q.writes length bytes ∧
      (opened.run fs ops).card.phase =
        (if q.blocks.Exhausted length bytes.length then .command else .transfer) ∧
      (q.blocks.Exhausted length bytes.length →
        ∀ value, (opened.run fs ops).writeData fs value = opened.run fs ops) := by
  intro q length opened bytes
  have opens : a.card.Opens q := (command_extended_opens_iff fs argument idle).mp started
  have wiring : a.card.KeepsWiring opened.card := command_keepsWiring ..
  have start : opened.card.Delivers q length [] := by
    refine ⟨.inr ⟨q.not_exhausted_zero opens.2.1, _, command_extended_opens fs _ idle opens,
      Transfer.standsAt_new .., ?_⟩, ?_⟩
    · exact HoldsTail.nil
    · exact (q.writes_nil length).symm
  have done : (opened.run fs ops).card.Delivers q length (opened.trace fs ops) :=
    run_spared (fun log c => c.Delivers q length log)
      (fun _ _ _ bound spares delivers => delivers_perform delivers opens.2.1 direction bound spares)
      wiring bound spares start
  obtain ⟨progress, writes⟩ := done
  have sent : Event.bytesWritten (opened.trace fs ops) = bytes := by
    rw [Event.bytesWritten, map_operation_trace]
  rw [sent] at progress writes
  refine ⟨writes, progress.phase, fun spent value => writeData_idle fs value ?_⟩
  rw [progress.phase, if_pos spent]
  decide

/-- Five bytes for two blocks of two, with a direct write to the function, a byte read against the
direction and an interrupt line in between. -/
def fiveBytes : List Operation :=
  [.writeData 1, .command directNumber 0x90002063, .writeData 2, .readData, .writeData 3,
    .setFunctionIrq 0 true, .writeData 4, .writeData 5]

theorem write_transfer_delivers_two_blocks :
    (numbered.command .numbered extendedNumber 0x9c010202).2.card.phase = .transfer ∧
      (Event.dataExchanges ((numbered.command .numbered extendedNumber 0x9c010202).2.trace .numbered
          fiveBytes)).map (·.access) =
        [.write 1 0x81 [1, 2] .incrementing, .write 1 0x83 [3, 4] .incrementing] ∧
      ((numbered.command .numbered extendedNumber 0x9c010202).2.run .numbered fiveBytes).card.phase =
        .command := by
  have idle : numbered.card.phase = .command := by decide +kernel
  have started : (numbered.command .numbered extendedNumber 0x9c010202).2.card.phase = .transfer := by
    decide +kernel
  have spares : ∀ op ∈ fiveBytes,
      op.Spares numbered.card (Command.extendedArgument 0x9c010202).function := by decide +kernel
  have delivered := write_transfer_delivers .numbered idle started (by decide +kernel)
    (by decide +kernel) spares
  exact ⟨started, delivered.1.trans (by decide +kernel), delivered.2.1.trans (by decide +kernel)⟩

end Attached

end WlanCard
