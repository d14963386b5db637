import WlanCard.Firmware
import WlanCard.Proofs.Bootloader
import WlanCard.Proofs.Checked.HostInterface

/-!
# Control messages in steps that can fault

What the bootloader and the firmware read and write in the window of the control mailbox. Both take
it for granted that they are handed a whole window, and both find a message by its length alone:
where it starts is counted back from the end of the window, and its first bytes are taken from there
on.

A message may be longer than the window, and it may be too short to have those first bytes. The one
is cut down to the window and the other is passed over, so every byte is there
(`Window.elements_eq`).
-/

namespace WlanCard

open Checked

namespace Checked

variable {α β : Type}

/-- Results that are right one by one are right in order. -/
theorem mapM_eq {f : α → Checked β} {g : α → β} {xs : List α} (each : ∀ x ∈ xs, f x = .ok (g x)) :
    xs.mapM f = .ok (xs.map g) := by
  induction xs with
  | nil => rfl
  | cons x xs ih =>
    rw [List.mapM_cons]
    refine ok_bind (each x List.mem_cons_self) ?_
    exact ok_bind (ih fun y mem => each y (List.mem_cons_of_mem x mem)) rfl

/-- The `count` elements from `start` on, taken one by one. -/
def elements (xs : List α) (start count : Nat) : Checked (List α) :=
  (List.range count).mapM fun i => do
    let place ← add 64 start i
    get xs place

theorem elements_eq {xs : List α} {start count : Nat} (inside : start + count ≤ xs.length)
    (short : xs.length < 2 ^ 64) :
    elements xs start count = .ok (xs.extract start (start + count)) := by
  have cut : xs.extract start (start + count) = (xs.drop start).take count := by
    rw [List.extract_eq_take_drop, Nat.add_sub_cancel_left]
  by_cases none : xs = []
  · subst none
    obtain ⟨rfl, rfl⟩ : start = 0 ∧ count = 0 := by
      rw [List.length_nil] at inside
      omega
    rfl
  · obtain ⟨first, _⟩ := List.exists_mem_of_ne_nil xs none
    have each : ∀ i ∈ List.range count, (do
        let place ← add 64 start i
        get xs place) = Except.ok (xs.getD (start + i) first) := by
      intro i mem
      have low := List.mem_range.mp mem
      have there : xs[start + i]? = some (xs.getD (start + i) first) := by
        rw [List.getD_eq_getElem?_getD, List.getElem?_eq_getElem (by omega)]
        rfl
      exact ok_bind (add_eq (by omega)) (get_eq there)
    rw [elements, mapM_eq each, cut]
    congr 1
    apply List.ext_getElem
    · simp only [List.length_map, List.length_range, List.length_take, List.length_drop]
      omega
    · intro i low _
      rw [List.length_map, List.length_range] at low
      rw [List.getElem_map, List.getElem_range, List.getElem_take, List.getElem_drop,
        List.getD_eq_getElem?_getD, List.getElem?_eq_getElem (by omega)]
      rfl

end Checked

/-! ## The bootloader -/

namespace Bootloader

/-- Replaces bytes of a window by words, each four bytes behind the last. -/
def checkedStoreWords (start : Nat) :
    (i : Nat) → (words : List UInt32) → (window : List UInt8) → Checked (List UInt8)
  | _, [], window => .ok window
  | i, word :: rest, window => do
    let distance ← mul 64 wordLength i
    let place ← add 64 start distance
    let stop ← add 64 place wordLength
    let stored ← overwrite window place stop (Word.littleEndian wordLength word.toBitVec)
    checkedStoreWords start (i + 1) rest stored

/-- Tells the target's identity at the end of a window. -/
def checkedIdentify (form : IdentityForm) (window : List UInt8) : Checked (List UInt8) := do
  let words := identityWords form
  let start ← sub Window.size (wordLength * words.length)
  checkedStoreWords start 0 words window

/-- Carries out the command of `length` bytes at the end of a window. -/
def checkedHandle (b : Bootloader) (window : List UInt8) (length : Nat) :
    Checked (Option UInt8 × Bootloader × List UInt8) := do
  require (window.length = Window.size) .assertion
  if length < wordLength then return (none, b, window)
  else
    let start ← sub Window.size (min length Window.size)
    let word ← elements window start wordLength
    match BootCommand.ofCode? (Word.ofLittleEndian word) with
    | some .noCommand => return (some 0, b, window)
    | some .done => return (some 0, { b with done := true }, window)
    | some .getTargetId =>
      let answered ← checkedIdentify b.form window
      return (some (UInt8.ofNat (identity b.form).length), b, answered)
    | _ => return (none, b, window)

end Bootloader

/-! ## The firmware -/

namespace Firmware

/-- The ready event, put together in seven bytes. -/
def checkedReadyMessage (f : Firmware) : Checked (List UInt8) := do
  let addressed ← overwrite (List.replicate 7 0) 0 6 f.station.toList
  let ready ← set addressed 6 f.capability
  let payload ← truncate ready FirmwareEvent.maxPayload
  return Word.littleEndian FirmwareEvent.idLength FirmwareEvent.ready.id.toBitVec ++ payload

/-- The firmware after a message of the given length at the end of a window. What it reads of the
message are the frame's length and the number of the command, and it acts on neither. -/
def checkedReceive (f : Firmware) (window : List UInt8) (length : Nat) : Checked Firmware := do
  require (window.length = Window.size) .assertion
  if length < leastCommandLength then return f
  else
    let start ← sub Window.size (min length Window.size)
    let _header ← elements window start leastCommandLength
    let unhandled ← add 64 f.unhandled 1
    return { f with unhandled := unhandled }

end Firmware

/-! ## Without a fault -/

/-- A message that is long enough has its first bytes in the window, be it longer than the window. -/
theorem Window.startOf_add_le {length count : Nat} (enough : count ≤ length)
    (small : count ≤ 2048) : startOf length + count ≤ 2048 := by
  unfold startOf
  omega

theorem Window.elements_eq (w : Window) {start count : Nat} (inside : start + count ≤ 2048) :
    elements w.toList start count = .ok (w.slice start count) := by
  have size : w.toList.length = 2048 := Vector.length_toList
  rw [Checked.elements_eq (by omega) (by omega), slice, Array.toList_extract]
  rfl

namespace Bootloader

theorem checkedStoreWords_eq {start i : Nat} {words : List UInt32} {done rest : List UInt8}
    (place : start + 4 * i = done.length) (fits : 4 * words.length ≤ rest.length)
    (short : (done ++ rest).length < 2 ^ 64) :
    checkedStoreWords start i words (done ++ rest) =
      .ok (done ++ (words.flatMap fun word => Word.littleEndian 4 word.toBitVec)
        ++ rest.drop (4 * words.length)) := by
  induction words generalizing i done rest with
  | nil =>
    rw [List.flatMap_nil, List.append_nil]
    rfl
  | cons word words ih =>
    rw [List.length_cons] at fits
    rw [List.length_append] at short
    let bytes := Word.littleEndian 4 word.toBitVec
    have four : bytes.length = 4 := Word.length_littleEndian ..
    have more : (done ++ bytes).length = done.length + 4 := by
      rw [List.length_append, four]
    have left : (rest.drop bytes.length).length = rest.length - 4 := by
      rw [List.length_drop, four]
    refine ok_bind (mul_eq (show 4 * i < 2 ^ 64 by omega)) ?_
    refine ok_bind (add_eq (show start + 4 * i < 2 ^ 64 by omega)) ?_
    refine ok_bind (add_eq (show start + 4 * i + 4 < 2 ^ 64 by omega)) ?_
    have stored : overwrite (done ++ rest) (start + 4 * i) (start + 4 * i + 4) bytes =
        .ok (done ++ bytes ++ rest.drop bytes.length) :=
      overwrite_append place (by rw [four]) (by omega)
    refine ok_bind stored ?_
    refine (ih (by omega) (by omega) (by rw [List.length_append]; omega)).trans ?_
    rw [four, List.drop_drop, List.flatMap_cons, List.length_cons, List.append_assoc done]
    congr 3
    omega

theorem checkedIdentify_eq (form : IdentityForm) (w : Window) :
    checkedIdentify form w.toList = .ok (w.placeAtEnd (identity form)).toList := by
  obtain ⟨words, fits⟩ := length_identity form
  let start := 2048 - 4 * (identityWords form).length
  have size : w.toList.length = 2048 := Vector.length_toList
  have whole : w.toList = w.toList.take start ++ w.toList.drop start := (List.take_append_drop ..).symm
  have front : (w.toList.take start).length = start := by
    rw [List.length_take]
    omega
  have behind : (w.toList.drop start).drop (4 * (identityWords form).length) = [] := by
    rw [List.drop_drop, List.drop_eq_nil_iff]
    omega
  refine ok_bind (sub_eq (show 4 * (identityWords form).length ≤ 2048 by omega)) ?_
  rw [w.toList_placeAtEnd fits, words]
  conv_lhs => rw [whole]
  refine (checkedStoreWords_eq (show start + 4 * 0 = _ from front.symm) ?_ ?_).trans ?_
  · rw [List.length_drop]
    omega
  · rw [← whole]
    omega
  · rw [behind, List.append_nil]
    rfl

/-- **The bootloader** carries out what the total definition does. -/
theorem checkedHandle_eq (b : Bootloader) (w : Window) (length : Nat) :
    let outcome := b.handle w length
    b.checkedHandle w.toList length =
      .ok (outcome.available, outcome.session, outcome.window.toList) := by
  refine ok_bind (require_eq Vector.length_toList) ?_
  unfold handle
  by_cases short : length < wordLength
  · rw [if_pos short, if_pos short]
    rfl
  · rw [if_neg short, if_neg short]
    have inside := Window.startOf_add_le (Nat.not_lt.mp short) (by decide)
    have command : Word.ofLittleEndian (w.slice (Window.size - min length Window.size) wordLength) =
        commandWord w length := rfl
    refine ok_bind (sub_eq (Nat.min_le_right ..)) (ok_bind (w.elements_eq inside) ?_)
    rw [command]
    cases BootCommand.ofCode? (commandWord w length) with
    | none => rfl
    | some command =>
      cases command with
      | getTargetId => exact ok_bind (checkedIdentify_eq b.form w) rfl
      | _ => rfl

end Bootloader

namespace Firmware

theorem checkedReadyMessage_eq (f : Firmware) : f.checkedReadyMessage = .ok f.readyMessage := by
  have six : f.station.toList.length = 6 := Vector.length_toList
  refine ok_bind (overwrite_eq (by decide) (by rw [six])) ?_
  have stored : (f.station.toList ++ [0]).set 6 f.capability = f.station.toList ++ [f.capability] := by
    rw [List.set_append_right _ _ (Nat.le_of_eq six), six]
    rfl
  have inside : 6 < (f.station.toList ++ [0]).length := by
    rw [List.length_append, six]
    decide
  refine ok_bind (set_eq inside f.capability) ?_
  rw [stored]
  exact ok_bind (truncate_eq ..) rfl

/-- **The firmware** counts a command, if there is room for one more. -/
theorem checkedReceive_eq {f : Firmware} (room : f.unhandled + 1 < 2 ^ 64) (w : Window)
    (length : Nat) : f.checkedReceive w.toList length = .ok (f.receive length) := by
  refine ok_bind (require_eq Vector.length_toList) ?_
  unfold receive
  by_cases short : length < leastCommandLength
  · rw [if_pos short, if_pos short]
    rfl
  · rw [if_neg short, if_neg short]
    have inside := Window.startOf_add_le (Nat.not_lt.mp short) (by decide)
    refine ok_bind (sub_eq (Nat.min_le_right ..)) (ok_bind (w.elements_eq inside) ?_)
    exact ok_bind (add_eq room) rfl

end Firmware

end WlanCard
