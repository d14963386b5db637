import WlanCard.Bootloader
import WlanCard.Proofs.HostInterface.Windows

/-!
# Commands of the bootloader

What the bootloader does with a message is told by its length and its command word (`Commands`): the four
bytes at which the message starts, which is the start of the window if the message is longer than that. The
answer stands at the end of the same window, where the command word may have stood as well
(`handle_window`).
-/

namespace WlanCard

theorem BootCommand.ofCode?_eq_some_iff {word : Nat} {c : BootCommand} :
    ofCode? word = some c ↔ word = c.code := by
  constructor
  · intro found
    unfold ofCode? at found
    split at found <;> cases found <;> rfl
  · rintro rfl
    exact ofCode?_code c

namespace Bootloader

/-- A message is a given command of the bootloader. -/
def Commands (c : BootCommand) (window : Window) (length : Nat) : Prop :=
  wordLength ≤ length ∧ commandWord window length = c.code

instance (c : BootCommand) (window : Window) (length : Nat) :
    Decidable (Commands c window length) :=
  inferInstanceAs (Decidable (_ ∧ _))

/-- A message that is too short is ignored. -/
theorem handle_short (b : Bootloader) (window : Window) {length : Nat}
    (short : length < wordLength) :
    b.handle window length = ⟨none, b, window⟩ ∧ ∀ c, ¬ Commands c window length :=
  ⟨if_pos short, fun _ commands => Nat.not_le_of_lt short commands.1⟩

theorem commands_iff {c : BootCommand} {window : Window} {length : Nat}
    (enough : ¬ length < wordLength) :
    Commands c window length ↔ BootCommand.ofCode? (commandWord window length) = some c :=
  (and_iff_right (Nat.le_of_not_lt enough)).trans BootCommand.ofCode?_eq_some_iff.symm

theorem handle_session (b : Bootloader) (window : Window) (length : Nat) :
    (b.handle window length).session =
      if Commands .done window length then { b with done := true } else b := by
  by_cases short : length < wordLength
  · obtain ⟨ignored, other⟩ := b.handle_short window short
    rw [ignored, if_neg (other .done)]
  · simp only [handle, short, commands_iff short, ↓reduceIte]
    cases BootCommand.ofCode? (commandWord window length) with
    | none => rfl
    | some c => cases c <;> rfl

theorem handle_window (b : Bootloader) (window : Window) (length : Nat) :
    (b.handle window length).window =
      if Commands .getTargetId window length then window.placeAtEnd (identity b.form)
      else window := by
  by_cases short : length < wordLength
  · obtain ⟨ignored, other⟩ := b.handle_short window short
    rw [ignored, if_neg (other .getTargetId)]
  · simp only [handle, short, commands_iff short, ↓reduceIte]
    cases BootCommand.ofCode? (commandWord window length) with
    | none => rfl
    | some c => cases c <;> rfl

theorem handle_available (b : Bootloader) (window : Window) (length : Nat) :
    (b.handle window length).available =
      if Commands .getTargetId window length then some (UInt8.ofNat (identity b.form).length)
      else if Commands .noCommand window length ∨ Commands .done window length then some 0
      else none := by
  by_cases short : length < wordLength
  · obtain ⟨ignored, other⟩ := b.handle_short window short
    rw [ignored, if_neg (other .getTargetId),
      if_neg (not_or.mpr ⟨other .noCommand, other .done⟩)]
  · simp only [handle, short, commands_iff short, ↓reduceIte]
    cases BootCommand.ofCode? (commandWord window length) with
    | none => rfl
    | some c => cases c <;> rfl

/-- A message is answered if its command is one of three. -/
theorem isSome_available_iff (b : Bootloader) (window : Window) (length : Nat) :
    (b.handle window length).available.isSome = true ↔
      Commands .noCommand window length ∨ Commands .done window length ∨
        Commands .getTargetId window length := by
  rw [handle_available]
  by_cases asked : Commands .getTargetId window length
  · rw [if_pos asked]
    exact iff_of_true rfl (.inr (.inr asked))
  · rw [if_neg asked]
    by_cases answered : Commands .noCommand window length ∨ Commands .done window length
    · rw [if_pos answered]
      exact iff_of_true rfl (answered.imp_right .inl)
    · rw [if_neg answered]
      refine iff_of_false nofun ?_
      rintro (none | done | identity)
      · exact answered (.inl none)
      · exact answered (.inr done)
      · exact asked identity

/-! ## What is left in the window -/

/-- What the bootloader leaves at the end of the window: the identity, if it is asked for it. -/
def answer (b : Bootloader) (window : Window) (length : Nat) : List UInt8 :=
  if Commands .getTargetId window length then identity b.form else []

theorem length_identity (form : IdentityForm) :
    (identity form).length = 4 * (identityWords form).length ∧ (identity form).length ≤ 2048 := by
  cases form <;> decide

/-- **The answer takes the place of the last bytes**, and the others stay. -/
theorem toList_handle (b : Bootloader) (window : Window) (length : Nat) :
    (b.handle window length).window.toList =
      window.toList.take (2048 - (b.answer window length).length) ++ b.answer window length := by
  unfold answer
  rw [handle_window]
  split
  · exact window.toList_placeAtEnd (length_identity b.form).2
  · have size : window.toList.length = 2048 := Vector.length_toList
    rw [List.length_nil, Nat.sub_zero, List.append_nil, List.take_of_length_le (Nat.le_of_eq size)]

/-- The words that a host reads from the last `count` bytes of a window. -/
def wordsAtEnd (window : Window) (count : Nat) : List Nat :=
  (List.range (count / wordLength)).map fun i =>
    window.number (2048 - count + wordLength * i) wordLength

theorem wordsAtEnd_placeAtEnd (window : Window) {message : List UInt8}
    (fits : message.length ≤ 2048) :
    wordsAtEnd (window.placeAtEnd message) message.length =
      (List.range (message.length / wordLength)).map fun i =>
        Word.ofLittleEndian ((message.drop (wordLength * i)).take wordLength) := by
  unfold wordsAtEnd
  simp only [window.number_placeAtEnd fits]

/-- Only the command word of a message counts. -/
theorem commands_congr {window other : Window} {length : Nat} (c : BootCommand)
    (same : 4 ≤ length → commandWord other length = commandWord window length) :
    Commands c other length ↔ Commands c window length :=
  and_congr_right fun enough => by rw [same enough]

/-- **Commands are executed** by their command word, for messages of every length. Of a message of at least
four bytes the word stands where the message starts, at the start of the window if the message is longer
than that. The words 0, 1 and 8 are answered, and nothing else is. The word 1 ends the session with the
bootloader. The word 8 is the only one that changes the window, and then exactly as many bytes at its end as
are told to wait for the host: they hold the version of the target, in the extended form behind the sentinel
and the number of bytes, and in front of the type. Apart from the word, nothing that stands in the window has
to do with any of this. -/
theorem commands_executed (b : Bootloader) (window : Window) (length : Nat) :
    let word (w : Window) : Nat := w.number (2048 - min length 2048) 4
    let outcome := b.handle window length
    (outcome.available.isSome = true ↔
      4 ≤ length ∧ (word window = 0 ∨ word window = 1 ∨ word window = 8)) ∧
    ((outcome.session.done = true ↔ b.done = true ∨ 4 ≤ length ∧ word window = 1) ∧
      outcome.session.form = b.form) ∧
    (¬ (4 ≤ length ∧ word window = 8) → outcome.window = window) ∧
    (4 ≤ length ∧ word window = 8 → ∃ count : UInt8,
      outcome.available = some count ∧
      count = (match b.form with | .legacy => 4 | .extended => 16) ∧
      (∀ i : Fin 2048, i.val + count.toNat < 2048 → outcome.window.get i = window.get i) ∧
      wordsAtEnd outcome.window count.toNat =
        match b.form with
        | .legacy => [0x11000044]
        | .extended => [0xffffffff, 12, 0x11000044, 1]) ∧
    (∀ other : Window, (4 ≤ length → word other = word window) →
      (b.handle other length).available = outcome.available ∧
      (b.handle other length).session = outcome.session ∧
      ∃ answer : List UInt8,
        outcome.window.toList = window.toList.take (2048 - answer.length) ++ answer ∧
        (b.handle other length).window.toList =
          other.toList.take (2048 - answer.length) ++ answer) := by
  intro word outcome
  refine ⟨?_, ?_, fun other => (b.handle_window window length).trans (if_neg other), fun asked => ?_,
    fun other same => ?_⟩
  · rw [isSome_available_iff, and_or_left, and_or_left]
    rfl
  · show ((b.handle window length).session.done = true ↔ _) ∧ (b.handle window length).session.form = _
    rw [handle_session]
    by_cases done : Commands .done window length
    · rw [if_pos done]
      exact ⟨iff_of_true rfl (.inr done), rfl⟩
    · rw [if_neg done]
      exact ⟨(or_iff_left done).symm, rfl⟩
  · have asked : Commands .getTargetId window length := asked
    have left : outcome.window = window.placeAtEnd (identity b.form) :=
      (b.handle_window window length).trans (if_pos asked)
    have told : outcome.available = some (UInt8.ofNat (identity b.form).length) :=
      (b.handle_available window length).trans (if_pos asked)
    have count : (UInt8.ofNat (identity b.form).length).toNat = (identity b.form).length := by
      cases b.form <;> rfl
    refine ⟨_, told, by cases b.form <;> rfl, fun i front => ?_, ?_⟩
    · rw [left]
      exact window.get_placeAtEnd (count ▸ front)
    · rw [left, count, wordsAtEnd_placeAtEnd window (length_identity b.form).2]
      cases b.form <;> decide
  · have agree (c : BootCommand) : Commands c other length ↔ Commands c window length :=
      commands_congr c same
    have answer : b.answer other length = b.answer window length := by
      unfold Bootloader.answer
      simp only [agree]
    refine ⟨?_, ?_, b.answer window length, b.toList_handle window length, ?_⟩
    · show _ = (b.handle window length).available
      simp only [handle_available, agree]
    · show _ = (b.handle window length).session
      simp only [handle_session, agree]
    · rw [toList_handle, answer]

/-- A window that ends with the question for the identity and four more bytes. -/
def asking (front : Window) : Window :=
  front.placeAtEnd [8, 0, 0, 0, 1, 2, 3, 4]

/-- What the question leads to in a session that tells the extended form. -/
def asked (front : Window) (length : Nat) : Outcome :=
  handle { form := .extended } (asking front) length

/-- The extended answer stands over the question. What is in front of it has nothing to do with it, and
without a whole word nothing is asked. -/
theorem commands_executed_overlapping :
    (asking Window.zeros).number (2048 - min 8 2048) 4 = 8 ∧
      (asked Window.zeros 8).available = some 16 ∧
      (asked Window.zeros 8).window.get 0 = (asking Window.zeros).get 0 ∧
      wordsAtEnd (asked Window.zeros 8).window 16 = [0xffffffff, 12, 0x11000044, 1] ∧
      (asked (Window.zeros.setIfInBounds 0 1) 8).available = some 16 ∧
      (asked Window.zeros 3).window = asking Window.zeros := by
  have word (front : Window) : (asking front).number (2048 - min 8 2048) 4 = 8 := by
    have place : 2048 - min 8 2048 = 2048 - [(8 : UInt8), 0, 0, 0, 1, 2, 3, 4].length + 0 := by
      decide
    rw [place]
    exact front.number_placeAtEnd (by decide) 0 4
  obtain ⟨-, -, -, identity, influence⟩ :=
    commands_executed { form := .extended } (asking Window.zeros) 8
  obtain ⟨-, -, kept, -, -⟩ := commands_executed { form := .extended } (asking Window.zeros) 3
  obtain ⟨count, told, extended, front, words⟩ := identity ⟨by decide, word Window.zeros⟩
  obtain rfl : count = 16 := extended
  have alike := (influence (asking (Window.zeros.setIfInBounds 0 1)) fun _ =>
    (word _).trans (word _).symm).1
  exact ⟨word _, told, front 0 (by decide), words, alike.trans told, kept (by decide)⟩

end Bootloader

end WlanCard
