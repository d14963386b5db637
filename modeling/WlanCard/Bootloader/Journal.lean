import WlanCard.Bootloader
import WlanCard.Journal

/-!
# The journal of the bootloader

The bootloader tells of the end of its session, of the question for the target's identity, and of
every message that it ignores.
-/

namespace WlanCard

/-- What the bootloader has to tell. -/
inductive BootNotice where
  | short (length : Nat)
  | done
  | identity (form : IdentityForm) (length : Nat)
  | unsupported (command : BootCommand)
  | unknown (word : Nat)
deriving DecidableEq, Repr

/-- The entry of a notice. -/
def BootNotice.entry : BootNotice → Entry
  | short length => ⟨.warn, s!"BMI: short command ({length} bytes)"⟩
  | done => ⟨.info, "BMI done, target firmware running"⟩
  | identity form length => ⟨.debug, s!"BMI get target id ({form.name}, {length} bytes)"⟩
  | unsupported command => ⟨.warn, s!"BMI: unsupported command {command.name}"⟩
  | unknown word => ⟨.warn, s!"BMI: bad command ({word})"⟩

namespace Bootloader

/-- What a message of `length` bytes at the end of a window leads to. -/
def handleNotices (b : Bootloader) (window : Window) (length : Nat) : List BootNotice :=
  if length < wordLength then [.short length]
  else
    let word := commandWord window length
    match BootCommand.ofCode? word with
    | some .noCommand => []
    | some .done => [.done]
    | some .getTargetId => [.identity b.form (identity b.form).length]
    | some command => [.unsupported command]
    | none => [.unknown word]

/-- The journal of a message of `length` bytes at the end of a window. -/
def handleJournal (b : Bootloader) (window : Window) (length : Nat) : Journal :=
  (b.handleNotices window length).map BootNotice.entry

end Bootloader

end WlanCard
