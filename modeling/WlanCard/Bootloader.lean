import WlanCard.HostInterface.Window

/-!
# The bootloader

Before the firmware runs, messages in the control mailbox are bootloader commands: a command word,
least significant byte first, and its arguments. Only three commands are carried out: none at all,
the end of the bootloader, and the question for the target's identity, whose answer is placed at the
end of the same window. Everything else is ignored.
-/

namespace WlanCard

/-- The form in which the target's identity is told. -/
inductive IdentityForm where
  /-- The version alone, for older hosts. -/
  | legacy
  /-- A sentinel, the number of bytes that follow it, the version and the type of target. -/
  | extended
deriving DecidableEq, Repr

/-- The name of a form in messages. -/
def IdentityForm.name : IdentityForm → String
  | .legacy => "Legacy"
  | .extended => "Extended"

/-- The types of target. -/
inductive TargetType where
  | ar6001
  | ar6002
deriving DecidableEq, Repr

/-- The word that stands for a type of target. -/
def TargetType.code : TargetType → UInt32
  | .ar6001 => 1
  | .ar6002 => 2

/-- The commands of the bootloader. -/
inductive BootCommand where
  | noCommand
  | done
  | readMemory
  | writeMemory
  | execute
  | setAppStart
  | readSocRegister
  | writeSocRegister
  | getTargetId
  | romPatchInstall
  | romPatchUninstall
  | romPatchActivate
  | romPatchDeactivate
deriving DecidableEq, Repr

namespace BootCommand

/-- The word that stands for a command. -/
def code : BootCommand → Nat
  | .noCommand => 0
  | .done => 1
  | .readMemory => 2
  | .writeMemory => 3
  | .execute => 4
  | .setAppStart => 5
  | .readSocRegister => 6
  | .writeSocRegister => 7
  | .getTargetId => 8
  | .romPatchInstall => 9
  | .romPatchUninstall => 10
  | .romPatchActivate => 11
  | .romPatchDeactivate => 12

/-- The command that a word stands for. -/
def ofCode? : Nat → Option BootCommand
  | 0 => some .noCommand
  | 1 => some .done
  | 2 => some .readMemory
  | 3 => some .writeMemory
  | 4 => some .execute
  | 5 => some .setAppStart
  | 6 => some .readSocRegister
  | 7 => some .writeSocRegister
  | 8 => some .getTargetId
  | 9 => some .romPatchInstall
  | 10 => some .romPatchUninstall
  | 11 => some .romPatchActivate
  | 12 => some .romPatchDeactivate
  | _ => none

/-- Every command is found by its word. -/
theorem ofCode?_code (c : BootCommand) : ofCode? c.code = some c := by
  cases c <;> rfl

/-- The name of a command in messages. -/
def name : BootCommand → String
  | .noCommand => "NO_COMMAND"
  | .done => "DONE"
  | .readMemory => "READ_MEMORY"
  | .writeMemory => "WRITE_MEMORY"
  | .execute => "EXECUTE"
  | .setAppStart => "SET_APP_START"
  | .readSocRegister => "READ_SOC_REGISTER"
  | .writeSocRegister => "WRITE_SOC_REGISTER"
  | .getTargetId => "GET_TARGET_ID"
  | .romPatchInstall => "ROMPATCH_INSTALL"
  | .romPatchUninstall => "ROMPATCH_UNINSTALL"
  | .romPatchActivate => "ROMPATCH_ACTIVATE"
  | .romPatchDeactivate => "ROMPATCH_DEACTIVATE"

end BootCommand

/-- A session with the bootloader. -/
structure Bootloader where
  /-- Whether the host has finished with the bootloader and handed over to the firmware. -/
  done : Bool := false
  form : IdentityForm := .legacy
deriving DecidableEq, Repr

namespace Bootloader

/-- The first word of an identity in extended form. -/
def sentinel : UInt32 := 0xffffffff

/-- The version of the target. -/
def targetVersion : UInt32 := 0x11000044

/-- The number of bytes that follow the sentinel in extended form, the count itself included. -/
def identityByteCount : UInt32 := 0x0c

/-- The words that tell the target's identity. -/
def identityWords : IdentityForm → List UInt32
  | .legacy => [targetVersion]
  | .extended => [sentinel, identityByteCount, targetVersion, TargetType.ar6001.code]

/-- The bytes that tell the target's identity, each word least significant byte first. -/
def identity (form : IdentityForm) : List UInt8 :=
  (identityWords form).flatMap fun word => Word.littleEndian 4 word.toBitVec

/-- The number of bytes in a command word; a shorter message is no command. -/
def wordLength : Nat := 4

/-- The session after a reset: with the bootloader again. -/
def reset (b : Bootloader) : Bootloader :=
  { b with done := false }

/-- The command word of a message of the given length at the end of a window. -/
def commandWord (window : Window) (length : Nat) : Nat :=
  window.number (Window.startOf length) wordLength

/-- What a message has led to: the number of bytes that wait for the host, unless the message was
ignored, the session and the window after it. -/
structure Outcome where
  available : Option UInt8
  session : Bootloader
  window : Window

/-- Carries out the command of `length` bytes at the end of a window. -/
def handle (b : Bootloader) (window : Window) (length : Nat) : Outcome :=
  if length < wordLength then ⟨none, b, window⟩
  else
    match BootCommand.ofCode? (commandWord window length) with
    | some .noCommand => ⟨some 0, b, window⟩
    | some .done => ⟨some 0, { b with done := true }, window⟩
    | some .getTargetId =>
      let answer := identity b.form
      ⟨some (UInt8.ofNat answer.length), b, window.placeAtEnd answer⟩
    | _ => ⟨none, b, window⟩

end Bootloader

end WlanCard
