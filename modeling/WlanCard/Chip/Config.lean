import WlanCard.Bootloader
import WlanCard.Card.Phase
import WlanCard.Firmware
import WlanCard.Text.Numeral

/-!
# The configuration of a chip

What a board fixes when it attaches the chip. Not every combination of values describes a chip that a
driver can talk to: the station address must not stand for a group, the radio's capability must be a
known one, and no delay may be zero, since work put off by nothing would be due within the bus call
that put it off.
-/

namespace WlanCard

namespace Config

/-- Ticks in a second. -/
def ticksPerSecond : Nat := 1000000000

/-- Ticks from the handover to the ready event unless a board says otherwise: two seconds. -/
def defaultAliveDelay : Nat := 2 * ticksPerSecond

/-- Ticks until a counter update or a grant of credits takes effect unless a board says otherwise: a
64th of a second. -/
def defaultCreditDelay : Nat := ticksPerSecond / 64

end Config

/-- The configuration of a chip. -/
structure Config where
  /-- The station address told by the ready event. -/
  station : StationAddress := #v[0x00, 0x03, 0x7f, 0x00, 0x00, 0x01]
  /-- The capability of the radio told by the ready event. -/
  capability : UInt8 := RadioCapability.band11ag.code
  mode : BusMode := .native
  identity : IdentityForm := .legacy
  /-- Ticks from the handover to the firmware to its ready event. -/
  aliveDelay : Nat := Config.defaultAliveDelay
  /-- Ticks until a counter update or a grant of credits takes effect. -/
  creditDelay : Nat := Config.defaultCreditDelay
deriving DecidableEq, Repr

/-- The delays of a configuration. -/
inductive Delay where
  | alive
  | credit
deriving DecidableEq, Repr

/-- The name of a delay in messages. -/
def Delay.name : Delay → String
  | .alive => "alive_delay"
  | .credit => "credit_debounce"

/-- What is wrong with a configuration. -/
inductive ConfigError where
  | groupAddress (station : StationAddress)
  | unknownCapability (capability : UInt8)
  | zeroDelay (delay : Delay)
deriving DecidableEq, Repr

/-- The wording of an error. -/
def ConfigError.message : ConfigError → String
  | .groupAddress station =>
    let bytes := station.toList.map fun b => Text.hexDigits .lower 2 b.toNat
    "station address " ++ ":".intercalate bytes ++ " is a group address"
  | .unknownCapability capability => "unknown PHY capability " ++ capability.toNat.repr
  | .zeroDelay delay => delay.name ++ " must be non-zero"

namespace Config

/-- What is wrong with a configuration, the first fault in the order of its fields; nothing when it
describes a chip. -/
def validate (config : Config) : Except ConfigError Unit :=
  if config.station[0] &&& 1 != 0 then .error (.groupAddress config.station)
  else if config.capability < RadioCapability.band11a.code
      ∨ RadioCapability.band11ag.code < config.capability then
    .error (.unknownCapability config.capability)
  else if config.aliveDelay = 0 then .error (.zeroDelay .alive)
  else if config.creditDelay = 0 then .error (.zeroDelay .credit)
  else .ok ()

end Config

end WlanCard
