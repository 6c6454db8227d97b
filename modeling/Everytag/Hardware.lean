import Everytag.Lib.Prog
import Everytag.Logic

/-!
# The calls of the main loop

Everything `StateMachine` and the loop in `main` ask of the rest of the firmware is a `Call`: the
virtual functions of `IHardware`, the two `beacon_adv_*` hooks, the accesses to the shared
`SettingsManager` and `MovementTracker`, and the copy of the GATT flags before each tick.  The
configuration is read through a call because GATT callbacks write it while the main loop runs: a
later read may find another value.
-/

namespace Everytag

open Interaction

/-- What is being advertised. -/
inductive OnAir
  | none | airtag | fmdn | ibeacon | settings
deriving DecidableEq, Repr

/-- What `glue_sync_gatt_state` hands to the state machine. -/
structure GattFlags where
  connected : Bool
  authorized : Bool
  pauseUpload : Bool
  needsReset : Bool
deriving DecidableEq, Repr

inductive Call
  | uptimeSeconds
  | btEnable
  | btDisable
  | advStartAirtag (intervalMin intervalMax : Int)
  | advStartFmdn (intervalMin intervalMax : Int)
  | advStop
  | advUpdateAirtag
  | advUpdateFmdn
  | setMac (addr : Mac)
  | setTxPower (level : Int)
  | batteryVoltage
  | isCharging
  | wdtFeed
  | blinkLed (count : Int) (fast : Bool)
  | powerOff
  | reboot
  | buttonPressed
  | sleepMs (ms : UInt32)
  | storeTime
  | prepareAirtag (key : Key)
  | prepareFmdn (key : FmdnKey)
  | startSettingsAdv
  | stopSettingsAdv
  | broadcastIbeacon (batteryVoltage : Int)
  | accelRead
  | accelInit
  | accelPowerdown
  | bqReinit (force : Bool)
  | bqShipmode
  | updateTurnedOn (on : Bool)
  | enableDfu
  | disableDfu
  | setStatusBytes (airtagStatus fmdnStatus : UInt8)
  | beaconAdvCancelSync
  | beaconAdvSetAllowed (allowed : Bool)
  /-- `settings_.config()` -/
  | config
  /-- `settings_.config().keys[i]` -/
  | configKey (i : UInt8)
  /-- `settings_.set_turned_on(v)` -/
  | setTurnedOn (v : Bool)
  /-- `accel_.compute_accel_byte()` -/
  | computeAccelByte
  /-- `accel_.temperature()` -/
  | accelTemperature
  | glueSyncGattState
deriving DecidableEq, Repr

/-- What a call returns. -/
abbrev Call.Ans : Call → Type
  | .uptimeSeconds => UInt32
  | .btEnable | .advStartAirtag .. | .advStartFmdn .. | .advStop | .advUpdateAirtag | .advUpdateFmdn
  | .batteryVoltage | .accelRead | .accelInit | .accelPowerdown => Int
  | .isCharging | .buttonPressed => Bool
  | .config => BeaconConfig
  | .configKey _ => Key
  | .computeAccelByte => UInt8
  | .accelTemperature => Int16
  | .glueSyncGattState => GattFlags
  | _ => Unit

/-- Code of the main loop. -/
abbrev Main (α : Type) := Prog Call Call.Ans α

/-- Issue a call. -/
@[simp] def issue (c : Call) : Main c.Ans := Prog.issue c

/-- `while (hw_.button_pressed()) { hw_.sleep_ms(ms); hw_.wdt_feed(); }` -/
def waitButtonRelease (ms : UInt32) : Main Unit :=
  .loop .buttonPressed (fun pressed => pressed)
    (do issue (.sleepMs ms); issue .wdtFeed) (.ret ())

/-- The answers of a device with a configuration, at an uptime and a voltage, while nothing happens to it:
no client, no button, no charger, no error. -/
def answers (cfg : BeaconConfig) (now : UInt32) (voltage : Int) : (c : Call) → c.Ans
  | .uptimeSeconds => now
  | .batteryVoltage => voltage
  | .isCharging | .buttonPressed => false
  | .config => cfg
  | .configKey i => cfg.keys[i.toNat]?.getD (Vector.replicate 28 0)
  | .computeAccelByte => 0
  | .accelTemperature => 0
  | .glueSyncGattState => ⟨false, false, false, false⟩
  | .btEnable | .advStartAirtag .. | .advStartFmdn .. | .advStop | .advUpdateAirtag | .advUpdateFmdn
  | .accelRead | .accelInit | .accelPowerdown => (0 : Int)
  | .btDisable | .setMac _ | .setTxPower _ | .wdtFeed | .blinkLed .. | .powerOff | .reboot
  | .sleepMs _ | .storeTime | .prepareAirtag _ | .prepareFmdn _ | .startSettingsAdv
  | .stopSettingsAdv | .broadcastIbeacon _ | .bqReinit _ | .bqShipmode | .updateTurnedOn _ | .enableDfu
  | .disableDfu | .setStatusBytes .. | .beaconAdvCancelSync | .beaconAdvSetAllowed _
  | .setTurnedOn _ => ()

/-- The configuration stays `cfg`, apart from `turned_on`; an index past the ring may answer anything. -/
@[simp] def Steady (cfg : BeaconConfig) : (c : Call) → c.Ans → Prop
  | .config, a => ∃ on, a = { cfg with turnedOn := on }
  | .configKey i, key => ∀ k, cfg.keys[i.toNat]? = some k → key = k
  | _, _ => True

theorem steady_answers_on (cfg : BeaconConfig) (on : Bool) (now : UInt32) (voltage : Int) (c : Call) :
    Steady cfg c (answers { cfg with turnedOn := on } now voltage c) := by
  cases c with
  | config => exact ⟨on, rfl⟩
  | configKey i =>
    intro k hk
    simp only [answers, hk, Option.getD_some]
  | _ => trivial

theorem steady_answers (cfg : BeaconConfig) (now : UInt32) (voltage : Int) (c : Call) :
    Steady cfg c (answers cfg now voltage c) := steady_answers_on cfg cfg.turnedOn now voltage c

end Everytag
