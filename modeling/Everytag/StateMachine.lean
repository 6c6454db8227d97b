import Everytag.Hardware

/-!
# The state machine

`beacon_state.cpp`, one definition for each member function.  The fields of `StateMachine` are the
private members of the class; a member function takes the state and returns it.
-/

namespace Everytag

open Interaction

inductive WhatInStatus
  | voltage | accel | temperature
deriving DecidableEq, Repr

def WhatInStatus.toUInt8 : WhatInStatus → UInt8
  | .voltage => 0
  | .accel => 1
  | .temperature => 2

/-- The next kind of the telemetry cycle. -/
def WhatInStatus.next : WhatInStatus → WhatInStatus
  | .voltage => .accel
  | .accel => .temperature
  | .temperature => .voltage

inductive State
  | initializing | broadcasting | settingsMode | firmwareUpload | shuttingDown
deriving DecidableEq, Repr

/-- Uptimes in seconds. -/
structure Timers where
  timeSave : UInt32 := 0
  batteryCheck : UInt32 := 0
  settingsMode : UInt32 := 0
  maxPower : UInt32 := 0
  endMaxPower : UInt32 := 0
  airtagSwitch : UInt32 := 0
  endSettings : UInt32 := 0
  accelRead : UInt32 := 0
  accelReset : UInt32 := 0
deriving DecidableEq, Repr

def kBroadcastIntervalMin : Int := 1500
def kBroadcastIntervalMax : Int := 1590
def kIntervalSettings : UInt32 := 60
def kSettingsWait : UInt32 := 2
def kIntervalTimeSave : UInt32 := 3600
def kIntervalBatteryCheck : UInt32 := 60
def kIntervalMaxPower : UInt32 := 68
def kIntervalAccelerometer : UInt32 := 20
def kBatteryLowVoltage : UInt16 := 2800
def kShutdownNokeys : UInt32 := 300
def kAccelResetMultiplier : UInt32 := 30
def kChargeLockDuration : Int := 3600
def kUvloBadPowerThreshold : UInt8 := 5

structure StateMachine where
  state : State := .initializing
  timers : Timers := {}
  broadcastingAnything : Bool := false
  broadcastingAirtag : Bool := false
  broadcastingFmdn : Bool := false
  broadcastingSettings : Bool := false
  currentKey : UInt8 := 0
  keysChanges : UInt16 := 0
  whatInStatus : WhatInStatus := .temperature
  lastBatteryVoltage : UInt16 := 0
  badPower : UInt8 := 0
  chargeLockCounter : Int := 0
  connectedGatt : Bool := false
  authorizedGatt : Bool := false
  pauseUpload : Bool := false
  needsReset : Bool := false
  bleAddr : Mac := Vector.replicate 6 0
deriving DecidableEq, Repr

namespace StateMachine

/-! ## Helpers -/

def setMacFromCurrentKey (s : StateMachine) : Main StateMachine := do
  let cfg ← issue .config
  if s.currentKey < cfg.numKeys then
    let key ← issue (.configKey s.currentKey)
    return { s with bleAddr := deriveMacFromKey key }
  else return s

/-- What `update_battery` stores for a reading. -/
def storedVoltage (v : Int) : UInt16 := if v > 0 then UInt16.ofInt v else 0

def updateBattery (s : StateMachine) : Main StateMachine := do
  issue (.bqReinit false)
  let v ← issue .batteryVoltage
  return { s with lastBatteryVoltage := storedVoltage v }

def updateStatus (s : StateMachine) : Main StateMachine := do
  let s := { s with whatInStatus := s.whatInStatus.next }
  let cfg ← issue .config
  let accelByte ← issue .computeAccelByte
  let temperature ← issue .accelTemperature
  let status := computeStatus {
    status := .unpack cfg.statusFlags
    batteryVoltage := s.lastBatteryVoltage
    keysChanges := s.keysChanges
    whatInStatus := s.whatInStatus.toUInt8
    accelByte := accelByte
    temperature := temperature }
  issue (.setStatusBytes status.airtagStatus status.fmdnStatus)
  return s

def broadcast (s : StateMachine) : Main StateMachine := do
  if s.broadcastingAnything && !s.broadcastingFmdn && !s.broadcastingAirtag &&
      !s.broadcastingSettings then
    let _ ← issue .advStop
    return { s with broadcastingAnything := false }
  else if s.broadcastingSettings then
    return s
  else if s.broadcastingAnything then
    -- update the existing broadcast
    if s.broadcastingAirtag then
      let _ ← issue .advUpdateAirtag
    if s.broadcastingFmdn then
      let _ ← issue .advUpdateFmdn
    return s
  else
    -- start one protocol; alternation does the switching
    let cfg ← issue .config
    let mult : Int := cfg.multPeriod.toNat
    if s.broadcastingAirtag then
      issue (.setMac s.bleAddr)
      let _ ← issue (.advStartAirtag (kBroadcastIntervalMin * mult) (kBroadcastIntervalMax * mult))
      return { s with broadcastingAnything := true }
    else if s.broadcastingFmdn then
      let _ ← issue (.advStartFmdn (kBroadcastIntervalMin * mult) (kBroadcastIntervalMax * mult))
      return { s with broadcastingAnything := true }
    else return s

/-! ## Startup -/

/-- Up to `n` attempts to initialise the accelerometer. -/
def accelInitRetry : Nat → Main Unit
  | 0 => return ()
  | n + 1 => do
    let rc ← issue .accelInit
    if rc = 0 then return () else accelInitRetry n

/-- A MAC address counts as configured unless its first or its last byte is zero. -/
def macConfigured (mac : Mac) : Bool := mac[0]! != 0 && mac[5]! != 0

/-- Peripherals, with three attempts at the accelerometer. -/
def wakePeripherals : Main Unit := do
  issue (.bqReinit true)
  issue (.sleepMs 10)
  issue (.bqReinit true)
  accelInitRetry 3
  let cfg ← issue .config
  if cfg.accelThreshold ≤ 0 then
    let _ ← issue .accelPowerdown

/-- The FMDN key, and the first AirTag key with its address. -/
def prepareKeys (s : StateMachine) : Main StateMachine := do
  let cfg ← issue .config
  issue (.prepareFmdn cfg.fmdnKey)
  let s := { s with currentKey := 0 }
  let cfg ← issue .config
  if cfg.numKeys > 0 then
    let key ← issue (.configKey 0)
    issue (.prepareAirtag key)
    setMacFromCurrentKey s
  else return s

def setInitialMac (s : StateMachine) : Main Unit := do
  let cfg ← issue .config
  if cfg.flagAirtag || cfg.flagFmdn then
    issue (.setMac s.bleAddr)
  else if macConfigured cfg.settingsMac then
    issue (.setMac cfg.settingsMac)

/-- The iBeacon, if neither protocol is on. -/
def ibeaconFallback (s : StateMachine) : Main Unit := do
  let cfg ← issue .config
  if !cfg.flagAirtag && !cfg.flagFmdn then
    issue (.broadcastIbeacon s.lastBatteryVoltage.toNat)

def startRadio (s : StateMachine) : Main Unit := do
  let _ ← issue .btEnable
  let cfg ← issue .config
  issue (.setTxPower cfg.txPower.toNat)
  issue .wdtFeed
  issue (.blinkLed 2 false)
  ibeaconFallback s

/-- The part of `initialize` after the button check. -/
def startUp (s : StateMachine) : Main StateMachine := do
  wakePeripherals
  let s ← prepareKeys s
  setInitialMac s
  let s := { s with broadcastingAnything := false, broadcastingAirtag := false,
                    broadcastingFmdn := false, broadcastingSettings := false }
  let s ← updateBattery s
  let s ← updateStatus s
  startRadio s
  waitButtonRelease 1000
  return { s with state := .broadcasting }

/-- `StateMachine::initialize`. -/
def initializeMachine (s : StateMachine) : Main StateMachine := do
  issue .wdtFeed
  issue (.blinkLed 1 true)
  let buttonAtStart ← issue .buttonPressed
  issue .wdtFeed
  if buttonAtStart then
    issue (.setTurnedOn true)
    issue (.updateTurnedOn true)
    startUp s
  else
    let cfg ← issue .config
    if !cfg.turnedOn then
      issue (.sleepMs 500)
      issue .powerOff
      return { s with state := .shuttingDown }
    else startUp s

/-! ## Settings mode exit -/

/-- The upload window: `n` waits of four seconds. -/
def uploadWait : Nat → Main Unit
  | 0 => return ()
  | n + 1 => do
    issue (.sleepMs 4000)
    issue .storeTime
    issue .wdtFeed
    uploadWait n

def firmwareUpload (s : StateMachine) : Main StateMachine := do
  let s := { s with state := .firmwareUpload }
  issue .enableDfu
  issue .beaconAdvCancelSync
  issue .stopSettingsAdv
  issue .startSettingsAdv
  uploadWait 15
  issue .disableDfu
  issue .reboot
  return s

/-- The AirTag address, only if the AirTag is on. -/
def restoreMac (s : StateMachine) : Main Unit := do
  let cfg ← issue .config
  if cfg.flagAirtag then
    issue (.setMac s.bleAddr)

/-- The way back to broadcasting. -/
def leaveSettings (s : StateMachine) : Main StateMachine := do
  issue .beaconAdvCancelSync
  issue .stopSettingsAdv
  let s := { s with broadcastingSettings := false, broadcastingAnything := false,
                    broadcastingFmdn := false, broadcastingAirtag := false }
  issue .btDisable
  restoreMac s
  let _ ← issue .btEnable
  let cfg ← issue .config
  issue (.setTxPower cfg.txPower.toNat)
  if s.needsReset then
    issue .reboot
    return s
  else
    ibeaconFallback s
    return { s with state := .broadcasting }

def handleSettingsModeExit (s : StateMachine) : Main StateMachine := do
  let now ← issue .uptimeSeconds
  if now < s.timers.endSettings then return s
  else
    if s.connectedGatt || s.authorizedGatt then
      issue (.sleepMs 2000)
      issue .wdtFeed
    if s.authorizedGatt then
      issue (.sleepMs 4000)
      issue .wdtFeed
    if s.pauseUpload then firmwareUpload s else leaveSettings s

/-! ## Battery check and under-voltage -/

def handleBatteryCheck (s : StateMachine) : Main StateMachine := do
  let now ← issue .uptimeSeconds
  if now < s.timers.batteryCheck + kIntervalBatteryCheck then return s
  else
    let s := { s with timers := { s.timers with batteryCheck := now } }
    let s ← updateBattery s
    let s ← updateStatus s
    let cfg ← issue .config
    if cfg.flagAirtag || cfg.flagFmdn then broadcast s else return s

/-- The result says whether the tick ends here. -/
def handleUvloShutdown (s : StateMachine) : Main (Bool × StateMachine) := do
  if s.lastBatteryVoltage ≥ kBatteryLowVoltage then
    return (false, { s with badPower := 0 })
  else
    let charging ← issue .isCharging
    let s := if charging then { s with chargeLockCounter := kChargeLockDuration } else s
    if s.chargeLockCounter ≤ 0 then
      let s := { s with badPower := s.badPower + 1 }
      if s.badPower > kUvloBadPowerThreshold then
        issue (.beaconAdvSetAllowed false)
        issue .beaconAdvCancelSync
        let _ ← issue .advStop
        issue .bqShipmode
        issue .powerOff
        return (true, { s with state := .shuttingDown })
      else return (false, s)
    else return (false, { s with badPower := 0 })

/-- `is_charging` is asked only when both flags are off. -/
def handleNokeysShutdown (s : StateMachine) : Main (Bool × StateMachine) := do
  let now ← issue .uptimeSeconds
  let cfg ← issue .config
  if !cfg.flagAirtag && !cfg.flagFmdn then
    let charging ← issue .isCharging
    if !charging && now > kShutdownNokeys then
      issue (.blinkLed 2 true)
      issue .bqShipmode
      issue .powerOff
      return (true, { s with state := .shuttingDown })
    else return (false, s)
  else return (false, s)

/-! ## Settings mode entry -/

/-- The settings address, if one is configured. -/
def useSettingsMac : Main Unit := do
  let cfg ← issue .config
  if macConfigured cfg.settingsMac then
    issue (.setMac cfg.settingsMac)

def handleSettingsModeEntry (s : StateMachine) : Main StateMachine := do
  let now ← issue .uptimeSeconds
  if now < s.timers.settingsMode + kIntervalSettings then return s
  else
    let s := { s with timers :=
      { s.timers with settingsMode := now, endSettings := now + kSettingsWait } }
    issue .beaconAdvCancelSync
    let _ ← issue .advStop
    issue .btDisable
    useSettingsMac
    let _ ← issue .btEnable
    issue (.setTxPower 0)
    issue .startSettingsAdv
    return { s with broadcastingSettings := true, broadcastingAnything := true,
                    broadcastingFmdn := false, broadcastingAirtag := false, state := .settingsMode }

/-! ## Max power burst -/

def handleMaxPowerBurst (s : StateMachine) : Main StateMachine := do
  let now ← issue .uptimeSeconds
  let cfg ← issue .config
  let s ← if cfg.txPower != 2 && cfg.flagFmdn && cfg.flagAirtag &&
        s.timers.maxPower + kIntervalMaxPower ≤ now then do
      issue (.setTxPower 2)
      pure { s with timers :=
        { s.timers with maxPower := now, endMaxPower := now + 2 * cfg.multPeriod.toUInt32 } }
    else pure s
  if s.timers.endMaxPower > 0 && s.timers.endMaxPower ≤ now then
    let s := { s with timers := { s.timers with endMaxPower := 0 } }
    let cfg ← issue .config
    issue (.setTxPower cfg.txPower.toNat)
    return s
  else return s

/-! ## Key rotation -/

/-- The index after `key` in a ring of `numKeys` keys. -/
def rotate (key numKeys : UInt8) : UInt8 :=
  if numKeys > 1 then if key + 1 ≥ numKeys then 0 else key + 1 else 0

theorem rotate_lt (key : UInt8) {numKeys : UInt8} (h : numKeys ≠ 0) : rotate key numKeys < numKeys := by
  have : 0 < numKeys := UInt8.pos_iff_ne_zero.2 h
  unfold rotate
  split
  · split
    · exact this
    · exact UInt8.not_le.1 ‹_›
  · exact this

def handleKeyRotation (s : StateMachine) : Main StateMachine := do
  let now ← issue .uptimeSeconds
  let cfg ← issue .config
  if !cfg.flagAirtag || cfg.numKeys == 0 then return s
  else if now < s.timers.airtagSwitch + cfg.changeInterval.toUInt32 then return s
  else
    let s := { s with
      timers := { s.timers with airtagSwitch := now }
      currentKey := rotate s.currentKey cfg.numKeys
      keysChanges := s.keysChanges + 1 }
    issue .beaconAdvCancelSync
    let _ ← issue .advStop
    issue .btDisable
    let s := { s with broadcastingAnything := false }
    let key ← issue (.configKey s.currentKey)
    issue (.prepareAirtag key)
    let s ← setMacFromCurrentKey s
    issue (.setMac s.bleAddr)
    let _ ← issue .btEnable
    let cfg ← issue .config
    issue (.setTxPower cfg.txPower.toNat)
    broadcast s

/-! ## Button -/

def handleButtonLongpress (s : StateMachine) : Main (Bool × StateMachine) := do
  let pressed ← issue .buttonPressed
  if !pressed then return (false, s)
  else
    issue (.sleepMs 1000)
    let pressed ← issue .buttonPressed
    if !pressed then return (false, s)
    else
      issue .wdtFeed
      issue (.blinkLed 2 true)
      waitButtonRelease 500
      issue (.setTurnedOn false)
      issue (.updateTurnedOn false)
      issue (.sleepMs 500)
      issue (.beaconAdvSetAllowed false)
      issue .beaconAdvCancelSync
      let _ ← issue .advStop
      issue .btDisable
      issue .powerOff
      return (true, { s with state := .shuttingDown })

/-! ## Broadcast start, alternation, accelerometer -/

def handleInitialBroadcast (s : StateMachine) : Main StateMachine := do
  let cfg ← issue .config
  if !s.broadcastingAirtag && !s.broadcastingFmdn && (cfg.flagAirtag || cfg.flagFmdn) then
    if cfg.flagAirtag then broadcast { s with broadcastingAirtag := true }
    else broadcast { s with broadcastingFmdn := true }
  else return s

def handleAirtagFmdnAlternation (s : StateMachine) : Main StateMachine := do
  let cfg ← issue .config
  if !(cfg.flagAirtag && cfg.flagFmdn) then return s
  else if s.broadcastingAirtag then
    broadcast { s with broadcastingAirtag := false, broadcastingFmdn := true }
  else broadcast { s with broadcastingAirtag := true, broadcastingFmdn := false }

def handleAccelerometer (s : StateMachine) : Main StateMachine := do
  let now ← issue .uptimeSeconds
  let cfg ← issue .config
  if cfg.accelThreshold ≤ 0 then return s
  else if now < s.timers.accelRead + kIntervalAccelerometer then return s
  else
    let _ ← issue .accelRead
    let s := { s with timers := { s.timers with accelRead := now } }
    if s.timers.accelReset + kIntervalAccelerometer * kAccelResetMultiplier ≤ now then
      let _ ← issue .accelInit
      return { s with timers := { s.timers with accelReset := now } }
    else return s

/-! ## Main tick -/

/-- The hourly save at the head of a broadcasting tick. -/
def handleTimeSave (s : StateMachine) : Main StateMachine := do
  let now ← issue .uptimeSeconds
  if s.timers.timeSave + kIntervalTimeSave ≤ now then
    issue .storeTime
    return { s with timers := { s.timers with timeSave := now } }
  else return s

/-- The sleep at the head of a tick, and the charge lock. -/
def tickSleep (s : StateMachine) : Main StateMachine := do
  if s.broadcastingSettings then
    issue (.sleepMs 1000)
  else
    let cfg ← issue .config
    issue (.sleepMs (1000 * cfg.multPeriod.toUInt32))
  issue .wdtFeed
  if s.chargeLockCounter > 0 then
    let cfg ← issue .config
    return { s with chargeLockCounter := s.chargeLockCounter - cfg.multPeriod.toNat }
  else return s

/-- The end of a broadcasting tick: start, or alternate. -/
def tickBroadcast (s : StateMachine) : Main StateMachine := do
  let cfg ← issue .config
  if !s.broadcastingAirtag && !s.broadcastingFmdn && (cfg.flagAirtag || cfg.flagFmdn) then
    handleInitialBroadcast s
  else if cfg.flagAirtag && cfg.flagFmdn then handleAirtagFmdnAlternation s
  else return s

/-- A broadcasting tick from the settings timer on. -/
def tickDuties (s : StateMachine) : Main StateMachine := do
  let now ← issue .uptimeSeconds
  if s.timers.settingsMode + kIntervalSettings ≤ now then handleSettingsModeEntry s
  else
    let s ← handleMaxPowerBurst s
    let s ← handleKeyRotation s
    let (stop, s) ← handleButtonLongpress s
    if stop then return s
    else
      let s ← handleAccelerometer s
      tickBroadcast s

/-- A tick in broadcasting mode, after the sleep. -/
def tickBroadcasting (s : StateMachine) : Main StateMachine := do
  let s ← handleTimeSave s
  let s ← handleBatteryCheck s
  let (stop, s) ← handleUvloShutdown s
  if stop then return s
  else
    let (stop, s) ← handleNokeysShutdown s
    if stop then return s else tickDuties s

def tick (s : StateMachine) : Main StateMachine := do
  if s.state = .shuttingDown || s.state = .firmwareUpload then return s
  else
    let s ← tickSleep s
    if s.state = .settingsMode || s.broadcastingSettings then handleSettingsModeExit s
    else tickBroadcasting s

theorem tick_of_ended {s : StateMachine} (h : s.state = .shuttingDown ∨ s.state = .firmwareUpload) :
    tick s = pure s := by
  simp [tick, h]

theorem tick_of_running {s : StateMachine} (h : ¬ (s.state = .shuttingDown ∨ s.state = .firmwareUpload)) :
    tick s = tickSleep s >>= fun s =>
      if s.state = .settingsMode ∨ s.broadcastingSettings = true then handleSettingsModeExit s
      else tickBroadcasting s := by
  rw [not_or] at h
  simp [tick, h]

/-! ## Main loop -/

/-- `glue_sync_gatt_state`: the flags are copied once before each tick. -/
def syncGattState (s : StateMachine) : Main StateMachine := do
  let f ← issue .glueSyncGattState
  return { s with connectedGatt := f.connected, authorizedGatt := f.authorized,
                  pauseUpload := f.pauseUpload, needsReset := f.needsReset }

/-- The body of the endless loop in `main`. -/
def mainLoop (s : StateMachine) : Main StateMachine := do
  let s ← syncGattState s
  tick s

end StateMachine

end Everytag
