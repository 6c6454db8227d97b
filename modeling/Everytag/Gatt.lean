import Everytag.Config

/-!
# The GATT layer

`gatt_glue.c` and the bridge functions at the end of `zephyr_hardware.cpp`, over one `Device`: the
settings, the C global `accelThreshold` and the globals of `gatt_glue.c`.  `GattEvent` is what the
Bluetooth host delivers to this layer (connection callbacks, reads, writes) together with the call
of `start_settings_adv`; `Device.handle` runs one of them and `Device.run` a sequence.

A write reaches its callback only through `write_authorize`.  The characteristics whose callbacks
differ in the bridge function alone are instances of `gatedWrite`; the bridge functions that
validate a 4-byte integer are instances of `handleInt`.
-/

namespace Everytag

open Bytes

/-! ## Validators -/

structure GattFieldSpec where
  expectedLen : Nat
  minVal : Int
  maxVal : Int
  allowedValues : Option (List Int)

inductive GattResult
  | ok | invalidLength | unauthorized | outOfRange
deriving DecidableEq, Repr

/-- The `int32_t` in the first four bytes. -/
def int32Of (buf : List UInt8) : Int := (BeaconConfig.readInt buf).toInt32.toInt

/-- `validate_field`; the second component is `out`, which only `Ok` writes. -/
def validateField (buf : List UInt8) (authorized : Bool) (spec : GattFieldSpec) (out : Int) :
    GattResult × Int :=
  if buf.length ≠ spec.expectedLen then (.invalidLength, out)
  else if !authorized then (.unauthorized, out)
  else
    let value := int32Of buf
    match spec.allowedValues with
    | some vs => if vs.contains value then (.ok, value) else (.outOfRange, out)
    | none =>
      if value < spec.minVal ∨ value > spec.maxVal then (.outOfRange, out) else (.ok, value)

/-- The bytes in which two arrays differ, or-ed together. -/
def diffBits (buf stored : List UInt8) : UInt8 :=
  (buf.zip stored).foldl (fun diff p => diff ||| (p.1 ^^^ p.2)) 0

def validateAuthCode (buf : List UInt8) (stored : AuthCode) : GattResult :=
  if buf.length ≠ 8 then .invalidLength
  else if diffBits buf stored.toList = 0 then .ok else .unauthorized

/-! ## Bridge functions -/

/-- The return code of `beacon_glue_handle_auth`. -/
def handleAuth (m : SettingsManager) (buf : List UInt8) : Int :=
  if buf.length ≠ 8 then -1
  else if validateAuthCode buf m.config.authCode = .ok then 1 else 0

/-- `beacon_glue_handle_key`; `none` is the NULL buffer passed at disconnect, `keysReceived` the
global of `gatt_glue.c` it reads. -/
def handleKey (m : SettingsManager) (keysReceived : Nat) : Option (List UInt8) → Int × SettingsManager
  | none => (0, m.save .key)
  | some buf =>
    if buf.length ≠ 14 then (-1, m)
    else if keysReceived ≥ 2 * kMaxKeysInMemory then (-1, m)
    else
      let keyIdx := keysReceived / 2
      let half := keysReceived % 2
      let config := m.config.setKeyChunk keyIdx (14 * half) buf
      (0, { m with config :=
        if half = 1 then config.setNumKeys (UInt8.ofNat (keyIdx + 1)) else config })

/-- The shape of the four bridge functions that validate an integer: set it and save it. -/
def handleInt (f : NvsFieldId) (spec : GattFieldSpec) (setter : BeaconConfig → Int → BeaconConfig)
    (m : SettingsManager) (buf : List UInt8) : Int × SettingsManager :=
  match validateField buf true spec 0 with
  | (.ok, value) => (buf.length, { m with config := setter m.config value }.save f)
  | _ => (buf.length, m)

def periodSpec : GattFieldSpec := ⟨4, 0, 0, some [1, 2, 4, 8]⟩
def changeIntervalSpec : GattFieldSpec := ⟨4, 30, 7200, none⟩
def txPowerSpec : GattFieldSpec := ⟨4, 0, 2, none⟩
def accelSpec : GattFieldSpec := ⟨4, 0, 16383, none⟩

def handlePeriod (m : SettingsManager) (buf : List UInt8) : Int × SettingsManager :=
  handleInt .period periodSpec (fun c v => (c.setMultPeriod (UInt8.ofInt v)).2) m buf

def handleChangeInterval (m : SettingsManager) (buf : List UInt8) : Int × SettingsManager :=
  handleInt .changeInterval changeIntervalSpec
    (fun c v => (c.setChangeInterval (UInt16.ofInt v)).2) m buf

def handleTxPower (m : SettingsManager) (buf : List UInt8) : Int × SettingsManager :=
  handleInt .power txPowerSpec (fun c v => (c.setTxPower (UInt8.ofInt v)).2) m buf

/-- The bridge functions of the two protocol flags. -/
def handleFlag (f : NvsFieldId) (setter : BeaconConfig → Bool → BeaconConfig) (m : SettingsManager)
    (buf : List UInt8) : Int × SettingsManager :=
  if buf.length ≠ 4 then (buf.length, m)
  else (buf.length, { m with config := setter m.config (decide (int32Of buf ≠ 0)) }.save f)

def handleFmdn (m : SettingsManager) (buf : List UInt8) : Int × SettingsManager :=
  handleFlag .fmdn BeaconConfig.setFlagFmdn m buf

def handleAirtag (m : SettingsManager) (buf : List UInt8) : Int × SettingsManager :=
  handleFlag .airtag BeaconConfig.setFlagAirtag m buf

/-- The bridge functions that store a block of `len` bytes. -/
def handleBlock (f : NvsFieldId) (len : Nat) (setter : BeaconConfig → List UInt8 → BeaconConfig)
    (m : SettingsManager) (buf : List UInt8) : Int × SettingsManager :=
  if buf.length ≠ len then (-1, m)
  else (buf.length, { m with config := setter m.config buf }.save f)

def handleFmdnKey (m : SettingsManager) (buf : List UInt8) : Int × SettingsManager :=
  handleBlock .fmdnKey 20 BeaconConfig.setFmdnKey m buf

def handleSettingsMac (m : SettingsManager) (buf : List UInt8) : Int × SettingsManager :=
  handleBlock .settingsMac 6 BeaconConfig.setSettingsMac m buf

def handleStatus (m : SettingsManager) (buf : List UInt8) : Int × SettingsManager :=
  handleBlock .status 4 (fun c bs => c.setStatusFlags (BeaconConfig.readInt bs)) m buf

def handleTimeOffsetWrite (m : SettingsManager) (uptime : UInt32) (buf : List UInt8) :
    Int × SettingsManager :=
  handleBlock .timeOffset 8 (fun c bs => c.updateTimeOffset (BeaconConfig.readInt64 bs) uptime) m buf

/-- `beacon_glue_handle_time_offset_read`: the value put into `*out_time`. -/
def handleTimeOffsetRead (m : SettingsManager) (uptime : UInt32) : Int64 := m.config.getTime uptime

/-! ## The device -/

/-- Globals of `gatt_glue.c`. -/
structure Gatt where
  connectedGatt : Bool := false
  authorizedGatt : Bool := false
  allowedChange : Bool := false
  needsReset : Bool := false
  pauseUpload : Bool := false
  keysReceived : Nat := 0
  updateKeysAtDisconnect : Bool := false
  timeValue : Int64 := 0
deriving DecidableEq, Repr

structure Device where
  settings : SettingsManager
  /-- C global of `zephyr_hardware.cpp`, read by the accelerometer driver -/
  accelThreshold : Int := 800
  gatt : Gatt := {}
deriving DecidableEq, Repr

/-- `beacon_glue_handle_accel`: the one bridge function that also writes a C global. -/
def handleAccel (d : Device) (buf : List UInt8) : Int × Device :=
  match validateField buf true accelSpec 0 with
  | (.ok, value) =>
    (buf.length,
      { d with
        settings := { d.settings with
          config := (d.settings.config.setAccelThreshold (UInt16.ofInt value)).2 }.save .accel
        accelThreshold := value })
  | _ => (buf.length, d)

inductive Chrc
  | auth | key | period | fmdn | airtag | changeInterval | txPower | fmdnKey | timeOffset
  | settingsMac | status | accel
deriving DecidableEq, Repr

/-- `BT_GATT_ERR(BT_ATT_ERR_INVALID_ATTRIBUTE_LEN)` -/
def errInvalidAttributeLen : Int := -0x0d
/-- `BT_GATT_ERR(BT_ATT_ERR_AUTHORIZATION)` -/
def errAuthorization : Int := -0x08

/-- What a callback returns: a code of its own, or that of `bt_gatt_attr_read` for a value, the room in the answer
and an offset. -/
inductive Reply
  | code (rc : Int)
  | attr (value : List UInt8) (len offset : Nat)
deriving DecidableEq, Repr

/-- `bt_gatt_attr_read`, a function of the host: the code returned, and the bytes sent. -/
abbrev AttrRead := List UInt8 → Nat → Nat → Int × List UInt8

/-- Its documentation: what there is of the value behind the offset, as far as there is room for it, and how many
bytes that are; an offset past the end is an error. -/
structure AttrRead.Documented (attrRead : AttrRead) : Prop where
  part : ∀ value len offset, offset ≤ value.length →
    (attrRead value len offset).2 = (value.drop offset).take len ∧
      (attrRead value len offset).1 = ((value.drop offset).take len).length
  past : ∀ value len offset, value.length < offset →
    (attrRead value len offset).1 < 0 ∧ (attrRead value len offset).2 = []

def Reply.answer (attrRead : AttrRead) : Reply → Int × List UInt8
  | .code rc => (rc, [])
  | .attr value len offset => attrRead value len offset

namespace Device

/-! ## Write and read callbacks -/

def chrcWriteAuth (d : Device) (buf : List UInt8) : Int × Device :=
  if handleAuth d.settings buf > 0 then
    (buf.length, { d with gatt := { d.gatt with allowedChange := true, authorizedGatt := true } })
  else
    (buf.length, { d with gatt :=
      { d.gatt with allowedChange := false, needsReset := false, pauseUpload := false } })

def chrcWriteKey (d : Device) (buf : List UInt8) : Int × Device :=
  if !d.gatt.allowedChange then (errInvalidAttributeLen, d)
  else
    let (rc, settings) := handleKey d.settings d.gatt.keysReceived (some buf)
    if rc < 0 then (errInvalidAttributeLen, { d with settings := settings })
    else
      let gatt := { d.gatt with keysReceived := d.gatt.keysReceived + 1 }
      if gatt.keysReceived % 2 = 0 then
        (buf.length, { d with settings := settings, gatt :=
          { gatt with needsReset := true, updateKeysAtDisconnect := true, pauseUpload := false } })
      else (buf.length, { d with settings := settings, gatt := gatt })

/-- The shape of the callbacks that only differ in their bridge function, and in whether the setting
takes effect after a restart. -/
def gatedWrite (restart : Bool) (bridge : Device → List UInt8 → Device) (d : Device)
    (buf : List UInt8) : Int × Device :=
  if !d.gatt.allowedChange then (buf.length, d)
  else
    let d := bridge d buf
    (buf.length, { d with gatt :=
      { d.gatt with needsReset := restart || d.gatt.needsReset, pauseUpload := false } })

/-- A bridge function that works on the settings alone. -/
def onSettings (bridge : SettingsManager → List UInt8 → Int × SettingsManager) (d : Device)
    (buf : List UInt8) : Device := { d with settings := (bridge d.settings buf).2 }

def chrcWritePeriod (d : Device) (buf : List UInt8) : Int × Device :=
  gatedWrite true (onSettings handlePeriod) d buf

def chrcWriteFmdn (d : Device) (buf : List UInt8) : Int × Device :=
  gatedWrite true (onSettings handleFmdn) d buf

def chrcWriteAirtag (d : Device) (buf : List UInt8) : Int × Device :=
  gatedWrite true (onSettings handleAirtag) d buf

def chrcWriteChangeInterval (d : Device) (buf : List UInt8) : Int × Device :=
  gatedWrite true (onSettings handleChangeInterval) d buf

def chrcWriteTxPower (d : Device) (buf : List UInt8) : Int × Device :=
  gatedWrite false (onSettings handleTxPower) d buf

def chrcWriteFmdnKey (d : Device) (buf : List UInt8) : Int × Device :=
  gatedWrite true (onSettings handleFmdnKey) d buf

def chrcWriteTimeOffset (d : Device) (uptime : UInt32) (buf : List UInt8) : Int × Device :=
  gatedWrite false (onSettings fun m => handleTimeOffsetWrite m uptime) d buf

def chrcWriteSettingsMac (d : Device) (buf : List UInt8) : Int × Device :=
  gatedWrite false (onSettings handleSettingsMac) d buf

/-- The status word reserved for firmware upload. -/
def dfuWord : UInt32 := 0xDFDF0001

def chrcWriteStatus (d : Device) (buf : List UInt8) : Int × Device :=
  if !d.gatt.allowedChange then (buf.length, d)
  else if buf.length = 4 ∧ BeaconConfig.readInt buf = dfuWord then
    (buf.length, { d with gatt := { d.gatt with pauseUpload := true } })
  else gatedWrite false (onSettings handleStatus) d buf

def chrcWriteAccel (d : Device) (buf : List UInt8) : Int × Device :=
  gatedWrite true (fun d buf => (handleAccel d buf).2) d buf

def chrcReadTimeOffset (d : Device) (uptime : UInt32) (len offset : Nat) : Reply × Device :=
  if len < 8 then (.code errInvalidAttributeLen, d)
  else if !d.gatt.allowedChange then (.code 0, d)
  else
    let t := handleTimeOffsetRead d.settings uptime
    (.attr (leBytes 8 t.toUInt64.toNat) len offset,
      { d with gatt := { d.gatt with timeValue := t, pauseUpload := false } })

/-- The callback the service definition registers for a characteristic. -/
def chrcWrite (d : Device) (uptime : UInt32) (buf : List UInt8) : Chrc → Int × Device
  | .auth => d.chrcWriteAuth buf
  | .key => d.chrcWriteKey buf
  | .period => d.chrcWritePeriod buf
  | .fmdn => d.chrcWriteFmdn buf
  | .airtag => d.chrcWriteAirtag buf
  | .changeInterval => d.chrcWriteChangeInterval buf
  | .txPower => d.chrcWriteTxPower buf
  | .fmdnKey => d.chrcWriteFmdnKey buf
  | .timeOffset => d.chrcWriteTimeOffset uptime buf
  | .settingsMac => d.chrcWriteSettingsMac buf
  | .status => d.chrcWriteStatus buf
  | .accel => d.chrcWriteAccel buf

def writeAuthorize (d : Device) (ch : Chrc) : Bool := d.gatt.authorizedGatt || ch == .auth

/-- A write request as the host dispatches it. -/
def attWrite (d : Device) (ch : Chrc) (uptime : UInt32) (buf : List UInt8) : Int × Device :=
  if d.writeAuthorize ch then d.chrcWrite uptime buf ch else (errAuthorization, d)

/-! ## Connection callbacks -/

def connected (d : Device) (err : UInt8) : Device :=
  let gatt := { d.gatt with allowedChange := false }
  { d with gatt := if err = 0 then { gatt with connectedGatt := true } else gatt }

def disconnected (d : Device) : Device :=
  let gatt := { d.gatt with connectedGatt := false, authorizedGatt := false, allowedChange := false }
  if gatt.updateKeysAtDisconnect then
    { d with
      settings := (handleKey d.settings gatt.keysReceived none).2
      gatt := { gatt with updateKeysAtDisconnect := false } }
  else { d with gatt := gatt }

def recycled (d : Device) : Device :=
  { d with gatt := { d.gatt with authorizedGatt := false, allowedChange := false } }

/-- The flags `start_settings_adv` clears before it registers the authorization callbacks and starts
advertising. -/
def startSettingsAdv (d : Device) : Device :=
  { d with gatt := { d.gatt with
      connectedGatt := false, authorizedGatt := false, allowedChange := false, keysReceived := 0,
      updateKeysAtDisconnect := false } }

end Device

/-! ## Events -/

inductive GattEvent
  | connected (err : UInt8)
  | disconnected
  | recycled
  | startSettingsAdv
  | readTime (uptime : UInt32) (len offset : Nat)
  | write (ch : Chrc) (uptime : UInt32) (buf : List UInt8)
deriving DecidableEq, Repr

namespace Device

/-- One event: the state it leaves, and what a read or a write returns. -/
def handle (d : Device) : GattEvent → Device × Option Reply
  | .connected err => (d.connected err, none)
  | .disconnected => (d.disconnected, none)
  | .recycled => (d.recycled, none)
  | .startSettingsAdv => (d.startSettingsAdv, none)
  | .readTime uptime len offset =>
    ((d.chrcReadTimeOffset uptime len offset).2, some (d.chrcReadTimeOffset uptime len offset).1)
  | .write ch uptime buf => ((d.attWrite ch uptime buf).2, some (.code (d.attWrite ch uptime buf).1))

/-- The bytes that an event sends to the client. -/
def told (attrRead : AttrRead) (d : Device) (e : GattEvent) : List UInt8 :=
  match (d.handle e).2 with
  | some reply => (reply.answer attrRead).2
  | none => []

def step (d : Device) (e : GattEvent) : Device := (d.handle e).1

def run (d : Device) (es : List GattEvent) : Device := es.foldl step d

@[simp] theorem run_nil (d : Device) : d.run [] = d := rfl

@[simp] theorem run_cons (d : Device) (e : GattEvent) (es : List GattEvent) :
    d.run (e :: es) = (d.step e).run es := rfl

theorem run_append (d : Device) (es fs : List GattEvent) : d.run (es ++ fs) = (d.run es).run fs :=
  List.foldl_append

/-- The device as `main` finds it: settings loaded, every global of the GATT layer zero. -/
def boot (nvs : Nvs) : Device :=
  let config := BeaconConfig.load nvs.read
  { settings := ⟨config, nvs⟩, accelThreshold := config.accelThreshold.toNat }

/-- Fresh out of the factory, with a client that has sent the default code. -/
def defaultSession : Device :=
  (boot .erased).run
    [.startSettingsAdv, .connected 0, .write .auth 0 defaultAuthCode.toList]

end Device

end Everytag
