import Everytag.Config

/-!
# Advertisement bytes

`beacon_logic.cpp`: the MAC address a key stands for and the status bytes of the two protocols;
and the packed status word of `beacon_config.cpp`.
-/

namespace Everytag

/-! ## Status word -/

/-- `StatusMode`; a nibble without an enumerator stays what it is. -/
inductive StatusMode
  | off | fixed | incrementing | voltage | batteryLevel | telemetry
  | other (nibble : UInt32)
deriving DecidableEq, Repr

def StatusMode.ofNibble (n : UInt32) : StatusMode :=
  if n = 0 then .off
  else if n = 1 then .fixed
  else if n = 2 then .incrementing
  else if n = 3 then .voltage
  else if n = 4 then .batteryLevel
  else if n = 5 then .telemetry
  else .other n

structure StatusFlags where
  airtagBase : UInt8
  fmdnBase : UInt8
  airtagMode : StatusMode
  fmdnMode : StatusMode
deriving DecidableEq, Repr

def StatusFlags.unpack (raw : UInt32) : StatusFlags where
  airtagBase := (raw &&& 0xFF).toUInt8
  fmdnBase := ((raw >>> 8) &&& 0xFF).toUInt8
  airtagMode := .ofNibble ((raw >>> 16) &&& 0xF)
  fmdnMode := .ofNibble ((raw >>> 20) &&& 0xF)

/-! ## MAC address -/

/-- Key bytes 0 to 5 in reverse order, the top two bits set. -/
def deriveMacFromKey (key : Key) : Mac :=
  #v[key[5], key[4], key[3], key[2], key[1], key[0] ||| 0xC0]

/-! ## Offline Finding advertisement -/

abbrev OfflineFindingAdvTemplate := Vector UInt8 31

/-- Key bytes 6 to 27 from offset 7 on, and the top two bits of the key at offset 29. -/
def fillAdvTemplate (key : Key) (tmpl : OfflineFindingAdvTemplate) : OfflineFindingAdvTemplate :=
  (Bytes.blit tmpl 7 (key.toList.drop 6) (by simp)).set 29 (key[0] >>> 6) (by decide)

/-- How a finder puts a key together from the address and the advertisement it has seen. -/
def reassemble (mac : Mac) (adv : OfflineFindingAdvTemplate) : Key :=
  Vector.ofFn fun i =>
    if i.val = 0 then (mac[5] &&& (0x3F : UInt8)) ||| (adv[29] <<< (6 : UInt8))
    else if i.val < 6 then mac[5 - i.val]
    else adv[i.val + 1]

/-- The address has the top two bits of the key set; the advertisement brings them back. -/
theorem two_bits_back (b : UInt8) :
    ((b ||| 0xC0) &&& (0x3F : UInt8)) ||| (b >>> (6 : UInt8) <<< (6 : UInt8)) = b := by
  apply UInt8.eq_of_toBitVec_eq
  ext i hi
  obtain rfl | rfl | rfl | rfl | rfl | rfl | rfl | rfl :
    i = 0 ∨ i = 1 ∨ i = 2 ∨ i = 3 ∨ i = 4 ∨ i = 5 ∨ i = 6 ∨ i = 7 := by omega
  all_goals simp

theorem reassemble_fillAdvTemplate (key : Key) (tmpl : OfflineFindingAdvTemplate) :
    reassemble (deriveMacFromKey key) (fillAdvTemplate key tmpl) = key := by
  apply Vector.ext
  intro i hi
  simp only [reassemble, fillAdvTemplate, Vector.getElem_ofFn]
  split
  · subst i
    rw [Vector.getElem_set_self]
    exact two_bits_back key[0]
  · split
    · obtain rfl | rfl | rfl | rfl | rfl : i = 1 ∨ i = 2 ∨ i = 3 ∨ i = 4 ∨ i = 5 := by omega
      all_goals rfl
    · have hlt : i - 6 < 22 := by omega
      have hadd : 6 + (i - 6) = i := by omega
      rw [Vector.getElem_set_ne _ _ (by omega), Bytes.getElem_blit, if_pos (by omega)]
      simp [hlt, hadd]

/-- How a finder puts a key together from the address and the payload it has seen. -/
def recoverKey (mac : Mac) (payload : Vector UInt8 29) : Key :=
  Vector.ofFn fun i =>
    if i.val = 0 then (mac[5] &&& (0x3F : UInt8)) ||| (payload[27] <<< (6 : UInt8))
    else if i.val < 6 then mac[5 - i.val]
    else payload[i.val - 1]

/-! ## Status bytes -/

structure StatusInput where
  status : StatusFlags
  batteryVoltage : UInt16
  keysChanges : UInt16
  whatInStatus : UInt8
  accelByte : UInt8
  temperature : Int16

structure StatusOutput where
  airtagStatus : UInt8
  fmdnStatus : UInt8
deriving DecidableEq, Repr

def kBatteryLevelFull : UInt16 := 4000
def kBatteryLevelNormal : UInt16 := 3700
def kBatteryLevelLow : UInt16 := 3300

/-- Temperature in 0.1 degree units as the 6-bit code of -10 to 53 degrees. -/
def temperatureCode (t : Int16) : Int :=
  let tmpTemp := (t.toInt + 5).tdiv 10 + 10
  let tmpTemp := if tmpTemp < 0 then 0 else tmpTemp
  if tmpTemp > 63 then 63 else tmpTemp

/-- `compute_one_status`; `batteryShift` is 6 for AirTag and 5 for FMDN. -/
def computeOneStatus (baseStatus : UInt8) (mode : StatusMode) (i : StatusInput) (batteryShift : UInt8)
    (voltageOnlyForMode3 : Bool) : UInt8 :=
  match mode with
  | .fixed => baseStatus
  | .incrementing => (i.keysChanges &&& 0xFF).toUInt8
  | .voltage | .telemetry =>
    let baseStatus := (i.batteryVoltage / 100).toUInt8
    if (mode = .voltage ∧ voltageOnlyForMode3) ∨ i.whatInStatus = 0 then baseStatus
    else if i.whatInStatus = 1 then 0x80 ||| i.accelByte
    else if i.whatInStatus = 2 then UInt8.ofInt (temperatureCode i.temperature) ||| 0x40
    else baseStatus
  | .batteryLevel =>
    let battery : UInt8 :=
      if batteryShift = 6 then
        if i.batteryVoltage > kBatteryLevelFull then 0
        else if i.batteryVoltage > kBatteryLevelNormal then 1
        else if i.batteryVoltage > kBatteryLevelLow then 2
        else 3
      else
        if i.batteryVoltage > kBatteryLevelNormal then 1
        else if i.batteryVoltage > kBatteryLevelLow then 2
        else if i.batteryVoltage > 0 then 3
        else 0
    baseStatus ||| (battery <<< batteryShift)
  | .off | .other _ => baseStatus

def computeStatus (i : StatusInput) : StatusOutput where
  airtagStatus := computeOneStatus i.status.airtagBase i.status.airtagMode i 6 true
  fmdnStatus := computeOneStatus i.status.fmdnBase i.status.fmdnMode i 5 false

end Everytag
