import Everytag.Logic

/-!
# The reference for the status bytes

`original_c::update_status_byte` of the host tests.  It has one switch for each protocol, and both show
the battery voltage alone in mode 3; `compute_status` has one function for both protocols, whose
parameter `voltage_only_for_mode3` is false for FMDN.  That is the only difference
(`computeOneStatus_eq`).
-/

namespace Everytag

namespace OriginalC

/-- What both switches of the original function work on. -/
structure Readings where
  lastBatteryVoltage : Int
  keysChanges : Int
  whatInStatus : Int
  accelByte : UInt8
  accelTemperature : Int16

/-- One of the two switches, with the level that its `case 4` puts into the base byte. -/
def switchByte (mode : UInt32) (base level : UInt8) (r : Readings) : UInt8 :=
  if mode = 2 then UInt8.ofInt (r.keysChanges % 256)
  else if mode = 3 ∨ mode = 5 then
    let voltage := UInt8.ofInt (r.lastBatteryVoltage.tdiv 100)
    if mode = 3 ∨ r.whatInStatus = 0 then voltage
    else if r.whatInStatus = 2 then 0x40 ||| UInt8.ofInt (temperatureCode r.accelTemperature)
    else if r.whatInStatus = 1 then 0x80 ||| r.accelByte
    else voltage
  else if mode = 4 then base ||| level
  else base

def airtagLevel (v : Int) : UInt8 := if v > 4000 then 0 else if v > 3700 then 1 else if v > 3300 then 2 else 3

def fmdnLevel (v : Int) : UInt8 := if v > 3700 then 1 else if v > 3300 then 2 else if v > 0 then 3 else 0

/-- `original_c::update_status_byte` -/
def updateStatusByte (statusFlags : UInt32) (r : Readings) : StatusOutput where
  airtagStatus := switchByte ((statusFlags &&& 0xf0000) >>> 16) (statusFlags &&& 0xff).toUInt8
    (airtagLevel r.lastBatteryVoltage <<< 6) r
  fmdnStatus := switchByte ((statusFlags &&& 0xf00000) >>> 20) ((statusFlags &&& 0xff00) >>> 8).toUInt8
    (fmdnLevel r.lastBatteryVoltage <<< 5) r

end OriginalC

def StatusInput.readings (i : StatusInput) : OriginalC.Readings :=
  ⟨i.batteryVoltage.toNat, i.keysChanges.toNat, i.whatInStatus.toNat, i.accelByte, i.temperature⟩

open OriginalC

attribute [ext] StatusOutput

variable {i : StatusInput}

theorem toNat_ofInt_natCast (n : Nat) : (UInt8.ofInt n).toNat = n % 256 := by
  rw [UInt8.ofInt, UInt8.toNat_ofNat']
  omega

theorem voltageByte_eq (v : UInt16) : UInt8.ofInt ((v.toNat : Int).tdiv 100) = (v / 100).toUInt8 := by
  have hdiv : (v.toNat : Int).tdiv 100 = (v.toNat / 100 : Nat) := rfl
  apply UInt8.toNat_inj.1
  rw [hdiv, toNat_ofInt_natCast]
  simp

theorem keysByte_eq (k : UInt16) : UInt8.ofInt ((k.toNat : Int) % 256) = (k &&& 0xFF).toUInt8 := by
  have hmod : (k.toNat : Int) % 256 = (k.toNat % 256 : Nat) := rfl
  have hmask : k.toNat % 256 = k.toNat % 256 &&& 255 := by
    rw [Nat.and_two_pow_sub_one_eq_mod _ 8, Nat.mod_mod]
  apply UInt8.toNat_inj.1
  rw [hmod, toNat_ofInt_natCast]
  simpa using hmask

/-- A voltage against one of the levels. -/
theorem lt_toNat_iff {c v : UInt16} {n : Int} (h : (c.toNat : Int) = n) : n < (v.toNat : Int) ↔ c < v := by
  rw [UInt16.lt_iff_toNat_lt]
  omega

theorem airtagLevel_eq (v : UInt16) : airtagLevel v.toNat =
    if v > kBatteryLevelFull then 0 else if v > kBatteryLevelNormal then 1
    else if v > kBatteryLevelLow then 2 else 3 := by
  simp only [airtagLevel, gt_iff_lt, lt_toNat_iff (c := kBatteryLevelFull) (v := v) (n := 4000) rfl,
    lt_toNat_iff (c := kBatteryLevelNormal) (v := v) (n := 3700) rfl,
    lt_toNat_iff (c := kBatteryLevelLow) (v := v) (n := 3300) rfl]

theorem fmdnLevel_eq (v : UInt16) : fmdnLevel v.toNat =
    if v > kBatteryLevelNormal then 1 else if v > kBatteryLevelLow then 2 else if v > 0 then 3 else 0 := by
  simp only [fmdnLevel, gt_iff_lt, lt_toNat_iff (c := kBatteryLevelNormal) (v := v) (n := 3700) rfl,
    lt_toNat_iff (c := kBatteryLevelLow) (v := v) (n := 3300) rfl, lt_toNat_iff (c := 0) (v := v) (n := 0) rfl]

/-- What mode 5 shows. -/
def telemetryByte (i : StatusInput) : UInt8 :=
  if i.whatInStatus = 0 then (i.batteryVoltage / 100).toUInt8
  else if i.whatInStatus = 1 then 0x80 ||| i.accelByte
  else if i.whatInStatus = 2 then UInt8.ofInt (temperatureCode i.temperature) ||| 0x40
  else (i.batteryVoltage / 100).toUInt8

theorem switchByte_telemetry (base level : UInt8) (i : StatusInput) :
    switchByte 5 base level i.readings = telemetryByte i := by
  have hwhat (n : UInt8) : (i.whatInStatus.toNat : Int) = n.toNat ↔ i.whatInStatus = n := by
    rw [Int.natCast_inj, UInt8.toNat_inj]
  have h0 : (i.whatInStatus.toNat : Int) = 0 ↔ i.whatInStatus = 0 := hwhat 0
  have h1 : (i.whatInStatus.toNat : Int) = 1 ↔ i.whatInStatus = 1 := hwhat 1
  have h2 : (i.whatInStatus.toNat : Int) = 2 ↔ i.whatInStatus = 2 := hwhat 2
  simp only [switchByte, StatusInput.readings, voltageByte_eq, h0, h1, h2, telemetryByte]
  by_cases hw : i.whatInStatus = 1
  · simp [hw]
  · simp [hw, UInt8.or_comm]

/-- The shared function and a switch of the original, mode by mode.  They differ in mode 3, and only
without `voltageOnlyForMode3`. -/
theorem computeOneStatus_eq (base level : UInt8) (mode : UInt32) (i : StatusInput) (batteryShift : UInt8)
    (voltageOnlyForMode3 : Bool)
    (hlevel : computeOneStatus base .batteryLevel i batteryShift voltageOnlyForMode3 = base ||| level) :
    computeOneStatus base (.ofNibble mode) i batteryShift voltageOnlyForMode3 =
      if mode = 3 ∧ voltageOnlyForMode3 = false then telemetryByte i
      else switchByte mode base level i.readings := by
  by_cases h2 : mode = 2
  · subst h2
    exact (keysByte_eq _).symm
  by_cases h3 : mode = 3
  · subst h3
    cases voltageOnlyForMode3 with
    | true => exact (voltageByte_eq _).symm
    | false => simp [computeOneStatus, StatusMode.ofNibble, telemetryByte]
  by_cases h4 : mode = 4
  · subst h4
    exact hlevel
  by_cases h5 : mode = 5
  · subst h5
    rw [if_neg fun h => absurd h.1 (by decide), switchByte_telemetry]
    simp [computeOneStatus, StatusMode.ofNibble, telemetryByte]
  · have hbase : computeOneStatus base (.ofNibble mode) i batteryShift voltageOnlyForMode3 = base := by
      simp only [StatusMode.ofNibble, h2, h3, h4, h5, if_false]
      split
      · rfl
      · split <;> rfl
    simp [hbase, switchByte, h2, h3, h4, h5]

/-- The nibbles and bytes of the word, masked first or shifted first. -/
theorem airtagMode_eq (w : UInt32) : (w &&& 0xf0000) >>> 16 = (w >>> 16) &&& 0xF := by
  rw [UInt32.shiftRight_and]
  rfl

theorem fmdnMode_eq (w : UInt32) : (w &&& 0xf00000) >>> 20 = (w >>> 20) &&& 0xF := by
  rw [UInt32.shiftRight_and]
  rfl

theorem fmdnBase_eq (w : UInt32) : (w &&& 0xff00) >>> 8 = (w >>> 8) &&& 0xFF := by
  rw [UInt32.shiftRight_and]
  rfl

variable (word : UInt32) (i : StatusInput)

theorem airtagStatus_eq (h : i.status = .unpack word) :
    (computeStatus i).airtagStatus = (updateStatusByte word i.readings).airtagStatus := by
  simp only [computeStatus, h, updateStatusByte, StatusFlags.unpack, airtagMode_eq]
  rw [computeOneStatus_eq _ (airtagLevel i.batteryVoltage.toNat <<< 6) _ _ _ _ (by rw [airtagLevel_eq]; rfl)]
  simp [StatusInput.readings]

/-- Where the telemetry cycle shows the byte of the voltage. -/
theorem telemetryByte_eq_iff : telemetryByte i = (i.batteryVoltage / 100).toUInt8 ↔
    (i.whatInStatus = 1 → 0x80 ||| i.accelByte = (i.batteryVoltage / 100).toUInt8) ∧
    (i.whatInStatus = 2 →
      UInt8.ofInt (temperatureCode i.temperature) ||| 0x40 = (i.batteryVoltage / 100).toUInt8) := by
  by_cases h1 : i.whatInStatus = 1
  · simp [telemetryByte, h1]
  · by_cases h2 : i.whatInStatus = 2
    · simp [telemetryByte, h2]
    · simp [telemetryByte, h1, h2]

theorem fmdnStatus_eq_iff (h : i.status = .unpack word) :
    (computeStatus i).fmdnStatus = (updateStatusByte word i.readings).fmdnStatus ↔
      ((word >>> 20) &&& 0xF = 3 → telemetryByte i = (i.batteryVoltage / 100).toUInt8) := by
  simp only [computeStatus, h, updateStatusByte, StatusFlags.unpack, fmdnMode_eq, fmdnBase_eq]
  rw [computeOneStatus_eq _ (fmdnLevel i.batteryVoltage.toNat <<< 5) _ _ _ _ (by rw [fmdnLevel_eq]; rfl)]
  by_cases h3 : (word >>> 20) &&& 0xF = 3
  · rw [if_pos ⟨h3, rfl⟩, h3, ← voltageByte_eq]
    simp [switchByte, StatusInput.readings]
  · rw [if_neg fun h => h3 h.1]
    simp [h3, StatusInput.readings]

/-- The bytes are those of the reference exactly if the FMDN mode is not 3, or what the telemetry cycle
shows in place of the voltage is the byte of the voltage. -/
theorem computeStatus_eq_reference_iff (word : UInt32) (batteryVoltage keysChanges : UInt16)
    (whatInStatus accelByte : UInt8) (temperature : Int16) :
    computeStatus ⟨.unpack word, batteryVoltage, keysChanges, whatInStatus, accelByte, temperature⟩ =
        updateStatusByte word
          ⟨batteryVoltage.toNat, keysChanges.toNat, whatInStatus.toNat, accelByte, temperature⟩ ↔
      ((word >>> 20) &&& 0xF = 3 →
        (whatInStatus = 1 → 0x80 ||| accelByte = (batteryVoltage / 100).toUInt8) ∧
        (whatInStatus = 2 →
          UInt8.ofInt (temperatureCode temperature) ||| 0x40 = (batteryVoltage / 100).toUInt8)) := by
  let i : StatusInput := ⟨.unpack word, batteryVoltage, keysChanges, whatInStatus, accelByte, temperature⟩
  have hairtag := airtagStatus_eq word i rfl
  have hfmdn := fmdnStatus_eq_iff word i rfl
  rw [telemetryByte_eq_iff] at hfmdn
  rw [StatusOutput.ext_iff]
  exact (and_iff_right hairtag).trans hfmdn

/-- FMDN mode 3 at 3000 mV: where the reference shows 30, the accelerometer byte is shown. -/
theorem fmdn_mode_3_differs :
    ¬ ∀ (word : UInt32) (batteryVoltage keysChanges : UInt16) (whatInStatus accelByte : UInt8)
        (temperature : Int16), whatInStatus ≤ 2 →
      computeStatus ⟨.unpack word, batteryVoltage, keysChanges, whatInStatus, accelByte, temperature⟩ =
        updateStatusByte word
          ⟨batteryVoltage.toNat, keysChanges.toNat, whatInStatus.toNat, accelByte, temperature⟩ := by
  intro h
  exact absurd (h 0x300000 3000 0 1 0 250 (by decide)) (by decide)

end Everytag
