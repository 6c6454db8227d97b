import Everytag.MovementByte
import Everytag.StateMachine

/-!
# Telemetry bytes

In telemetry mode the status bytes take turns: battery voltage, movement, temperature.  The two top bits say
which of them a byte is, because each of the values fits below its tag (`report_tells`).

The temperature is rounded by adding half a degree and dividing towards zero, which is the nearest degree for
-0.5 °C and above; below that it is the next higher one (`quantised_iff`).
-/

namespace Everytag

open StateMachine

/-- The two protocols, for what is said of either. -/
inductive Protocol
  | airtag | fmdn
deriving DecidableEq, Repr

namespace Protocol

def mode (p : Protocol) (f : StatusFlags) : StatusMode :=
  match p with
  | .airtag => f.airtagMode
  | .fmdn => f.fmdnMode

/-- The byte of the protocol among the two that are set. -/
def byte (p : Protocol) (airtagStatus fmdnStatus : UInt8) : UInt8 :=
  match p with
  | .airtag => airtagStatus
  | .fmdn => fmdnStatus

/-- What `compute_status` computes for the protocol. -/
def status (p : Protocol) (i : StatusInput) : UInt8 :=
  p.byte (computeStatus i).airtagStatus (computeStatus i).fmdnStatus

end Protocol

/-! ## Division towards zero -/

theorem tdiv_ten_of_nonneg {a : Int} (h : 0 ≤ a) : 10 * a.tdiv 10 ≤ a ∧ a < 10 * a.tdiv 10 + 10 := by
  rw [Int.tdiv_eq_ediv_of_nonneg h]
  omega

theorem tdiv_ten_of_nonpos {a : Int} (h : a ≤ 0) : a ≤ 10 * a.tdiv 10 ∧ 10 * a.tdiv 10 < a + 10 := by
  have hneg := tdiv_ten_of_nonneg (a := -a) (by omega)
  rw [Int.neg_tdiv] at hneg
  omega

/-! ## The temperature -/

section

variable {p : Protocol} {i : StatusInput} {t : Int16}

theorem temperatureCode_range (t : Int16) : 0 ≤ temperatureCode t ∧ temperatureCode t ≤ 63 := by
  simp only [temperatureCode]
  split <;> split <;> omega

/-- The degrees above -10 before the clamp. -/
theorem temperatureCode_eq (t : Int16) :
    temperatureCode t = max 0 (min 63 ((t.toInt + 5).tdiv 10 + 10)) := by
  simp only [temperatureCode]
  split <;> split <;> omega

theorem temperatureCode_mono {t t' : Int16} (h : t.toInt ≤ t'.toInt) :
    temperatureCode t ≤ temperatureCode t' := by
  rw [temperatureCode_eq, temperatureCode_eq]
  have hdiv : (t.toInt + 5).tdiv 10 ≤ (t'.toInt + 5).tdiv 10 := by
    rcases Int.le_total 0 (t.toInt + 5) with hpos | hneg
    · have h₁ := tdiv_ten_of_nonneg hpos
      have h₂ := tdiv_ten_of_nonneg (a := t'.toInt + 5) (by omega)
      omega
    · have h₁ := tdiv_ten_of_nonpos hneg
      rcases Int.le_total 0 (t'.toInt + 5) with hpos' | hneg'
      · have h₂ := tdiv_ten_of_nonneg hpos'
        omega
      · have h₂ := tdiv_ten_of_nonpos hneg'
        omega
  omega

/-- The 6-bit code in a status byte. -/
def Protocol.code (p : Protocol) (i : StatusInput) : Int := (p.status i &&& 0x3F).toNat

theorem computeOneStatus_temperature {base shift : UInt8} {only : Bool} (h : i.whatInStatus = 2) :
    computeOneStatus base .telemetry i shift only = UInt8.ofInt (temperatureCode i.temperature) ||| 0x40 := by
  simp [computeOneStatus, h]

theorem status_temperature (hmode : p.mode i.status = .telemetry) (h : i.whatInStatus = 2) :
    p.status i = UInt8.ofInt (temperatureCode i.temperature) ||| 0x40 := by
  cases p with
  | airtag =>
    replace hmode : i.status.airtagMode = .telemetry := hmode
    simp only [Protocol.status, Protocol.byte, computeStatus, hmode, computeOneStatus_temperature h]
  | fmdn =>
    replace hmode : i.status.fmdnMode = .telemetry := hmode
    simp only [Protocol.status, Protocol.byte, computeStatus, hmode, computeOneStatus_temperature h]

theorem tagged_sixBits : ∀ n < 64, ((UInt8.ofInt (n : Nat) ||| 0x40) &&& 0x3F).toNat = n := by
  decide

theorem code_temperature (hmode : p.mode i.status = .telemetry) (h : i.whatInStatus = 2) :
    p.code i = temperatureCode i.temperature := by
  obtain ⟨hlo, hhi⟩ := temperatureCode_range i.temperature
  obtain ⟨n, hn⟩ := Int.eq_ofNat_of_zero_le hlo
  rw [Protocol.code, status_temperature hmode h, hn, tagged_sixBits n (by omega)]

/-- What the code of a temperature `t` in 0.1 degree units should be. -/
structure Quantised (p : Protocol) (i : StatusInput) (t : Int) : Prop where
  nearest : -100 ≤ t → t ≤ 530 → |(p.code i - 10) * 10 - t| ≤ 5
  below : t < -100 → p.code i = 0
  above : 530 < t → p.code i = 63
  mono : ∀ t' : Int16, t ≤ t'.toInt → p.code i ≤ p.code { i with temperature := t' }

/-- The temperatures that the division rounds as meant. -/
def RoundsWell (t : Int) : Prop := -5 ≤ t ∨ t ≤ -105 ∨ 10 ∣ t + 5

instance (t : Int) : Decidable (RoundsWell t) := by
  unfold RoundsWell; infer_instance

/-- Exactly these are rounded to the nearest degree and clamped at -10 and 53 degrees; the order is kept for
all. -/
theorem quantised_iff (p : Protocol) (i : StatusInput) (hmode : p.mode i.status = .telemetry)
    (hsel : i.whatInStatus = 2) :
    Quantised p i i.temperature.toInt ↔ RoundsWell i.temperature.toInt := by
  have hmono (t' : Int16) (h : i.temperature.toInt ≤ t'.toInt) :
      p.code i ≤ p.code { i with temperature := t' } := by
    have hcode : p.code { i with temperature := t' } = temperatureCode t' :=
      code_temperature (i := { i with temperature := t' }) hmode hsel
    rw [code_temperature hmode hsel, hcode]
    exact temperatureCode_mono h
  have hcode := (code_temperature hmode hsel).trans (temperatureCode_eq i.temperature)
  generalize i.temperature.toInt = t at hmono hcode ⊢
  constructor
  · rintro ⟨hnearest, hbelow, -, -⟩
    rw [RoundsWell]
    by_contra hbad
    simp only [not_or, not_le] at hbad
    have hdiv := tdiv_ten_of_nonpos (a := t + 5) (by omega)
    rcases lt_or_ge t (-100) with hlow | hge
    · have hzero := hbelow hlow
      omega
    · have hnear := abs_le.1 (hnearest hge (by omega))
      omega
  · intro hgood
    rcases lt_or_ge t (-5) with hneg | hpos
    · have hdiv := tdiv_ten_of_nonpos (a := t + 5) (by omega)
      rcases hgood with h | h | h
      · omega
      · exact ⟨by omega, by omega, by omega, hmono⟩
      · refine ⟨fun _ _ => abs_le.2 ?_, by omega, by omega, hmono⟩
        omega
    · have hdiv := tdiv_ten_of_nonneg (a := t + 5) (by omega)
      refine ⟨fun _ _ => abs_le.2 ?_, by omega, by omega, hmono⟩
      omega

end

/-- A temperature for both protocols. -/
def measured (t : Int16) : StatusInput where
  status := ⟨0, 0, .telemetry, .telemetry⟩
  batteryVoltage := 3000
  keysChanges := 0
  whatInStatus := 2
  accelByte := 0
  temperature := t

theorem quantised_iff_warm : Quantised .airtag (measured 249) 249 :=
  (quantised_iff .airtag (measured 249) rfl rfl).2 (by decide)

/-- -0.7 °C is sent as 0 °C. -/
theorem frost_rounded_up : ¬ Quantised .fmdn (measured (-7)) (-7) := by
  intro h
  have hcode : Protocol.fmdn.code (measured (-7)) = 10 := by decide
  have hnear := h.nearest (by decide) (by decide)
  rw [hcode] at hnear
  exact absurd hnear (by decide)

/-! ## The kinds of byte -/

section

variable {p : Protocol} {i : StatusInput}

/-- What the top two bits say. -/
def kindOf (byte : UInt8) : WhatInStatus :=
  if byte &&& 0x80 ≠ 0 then .accel else if byte &&& 0x40 ≠ 0 then .temperature else .voltage

theorem kindOf_accel : ∀ n < 128, kindOf (0x80 ||| UInt8.ofNat n) = .accel ∧
    (0x80 ||| UInt8.ofNat n) &&& 0x7F = UInt8.ofNat n := by
  decide

theorem kindOf_temperature : ∀ n < 64, kindOf (UInt8.ofInt (n : Nat) ||| 0x40) = .temperature := by
  decide

theorem kindOf_voltage : ∀ n < 64, kindOf (UInt8.ofNat n) = .voltage ∧ (UInt8.ofNat n).toNat = n := by
  decide

/-- The movement byte leaves the top bit alone. -/
theorem computeAccelByte_lt (m : Moves) : m.computeAccelByte.toNat < 128 := by
  refine Nat.lt_pow_two_of_testBit (n := 7) _ fun b hb => ?_
  have hmask : ∀ w ∈ Moves.accelWindows, w.2.2.toNat < 2 ^ 7 := by decide
  rw [← Bool.not_eq_true, Moves.computeAccelByte, Moves.testBit_foldl_windows]
  rintro (h0 | ⟨w, hw, -, hbit⟩)
  · simp at h0
  · have hle : 2 ^ 7 ≤ 2 ^ b := Nat.pow_le_pow_right (by decide) hb
    have hlt := hmask w hw
    rw [Nat.testBit_lt_two_pow (by omega)] at hbit
    cases hbit

/-- What a telemetry byte should tell, with what was known when it was computed. -/
structure Report where
  flags : StatusFlags
  accel : UInt8
  temperature : Int16
  battery : Int
  airtagStatus : UInt8
  fmdnStatus : UInt8

namespace Report

def byte (p : Protocol) (r : Report) : UInt8 := p.byte r.airtagStatus r.fmdnStatus

def kind (p : Protocol) (r : Report) : WhatInStatus := kindOf (r.byte p)

/-- The rest of the byte is the value of its kind; a reading below 0 mV counts as 0. -/
def Decodes (p : Protocol) (r : Report) : Prop :=
  match r.kind p with
  | .accel => r.byte p &&& 0x7F = r.accel
  | .temperature => ((r.byte p &&& 0x3F).toNat : Int) = temperatureCode r.temperature
  | .voltage => (r.byte p).toNat = r.battery.toNat / 100

/-- In telemetry mode the byte is of the kind `k` and can be decoded. -/
def Tells (k : WhatInStatus) (r : Report) : Prop :=
  ∀ p : Protocol, p.mode r.flags = .telemetry → r.kind p = k ∧ r.Decodes p

end Report

/-- A reading below 6400 mV in units of 100 mV. -/
theorem storedVoltage_div {v : Int} (h : v < 6400) :
    (storedVoltage v / 100).toUInt8 = UInt8.ofNat (v.toNat / 100) := by
  have hv : (storedVoltage v).toNat = v.toNat := by
    rw [storedVoltage]
    split
    · rw [UInt16.ofInt, UInt16.toNat_ofNat_of_lt' (by simp only [UInt16.size]; omega)]
      omega
    · simp only [UInt16.toNat_zero]
      omega
  apply UInt8.toNat_inj.1
  rw [UInt16.toNat_toUInt8, UInt16.toNat_div, hv]
  rfl

/-- The byte of a protocol in telemetry mode, by the kind that is due. -/
theorem status_telemetry (hmode : p.mode i.status = .telemetry) {k : WhatInStatus}
    (hk : i.whatInStatus = k.toUInt8) : p.status i =
      match k with
      | .voltage => (i.batteryVoltage / 100).toUInt8
      | .accel => 0x80 ||| i.accelByte
      | .temperature => UInt8.ofInt (temperatureCode i.temperature) ||| 0x40 := by
  cases p with
  | airtag =>
    replace hmode : i.status.airtagMode = .telemetry := hmode
    cases k <;>
      simp [Protocol.status, Protocol.byte, computeStatus, hmode, computeOneStatus, hk, WhatInStatus.toUInt8]
  | fmdn =>
    replace hmode : i.status.fmdnMode = .telemetry := hmode
    cases k <;>
      simp [Protocol.status, Protocol.byte, computeStatus, hmode, computeOneStatus, hk, WhatInStatus.toUInt8]

/-- The report on what `compute_status` computes, after the reading `v` of the battery. -/
def StatusInput.report (i : StatusInput) (v : Int) : Report where
  flags := i.status
  accel := i.accelByte
  temperature := i.temperature
  battery := v
  airtagStatus := (computeStatus i).airtagStatus
  fmdnStatus := (computeStatus i).fmdnStatus

theorem StatusInput.report_byte (v : Int) : (i.report v).byte p = p.status i := rfl

/-- What is computed from fresh readings is of the kind that is due. -/
theorem report_tells {k : WhatInStatus} {v : Int} (hk : i.whatInStatus = k.toUInt8)
    (haccel : i.accelByte.toNat < 128) (hv : v < 6400) (hstored : i.batteryVoltage = storedVoltage v) :
    (i.report v).Tells k := by
  intro p hmode
  have hbyte := StatusInput.report_byte (p := p) (i := i) v
  rw [status_telemetry hmode hk] at hbyte
  rw [Report.Decodes, Report.kind, hbyte]
  cases k with
  | voltage =>
    obtain ⟨hkind, hval⟩ := kindOf_voltage (v.toNat / 100) (by omega)
    simp only [hstored, storedVoltage_div hv, hkind, hval, StatusInput.report, and_self]
  | accel =>
    obtain ⟨hkind, hval⟩ := kindOf_accel i.accelByte.toNat haccel
    rw [UInt8.ofNat_toNat] at hkind hval
    simp only [hkind, hval, StatusInput.report, and_self]
  | temperature =>
    obtain ⟨hlo, hhi⟩ := temperatureCode_range i.temperature
    obtain ⟨n, hn⟩ := Int.eq_ofNat_of_zero_le hlo
    have hkind := kindOf_temperature n (by omega)
    have hval := tagged_sixBits n (by omega)
    simp only [StatusInput.report, hn, hkind, hval, and_self]

end

end Everytag
