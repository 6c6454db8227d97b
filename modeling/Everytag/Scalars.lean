import Everytag.Persistence
import Everytag.Records

/-!
# The validated scalars

Period, power, change interval and accelerometer threshold are stored as 4-byte integers and kept in
8 or 16 bits.  Two paths lead into the configuration.  `load` narrows the integer first and validates
then (`field_load`); the GATT handlers validate the integer against a range of their own, narrow it
and call the same setter, whose verdict they drop (`bridge_of_ok`).

    s.field m.load.config = s.documented v ↔ s.FallsBack v           (load_scalar_iff)
    s.Agrees d buf ↔ ¬ s.Overreaches buf    for every d that is reached    (bridge_scalar_iff)
-/

namespace Everytag

open Bytes BeaconConfig

inductive Scalar
  | period | power | changeInterval | accel
deriving DecidableEq, Repr

namespace Scalar

def record : Scalar → NvsFieldId
  | .period => .period
  | .power => .power
  | .changeInterval => .changeInterval
  | .accel => .accel

/-- The number in the configuration. -/
def field : Scalar → BeaconConfig → Nat
  | .period, c => c.multPeriod.toNat
  | .power, c => c.txPower.toNat
  | .changeInterval, c => c.changeInterval.toNat
  | .accel, c => c.accelThreshold.toNat

/-- The width of the field in bits. -/
def width : Scalar → Nat
  | .period | .power => 8
  | .changeInterval | .accel => 16

/-- The setter, with the narrowing that stands in front of it in `load`. -/
def setter : Scalar → BeaconConfig → UInt32 → BeaconConfig
  | .period, c, v => (c.setMultPeriod v.toUInt8).2
  | .power, c, v => (c.setTxPower v.toUInt8).2
  | .changeInterval, c, v => (c.setChangeInterval v.toUInt16).2
  | .accel, c, v => (c.setAccelThreshold v.toUInt16).2

/-- The set that the documentation of the field gives. -/
def Documented : Scalar → Nat → Prop
  | .period, v => v = 1 ∨ v = 2 ∨ v = 4 ∨ v = 8
  | .power, v => v ≤ 2
  | .changeInterval, v => 32 ≤ v ∧ v ≤ 7200
  | .accel, v => v ≤ 16383

instance (s : Scalar) (v : Nat) : Decidable (s.Documented v) := by
  cases s <;> (unfold Documented; infer_instance)

/-- The interval is aligned down to a multiple of 8. -/
def rounded : Scalar → Nat → Nat
  | .changeInterval, v => v - v % 8
  | _, v => v

/-- What a load should make of a stored integer: itself, or the default. -/
def documented (s : Scalar) (v : Nat) : Nat :=
  if s.Documented v then s.rounded v else s.field {}

variable {s t : Scalar} {c : BeaconConfig} {v : UInt32}

/-! ## Setters -/

theorem documented_lt {n : Nat} (h : s.Documented n) : n < 2 ^ s.width := by
  cases s <;> (simp only [Documented, width] at h ⊢; omega)

theorem toNat_setMultPeriod (c : BeaconConfig) (n : UInt8) :
    (c.setMultPeriod n).2.multPeriod.toNat =
      if Scalar.period.Documented n.toNat then n.toNat else c.multPeriod.toNat := by
  have hiff : (n ≠ 1 ∧ n ≠ 2 ∧ n ≠ 4 ∧ n ≠ 8) ↔ ¬ Scalar.period.Documented n.toNat := by
    simp only [Documented, ne_eq, ← UInt8.toNat_inj, not_or]
    rfl
  simp only [setMultPeriod, hiff, ite_not]
  split <;> rfl

theorem toNat_setTxPower (c : BeaconConfig) (n : UInt8) :
    (c.setTxPower n).2.txPower.toNat =
      if Scalar.power.Documented n.toNat then n.toNat else c.txPower.toNat := by
  have hiff : n > 2 ↔ ¬ Scalar.power.Documented n.toNat := by
    simp only [Documented, gt_iff_lt, UInt8.lt_iff_toNat_lt, not_le]
    rfl
  simp only [setTxPower, hiff, ite_not]
  split <;> rfl

theorem toNat_setChangeInterval (c : BeaconConfig) (n : UInt16) :
    (c.setChangeInterval n).2.changeInterval.toNat =
      if Scalar.changeInterval.Documented n.toNat then n.toNat - n.toNat % 8
      else c.changeInterval.toNat := by
  have hle : n % 8 ≤ n := UInt16.le_iff_toNat_le.2 (by simpa using Nat.mod_le n.toNat 8)
  have ha : (n - n % 8).toNat = n.toNat - n.toNat % 8 := UInt16.toNat_sub_of_le _ _ hle
  have hiff : (n - n % 8 < 32 ∨ n > 7200) ↔ ¬ Scalar.changeInterval.Documented n.toNat := by
    simp only [Documented, gt_iff_lt, UInt16.lt_iff_toNat_lt, ha, not_and_or, not_le]
    show n.toNat - n.toNat % 8 < 32 ∨ 7200 < n.toNat ↔ _
    omega
  simp only [setChangeInterval, hiff, ite_not]
  split
  · exact ha
  · rfl

theorem toNat_setAccelThreshold (c : BeaconConfig) (n : UInt16) :
    (c.setAccelThreshold n).2.accelThreshold.toNat =
      if Scalar.accel.Documented n.toNat then n.toNat else c.accelThreshold.toNat := by
  have hiff : n > 16383 ↔ ¬ Scalar.accel.Documented n.toNat := by
    simp only [Documented, gt_iff_lt, UInt16.lt_iff_toNat_lt, not_le]
    rfl
  simp only [setAccelThreshold, hiff, ite_not]
  split <;> rfl

/-- A setter sees the narrowed integer, and accepts it when that is in the documented set. -/
theorem field_setter (s : Scalar) (c : BeaconConfig) (v : UInt32) :
    s.field (s.setter c v) =
      if s.Documented (v.toNat % 2 ^ s.width) then s.rounded (v.toNat % 2 ^ s.width) else s.field c := by
  cases s with
  | period => exact toNat_setMultPeriod c v.toUInt8
  | power => exact toNat_setTxPower c v.toUInt8
  | changeInterval => exact toNat_setChangeInterval c v.toUInt16
  | accel => exact toNat_setAccelThreshold c v.toUInt16

/-- The configuration with the field at its default: all that the other fields hold. -/
def others : Scalar → BeaconConfig → BeaconConfig
  | .period, c => { c with multPeriod := 2 }
  | .power, c => { c with txPower := 2 }
  | .changeInterval, c => { c with changeInterval := 6000 }
  | .accel, c => { c with accelThreshold := 800 }

/-- A setter writes no other field. -/
theorem others_setter (s : Scalar) (c : BeaconConfig) (v : UInt32) :
    s.others (s.setter c v) = s.others c := by
  cases s with
  | period => simp only [setter, setMultPeriod]; split <;> rfl
  | power => simp only [setter, setTxPower]; split <;> rfl
  | changeInterval => simp only [setter, setChangeInterval]; split <;> rfl
  | accel => simp only [setter, setAccelThreshold]; split <;> rfl

theorem field_others (h : s ≠ t) : s.field (t.others c) = s.field c := by
  cases s <;> cases t <;> first | rfl | exact absurd rfl h

theorem field_setter_of_ne (h : s ≠ t) : s.field (t.setter c v) = s.field c := by
  rw [← field_others h, others_setter, field_others h]

/-! ## Load -/

/-- The integer a read delivers, as the field's type keeps it. -/
def narrowed (s : Scalar) (v : UInt32) : Nat := v.toNat % 2 ^ s.width

/-- The read of a scalar in a load. -/
def read (rd : NvsRead) (s : Scalar) : BeaconConfig → BeaconConfig := readAndApply rd s.record.id s.setter

/-- The read changes the configuration. -/
def Accepted (rd : NvsRead) (s : Scalar) : Prop :=
  0 < (rd s.record.id 4).1 ∧ s.Documented (s.narrowed (readInt (rd s.record.id 4).2))

instance (rd : NvsRead) (s : Scalar) : Decidable (s.Accepted rd) := by
  unfold Accepted; infer_instance

/-- The value it leaves then. -/
def taken (rd : NvsRead) (s : Scalar) : Nat := s.rounded (s.narrowed (readInt (rd s.record.id 4).2))

variable {rd : NvsRead}

theorem field_read : s.field (s.read rd c) = if s.Accepted rd then s.taken rd else s.field c := by
  simp only [read, readAndApply]
  by_cases hr : 0 < (rd s.record.id 4).1
  · simp only [gt_iff_lt, hr, if_true, field_setter, Accepted, true_and]
    rfl
  · simp only [gt_iff_lt, hr, if_false, Accepted, false_and]

/-- A step of the load keeps the field, apart from the one that reads it. -/
def OwnOrKept (rd : NvsRead) (s : Scalar) (step : BeaconConfig → BeaconConfig) : Prop :=
  step = s.read rd ∨ ∀ c, s.field (step c) = s.field c

theorem ownOrKept_read (s t : Scalar) : OwnOrKept rd s (t.read rd) := by
  by_cases h : s = t
  · exact .inl (by rw [h])
  · exact .inr (apply_readAndApply (fun _ _ => field_setter_of_ne h) rd _)

theorem ownOrKept_loadSteps (s : Scalar) (rd : NvsRead) : ∀ step ∈ loadSteps rd, OwnOrKept rd s step := by
  simp only [loadSteps, List.forall_mem_cons]
  refine ⟨.inr fun c => ?_, .inr fun c => ?_, .inr fun c => ?_, ownOrKept_read s .period,
    ownOrKept_read s .power, ownOrKept_read s .changeInterval, .inr ?_, ownOrKept_read s .accel,
    .inr fun c => ?_, .inr fun c => ?_, .inr fun c => ?_, .inr ?_, .inr ?_, List.forall_mem_nil _⟩
  · cases s <;> rfl
  · cases s <;> rfl
  · cases s <;> rfl
  · exact apply_readAndApply (fun c v => by cases s <;> rfl) rd _
  · split
    · cases s <;> rfl
    · rfl
  · cases s <;> rfl
  · cases s <;> rfl
  · exact apply_loadKeys (fun _ _ _ => by cases s <;> rfl) rd
  · exact apply_loadFmdnKey (fun _ _ => by cases s <;> rfl) rd

theorem read_mem_loadSteps (s : Scalar) (rd : NvsRead) : s.read rd ∈ loadSteps rd := by
  cases s with
  | period => exact List.mem_of_getElem? (i := 3) rfl
  | power => exact List.mem_of_getElem? (i := 4) rfl
  | changeInterval => exact List.mem_of_getElem? (i := 5) rfl
  | accel => exact List.mem_of_getElem? (i := 7) rfl

/-- The steps of a load keep a value that the read of the field would leave. -/
theorem field_foldl {steps : List (BeaconConfig → BeaconConfig)} {x : Nat}
    (hsteps : ∀ f ∈ steps, OwnOrKept rd s f) (hread : s.Accepted rd → s.taken rd = x)
    (hc : s.field c = x) : s.field (steps.foldl (fun c f => f c) c) = x := by
  induction steps generalizing c with
  | nil => exact hc
  | cons f steps ih =>
    refine ih (fun g hg => hsteps g (List.mem_cons_of_mem _ hg)) ?_
    rcases hsteps f List.mem_cons_self with rfl | hkept
    · rw [field_read]
      split
      · exact hread ‹_›
      · exact hc
    · rw [hkept, hc]

/-- A load validates the narrowed integer, and each scalar has its record to itself. -/
theorem field_load (s : Scalar) (rd : NvsRead) :
    s.field (load rd) = if s.Accepted rd then s.taken rd else s.field {} := by
  have hsteps := ownOrKept_loadSteps s rd
  by_cases ha : s.Accepted rd
  · obtain ⟨before, after, hsplit⟩ := List.append_of_mem (read_mem_loadSteps s rd)
    rw [load, hsplit, List.foldl_append, List.foldl_cons, if_pos ha]
    refine field_foldl (fun f hf => hsteps f ?_) (fun _ => rfl) ?_
    · rw [hsplit]
      exact List.mem_append_right _ (List.mem_cons_of_mem _ hf)
    · rw [field_read, if_pos ha]
  · rw [load, if_neg ha]
    exact field_foldl hsteps (fun h => absurd h ha) rfl

/-- The integers of which a load makes what the documentation says: those that the field's type holds, and
of the others those whose low bits are refused or happen to be the default. -/
def FallsBack (s : Scalar) (v : UInt32) : Prop :=
  v.toNat < 2 ^ s.width ∨ ¬ s.Documented (s.narrowed v) ∨ s.rounded (s.narrowed v) = s.field {}

instance (s : Scalar) (v : UInt32) : Decidable (s.FallsBack v) := by
  unfold FallsBack; infer_instance

theorem narrowed_of_lt (h : v.toNat < 2 ^ s.width) : s.narrowed v = v.toNat := Nat.mod_eq_of_lt h

theorem documented_narrowed :
    (if s.Documented (s.narrowed v) then s.rounded (s.narrowed v) else s.field {}) = s.documented v.toNat ↔
      s.FallsBack v := by
  by_cases hv : v.toNat < 2 ^ s.width
  · simp only [FallsBack, hv, narrowed_of_lt hv, documented, true_or]
  · have hbig : ¬ s.Documented v.toNat := fun h => hv (documented_lt h)
    simp only [FallsBack, hv, documented, hbig, if_false, false_or]
    by_cases hd : s.Documented (s.narrowed v)
    · simp only [hd, if_true, not_true_eq_false, false_or]
    · simp only [hd, if_false, not_false_eq_true, true_or]

end Scalar

open Scalar

theorem field_load_of_find {s : Scalar} {m : SettingsManager} {v : UInt32}
    (h : m.nvs.find s.record.id = some (intBytes v)) :
    s.field m.load.config =
      if s.Documented (s.narrowed v) then s.rounded (s.narrowed v) else s.field {} := by
  have hr : m.nvs.read s.record.id 4 = ((4 : Int), intBytes v) := by simpa using Nvs.read_of_find h
  have hpos : (0 : Int) < 4 := by decide
  rw [SettingsManager.load, field_load]
  simp only [Accepted, taken, hr, hpos, true_and, readInt_intBytes]

/-- Whatever the configuration held before and whatever the other records hold: a stored integer comes back
as documented exactly when it is one of `FallsBack`, and it always comes back alike. -/
theorem load_scalar_iff (s : Scalar) (m : SettingsManager) (v : UInt32)
    (h : m.nvs.find s.record.id = some (intBytes v)) :
    (s.field m.load.config = s.documented v.toNat ↔ s.FallsBack v) ∧
      ∀ m' : SettingsManager, m'.nvs.find s.record.id = some (intBytes v) →
        s.field m'.load.config = s.field m.load.config := by
  constructor
  · rw [field_load_of_find h, documented_narrowed]
  · intro m' h'
    rw [field_load_of_find h, field_load_of_find h']

theorem load_scalar_iff_wrapped :
    let m : SettingsManager := ⟨{}, ⟨[(NvsFieldId.power.id, intBytes 258)]⟩⟩
    m.nvs.find Scalar.power.record.id = some (intBytes 258) ∧
      Scalar.power.field m.load.config = Scalar.power.documented 258 :=
  ⟨rfl, (load_scalar_iff .power ⟨{}, ⟨[(NvsFieldId.power.id, intBytes 258)]⟩⟩ 258 rfl).1.2
    (.inr (.inr rfl))⟩

/-- A stored period of 257 loads as 1. -/
theorem wrapped_period_loads :
    ¬ Scalar.period.Documented 257 ∧ Scalar.period.field {} = 2 ∧
      Scalar.period.field
        (SettingsManager.load ⟨{}, ⟨[(NvsFieldId.period.id, intBytes 257)]⟩⟩).config = 1 := by
  refine ⟨by decide, by decide, ?_⟩
  have hfind : (⟨[(NvsFieldId.period.id, intBytes 257)]⟩ : Nvs).find Scalar.period.record.id =
      some (intBytes 257) := rfl
  rw [field_load_of_find hfind]
  decide

/-! ## GATT writes -/

namespace Scalar

def chrc : Scalar → Chrc
  | .period => .period
  | .power => .txPower
  | .changeInterval => .changeInterval
  | .accel => .accel

def spec : Scalar → GattFieldSpec
  | .period => periodSpec
  | .power => txPowerSpec
  | .changeInterval => changeIntervalSpec
  | .accel => accelSpec

variable {s : Scalar} {d : Device} {t : UInt32} {buf : List UInt8}

/-- What validator and setter should make together of a payload. -/
structure Agrees (s : Scalar) (d : Device) (t : UInt32) (buf : List UInt8) : Prop where
  ok : ∀ v, validateField buf true s.spec 0 = (.ok, v) → ∃ n : Nat, v = n ∧
    s.field (d.bridge t buf s.chrc).settings.config = s.rounded n ∧
    (d.bridge t buf s.chrc).settings.nvs.find s.record.id = some (intBytes (UInt32.ofNat (s.rounded n))) ∧
    (s = .accel → (d.bridge t buf s.chrc).accelThreshold = v)
  refused : (validateField buf true s.spec 0).1 ≠ .ok → d.bridge t buf s.chrc = d
  others : s.others (d.bridge t buf s.chrc).settings.config = s.others d.settings.config
  records : ∀ i, i ≠ s.record.id →
    (d.bridge t buf s.chrc).settings.nvs.find i = d.settings.nvs.find i
  accelThreshold : s ≠ .accel → (d.bridge t buf s.chrc).accelThreshold = d.accelThreshold

/-- The validator passes an interval that the setter refuses. -/
def Overreaches (s : Scalar) (buf : List UInt8) : Prop :=
  s = .changeInterval ∧ buf.length = 4 ∧ (int32Of buf = 30 ∨ int32Of buf = 31)

/-- What the validator lets pass. -/
def Admitted : Scalar → Int → Prop
  | .period, v => v = 1 ∨ v = 2 ∨ v = 4 ∨ v = 8
  | .power, v => 0 ≤ v ∧ v ≤ 2
  | .changeInterval, v => 30 ≤ v ∧ v ≤ 7200
  | .accel, v => 0 ≤ v ∧ v ≤ 16383

instance (s : Scalar) (v : Int) : Decidable (s.Admitted v) := by
  cases s <;> (unfold Admitted; infer_instance)

theorem validateField_spec :
    validateField buf true s.spec 0 =
      if buf.length ≠ 4 then (.invalidLength, 0)
      else if s.Admitted (int32Of buf) then (.ok, int32Of buf) else (.outOfRange, 0) := by
  have hlen : s.spec.expectedLen = 4 := by cases s <;> rfl
  have hrange (x lo hi : Int) : (x < lo ∨ x > hi) ↔ ¬ (lo ≤ x ∧ x ≤ hi) := by omega
  simp only [validateField, hlen]
  cases s with
  | period => simp [spec, periodSpec, Admitted]
  | power | changeInterval | accel =>
    simp only [spec, txPowerSpec, changeIntervalSpec, accelSpec, Admitted, hrange, ite_not, Bool.not_true,
      Bool.false_eq_true, if_false]

theorem validateField_ok {v : Int} :
    validateField buf true s.spec 0 = (.ok, v) ↔
      buf.length = 4 ∧ v = int32Of buf ∧ s.Admitted (int32Of buf) := by
  rw [validateField_spec]
  by_cases hlen : buf.length = 4
  · by_cases ha : s.Admitted (int32Of buf)
    · simp [hlen, ha, eq_comm]
    · simp [hlen, ha]
  · simp [hlen]

/-- The validator passes the documented integers, and two intervals more. -/
theorem documented_of_admitted {n : Nat} (h : s.Admitted n) :
    s.Documented n ∨ s = .changeInterval ∧ (n = 30 ∨ n = 31) := by
  cases s with
  | period | power | accel => exact .inl (by simp only [Admitted, Documented] at h ⊢; omega)
  | changeInterval =>
    simp only [Admitted, Documented, true_and] at h ⊢
    omega

theorem Admitted.nonneg {v : Int} (h : s.Admitted v) : 0 ≤ v := by
  cases s <;> (simp only [Admitted] at h; omega)

theorem ofInt_natCast_8 (n : Nat) : UInt8.ofInt n = (UInt32.ofNat n).toUInt8 := by
  rw [← UInt8.toNat_inj, UInt8.ofInt, UInt8.toNat_ofNat', UInt32.toNat_toUInt8, UInt32.toNat_ofNat']
  omega

theorem ofInt_natCast_16 (n : Nat) : UInt16.ofInt n = (UInt32.ofNat n).toUInt16 := by
  rw [← UInt16.toNat_inj, UInt16.ofInt, UInt16.toNat_ofNat', UInt32.toNat_toUInt16, UInt32.toNat_ofNat']
  omega

theorem handleInt_of_ok {f : NvsFieldId} {sp : GattFieldSpec} {set : BeaconConfig → Int → BeaconConfig}
    {m : SettingsManager} {v : Int} (h : validateField buf true sp 0 = (.ok, v)) :
    (handleInt f sp set m buf).2 = { m with config := set m.config v }.save f := by
  simp only [handleInt, h]

theorem handleInt_of_refused {f : NvsFieldId} {sp : GattFieldSpec}
    {set : BeaconConfig → Int → BeaconConfig} {m : SettingsManager}
    (h : (validateField buf true sp 0).1 ≠ .ok) : (handleInt f sp set m buf).2 = m := by
  unfold handleInt
  split
  · rename_i hok
    exact absurd (by rw [hok]) h
  · rfl

/-- The bridge function sets the validated integer and saves the record. -/
theorem bridge_of_ok {n : Nat} (h : validateField buf true s.spec 0 = (.ok, (n : Int))) :
    (d.bridge t buf s.chrc).settings =
      { d.settings with config := s.setter d.settings.config (UInt32.ofNat n) }.save s.record := by
  cases s with
  | period | power =>
    simp only [setter, ← ofInt_natCast_8]
    exact handleInt_of_ok h
  | changeInterval =>
    simp only [setter, ← ofInt_natCast_16]
    exact handleInt_of_ok h
  | accel =>
    replace h : validateField buf true accelSpec 0 = (.ok, (n : Int)) := h
    simp only [chrc, Device.bridge, handleAccel, h, setter, record, ← ofInt_natCast_16]

theorem accelThreshold_of_ok {v : Int} (h : validateField buf true accelSpec 0 = (.ok, v)) :
    (d.bridge t buf .accel).accelThreshold = v := by
  simp only [Device.bridge, handleAccel, h]

theorem bridge_of_refused (h : (validateField buf true s.spec 0).1 ≠ .ok) : d.bridge t buf s.chrc = d := by
  cases s with
  | period | power | changeInterval =>
    exact congrArg (fun settings => { d with settings := settings }) (handleInt_of_refused h)
  | accel =>
    simp only [chrc, Device.bridge, handleAccel]
    split
    · rename_i hok
      exact absurd (congrArg Prod.fst hok) h
    · rfl

theorem fieldBytes_record (s : Scalar) (c : BeaconConfig) :
    c.fieldBytes s.record = intBytes (UInt32.ofNat (s.field c)) := by
  cases s <;> simp [record, fieldBytes, field]

theorem find_save_raw {m : SettingsManager} {f : NvsFieldId} {i : UInt16} (h : i ≠ f.id) :
    (m.save f).nvs.find i = m.nvs.find i := by
  simp [SettingsManager.save, SettingsManager.saveField, h]

/-- An integer of the documented set is set as it is, or aligned down. -/
theorem field_setter_of_documented {n : Nat} (h : s.Documented n) (c : BeaconConfig) :
    s.field (s.setter c (UInt32.ofNat n)) = s.rounded n := by
  have hlt := documented_lt h
  have hn : (UInt32.ofNat n).toNat % 2 ^ s.width = n := by
    rw [UInt32.toNat_ofNat']
    cases s <;> (simp only [width] at hlt ⊢; omega)
  rw [field_setter, hn, if_pos h]

/-- Validator and setter agree on everything but the two intervals. -/
theorem agrees_of_not_overreaches (h : ¬ s.Overreaches buf) : s.Agrees d t buf := by
  by_cases hr : (validateField buf true s.spec 0).1 = .ok
  · obtain ⟨v, hv⟩ : ∃ v, validateField buf true s.spec 0 = (.ok, v) := ⟨_, Prod.ext hr rfl⟩
    obtain ⟨hlen, hint, hadm⟩ := validateField_ok.1 hv
    obtain ⟨n, hn⟩ := Int.eq_ofNat_of_zero_le hadm.nonneg
    subst hint
    rw [hn] at hv hadm
    have hdoc : s.Documented n := by
      refine (documented_of_admitted hadm).resolve_right ?_
      rintro ⟨hs, h30⟩
      exact h ⟨hs, hlen, by omega⟩
    have hset := bridge_of_ok (d := d) (t := t) hv
    refine ⟨fun v hv' => ⟨n, ?_, ?_, ?_, ?_⟩, fun hne => absurd hr hne, ?_, fun i hi => ?_,
      fun hs => ?_⟩
    · exact (congrArg Prod.snd (hv'.symm.trans hv))
    · rw [hset, SettingsManager.save_config, field_setter_of_documented hdoc]
    · rw [hset, SettingsManager.find_save, if_pos rfl, fieldBytes_record, field_setter_of_documented hdoc]
    · rintro rfl
      exact accelThreshold_of_ok hv'
    · rw [hset, SettingsManager.save_config, others_setter]
    · rw [hset, find_save_raw hi]
    · cases s with
      | accel => exact absurd rfl hs
      | _ => rfl
  · have hd := bridge_of_refused (d := d) (t := t) hr
    refine ⟨fun v hv => absurd (by rw [hv]) hr, fun _ => hd, ?_, fun i _ => ?_, fun _ => ?_⟩
    · rw [hd]
    · rw [hd]
    · rw [hd]

/-- There the setter has refused the value, and the old interval is not the aligned one. -/
theorem not_agrees_of_overreaches (hvalid : d.settings.config.Valid) (h : s.Overreaches buf) :
    ¬ s.Agrees d t buf := by
  obtain ⟨rfl, hlen, h30⟩ := h
  intro ha
  obtain ⟨n, hn⟩ : ∃ n : Nat, int32Of buf = n ∧ (n = 30 ∨ n = 31) := by
    rcases h30 with h30 | h30
    · exact ⟨30, h30, .inl rfl⟩
    · exact ⟨31, h30, .inr rfl⟩
  have hv : validateField buf true changeInterval.spec 0 = (.ok, (n : Int)) :=
    validateField_ok.2 ⟨hlen, hn.1.symm, by rw [hn.1]; simp only [Admitted]; omega⟩
  obtain ⟨k, hk, hfield, -⟩ := ha.ok n hv
  have hkn : k = n := by exact_mod_cast hk.symm
  have hold : 32 ≤ changeInterval.field d.settings.config := by
    simpa [UInt16.le_iff_toNat_le, field] using hvalid.changeInterval.2.1
  have hdoc : ¬ changeInterval.Documented ((UInt32.ofNat n).toNat % 2 ^ 16) := by
    rcases hn.2 with rfl | rfl <;> decide
  rw [bridge_of_ok hv, SettingsManager.save_config, field_setter] at hfield
  rw [show changeInterval.width = 16 from rfl, if_neg hdoc, hkn] at hfield
  simp only [rounded] at hfield
  omega

end Scalar

/-- Validator and setter, in every state that any sequence of operations reaches after a boot. -/
theorem bridge_scalar_iff (s : Scalar) (nvs : Nvs) (ops : List SettingsOp) (t : UInt32) (buf : List UInt8) :
    s.Agrees (ops.foldl Device.apply (Device.boot nvs)) t buf ↔ ¬ s.Overreaches buf := by
  have hboot : (Device.boot nvs).Sound := ⟨valid_load _, Nat.zero_le _⟩
  have hsound := hboot.foldl_apply ops
  exact ⟨fun ha ho => not_agrees_of_overreaches hsound.valid ho ha, agrees_of_not_overreaches⟩

/-- An interval of 30 passes the validator; the device keeps, and saves, the default. -/
theorem interval_thirty_disagrees :
    validateField (intBytes 30) true changeIntervalSpec 0 = (.ok, 30) ∧
      ¬ Scalar.changeInterval.Agrees (Device.boot .erased) 0 (intBytes 30) :=
  ⟨by decide, not_agrees_of_overreaches (valid_load Nvs.erased.read) ⟨rfl, by decide, .inl (by decide)⟩⟩

end Everytag
