import Everytag.I2cDrivers
import Mathlib.Data.List.Induction

/-!
# The power state of the I2C bus

Six functions of the drivers resume the bus, and only what follows on the path to their last line suspends it
again.  `Replies` is what the bus answers in one call, the readiness checks and the transfers each numbered from
the first; `Driver.Tidy` says for each function which answers take it past all of its early returns.
-/

namespace Everytag

open Interaction

inductive BusPower
  | suspended | resumed
deriving DecidableEq, Repr

/-- The CD line of the charger. -/
inductive CdLine
  | released | driven
deriving DecidableEq, Repr

/-- The lines, and how many checks and transfers the call has made. -/
structure Wires where
  bus : BusPower
  cd : CdLine := .released
  checks : Nat := 0
  transfers : Nat := 0
deriving DecidableEq, Repr

/-- What the bus answers in one call of a driver. -/
structure Replies where
  ready : Nat → Bool
  transfer : Nat → (c : I2cCall) → c.Ans

namespace Wires

/-- The drivers are called anew. -/
def begin (w : Wires) : Wires := { w with checks := 0, transfers := 0 }

def after (w : Wires) : I2cCall → Wires
  | .pmAction .suspend => { w with bus := .suspended }
  | .pmAction .resume => { w with bus := .resumed }
  | .configureCd .outputActive => { w with cd := .driven }
  | .configureCd .disconnected => { w with cd := .released }
  | .deviceIsReady => { w with checks := w.checks + 1 }
  | .regRead _ | .regWrite .. | .readTemp | .readFifo => { w with transfers := w.transfers + 1 }
  | .sleepMs _ | .uptimeSeconds => w

end Wires

/-- Power management and pins return any code. -/
def Replies.Gives (r : Replies) (w : Wires) : (c : I2cCall) → c.Ans → Prop
  | .deviceIsReady, a => a = r.ready w.checks
  | .regRead reg, a => a = r.transfer w.transfers (.regRead reg)
  | .regWrite reg value, a => a = r.transfer w.transfers (.regWrite reg value)
  | .readTemp, a => a = r.transfer w.transfers .readTemp
  | .readFifo, a => a = r.transfer w.transfers .readFifo
  | _, _ => True

def wiring (r : Replies) : World I2cCall I2cCall.Ans Wires where
  allowed _ _ := True
  step w c a w' := r.Gives w c a ∧ w' = w.after c
  move _ _ := False

instance (r : Replies) : (wiring r).Sequential := ⟨fun _ _ h => h⟩

/-- The functions that the rest of the firmware calls, with their arguments. -/
inductive Driver
  | reinit (forceFlag sysVoltage fastCharge preCharge : Int)
  | isCharging
  | shipmode
  | accelInit
  | accelRead (accelThreshold : Int)
  | accelPowerdown
deriving DecidableEq, Repr

/-- The globals of the two drivers. -/
structure DriverGlobals where
  lastVoltage : Int := 0
  lis2dw12 : Lis2dw12 := {}

namespace Driver

def body (g : DriverGlobals) : Driver → I2c DriverGlobals
  | .reinit forceFlag sysVoltage fastCharge preCharge => do
    let voltage ← Bq2512x.reinit forceFlag sysVoltage fastCharge preCharge g.lastVoltage
    return { g with lastVoltage := voltage }
  | .isCharging => do
    let _ ← Bq2512x.isCharging
    return g
  | .shipmode => do
    Bq2512x.shipmode
    return g
  | .accelInit => do
    let r ← Lis2dw12.initOnBus g.lis2dw12
    return { g with lis2dw12 := r.2 }
  | .accelRead accelThreshold => do
    let r ← Lis2dw12.readOnBus accelThreshold g.lis2dw12
    return { g with lis2dw12 := r.2 }
  | .accelPowerdown => do
    let r ← Lis2dw12.powerdownOnBus g.lis2dw12
    return { g with lis2dw12 := r.2 }

def Charger : Driver → Prop
  | .reinit .. | .isCharging | .shipmode => True
  | .accelInit | .accelRead _ | .accelPowerdown => False

/-- The charger reports that it is charging, has finished, or has a fault. -/
def reportsCharge (reply : Int × UInt8) : Prop := reply.1 = 0 ∧ reply.2 &&& 0xc0 ≠ 0

/-- The answers that take the function past its early returns. -/
def Tidy (r : Replies) : Driver → Prop
  | .reinit .. => True
  | .isCharging => False
  | .shipmode => r.ready 0 = true ∧
      ¬ (r.ready 1 = true ∧ reportsCharge (r.transfer 0 (.regRead Bq2512x.statusShipmodeReg)))
  | .accelInit | .accelPowerdown => r.ready 0 = true
  | .accelRead _ => r.ready 0 = true ∧ (r.transfer 0 .readTemp).1 = 0 ∧ (r.transfer 1 .readFifo).1 = 0

end Driver

/-- The calls of a board, one after the other, each with the answers that it gets. -/
inductive DriverRun (g₀ : DriverGlobals) (w₀ : Wires) :
    List (Driver × Replies) → DriverGlobals → Wires → Prop
  | start : DriverRun g₀ w₀ [] g₀ w₀
  | call {calls : List (Driver × Replies)} {g g' : DriverGlobals} {w w' : Wires} {f : Driver} {r : Replies} :
      DriverRun g₀ w₀ calls g w → Reaches (wiring r) (f.body g, w.begin) (.ret g', w') →
      DriverRun g₀ w₀ (calls ++ [(f, r)]) g' w'

section

variable {r : Replies} {w w' : Wires} {g : DriverGlobals}

@[simp] theorem wiring_allowed (c : I2cCall) : (wiring r).allowed w c ↔ True := Iff.rfl

@[simp] theorem wiring_step (c : I2cCall) (a : c.Ans) :
    (wiring r).step w c a w' ↔ r.Gives w c a ∧ w' = w.after c := Iff.rfl

/-- Calls that leave the lines alone. -/
@[simp] def I2cCall.Plain : I2cCall → Prop
  | .pmAction _ | .configureCd _ => False
  | _ => True

abbrev plain : World I2cCall I2cCall.Ans Unit := free I2cCall.Plain fun _ _ => True

/-- The lines are the same. -/
structure SameLines (w w' : Wires) : Prop where
  bus : w'.bus = w.bus
  cd : w'.cd = w.cd

theorem wp_sameLines {α : Type} {p : I2c α} (hp : wp plain p (fun _ _ => True) ()) :
    wp (wiring r) p (fun _ w' => SameLines w w') w := by
  refine wp_mono (fun _ _ h => h.2) (wp_frame (E := wiring r) hp (SameLines w) ?_ ?_ ⟨rfl, rfl⟩)
  · exact fun _ _ _ hm => hm.elim
  · intro w₁ c hc h
    refine ⟨trivial, ?_⟩
    rintro a _ ⟨-, rfl⟩
    refine ⟨trivial, ?_⟩
    cases c with
    | pmAction | configureCd => exact hc.elim
    | _ => exact ⟨h.bus, h.cd⟩

/-- Whatever a part of a driver does, it can be passed over where only what follows counts. -/
theorem wp_wiring_any {α : Type} (p : I2c α) : wp (wiring r) p (fun _ _ => True) w :=
  wp_invariant (fun _ => True) (fun _ _ _ _ => trivial) (fun _ _ _ => ⟨trivial, fun _ _ _ => trivial⟩) p trivial

/-- The first two lines of four of the functions. -/
theorem wp_wake {α : Type} {k : Bool → I2c α} {Q : α → Wires → Prop} (hchecks : w.checks = 0)
    (hk : wp (wiring r) (k (r.ready 0)) Q { w with bus := .resumed, checks := 1 }) :
    wp (wiring r) (do resumeI2c; let ready ← zephyr .deviceIsReady; k ready) Q w := by
  refine wp_seq (R := fun _ w' => w' = { w with bus := .resumed }) (by simp [resumeI2c, Wires.after]) ?_
  rintro _ _ rfl
  refine wp_call _ trivial fun ready w₁ hs => ?_
  obtain ⟨rfl, rfl⟩ := hs
  dsimp only [Wires.after]
  rwa [hchecks]

/-- What a call leaves: the CD line released, and the bus suspended exactly if the answers were such. -/
def Leaves (suspended : Prop) (w : Wires) : Prop := (w.bus = .suspended ↔ suspended) ∧ w.cd = .released

/-! ## The charger -/

namespace Bq2512x

theorem tsDisable_plain {u : Unit} : wp plain tsDisable (fun _ _ => True) u := by
  simp [tsDisable]

theorem status_plain {u : Unit} : wp plain status (fun _ _ => True) u := by
  simp [status, readReg]

/-- Whatever happens before its last three lines. -/
theorem reinit_leaves (forceFlag sysVoltage fastCharge preCharge lastVoltage : Int) :
    wp (wiring r) (reinit forceFlag sysVoltage fastCharge preCharge lastVoltage) (fun _ => Leaves True) w := by
  have hend (v : Int) (w : Wires) : wp (wiring r) (do deactivate; suspendI2c; return v) (fun _ => Leaves True) w := by
    simp [deactivate, suspendI2c, Wires.after, Leaves]
  refine wp_seq (wp_wiring_any _) fun _ w₁ _ => ?_
  refine wp_seq (wp_wiring_any _) fun ret w₂ _ => ?_
  refine wp_seq (wp_wiring_any _) fun voltage w₃ _ => ?_
  refine wp_seq (wp_wiring_any _) fun _ w₄ _ => ?_
  rw [wp_ite]
  exact ⟨fun _ => wp_seq (wp_wiring_any _) fun _ w₅ _ => hend _ w₅, fun _ => hend _ w₄⟩

/-- No line of it suspends the bus. -/
theorem isCharging_leaves (hcd : w.cd = .released) : wp (wiring r) isCharging (fun _ => Leaves False) w := by
  refine wp_seq (R := fun _ w' => w'.bus = .resumed ∧ w'.cd = .released) (by simp [resumeI2c, Wires.after, hcd]) ?_
  rintro _ w₁ ⟨hbus, hcd⟩
  refine wp_seq (wp_sameLines tsDisable_plain) fun ret w₂ h₂ => ?_
  have hleaves (w₃ : Wires) (h₃ : SameLines w₁ w₃) : Leaves False w₃ := by
    simp [Leaves, h₃.bus, h₃.cd, hbus, hcd]
  rw [wp_ite]
  refine ⟨fun _ => (wp_pure _ _ _ _).2 (hleaves w₂ h₂), fun _ => ?_⟩
  refine wp_seq (wp_sameLines status_plain) fun status w₃ h₃ => ?_
  have h := hleaves w₃ ⟨h₃.bus.trans h₂.bus, h₃.cd.trans h₂.cd⟩
  rw [wp_ite]
  exact ⟨fun _ => (wp_pure _ _ _ _).2 h, fun _ => (wp_pure _ _ _ _).2 h⟩

/-- The check of `bq2512x_shipmode` on what the status register reads. -/
theorem check_status_iff (data : UInt8) :
    ((data.toNat : Int) > 0 ∧ Int32.ofInt data.toNat &&& 0xc0 ≠ 0) ↔ data &&& 0xc0 ≠ 0 := by
  obtain ⟨⟨d⟩⟩ := data
  revert d
  decide +kernel

theorem status_shows : wp (wiring r) status (fun status w' => SameLines w w' ∧
    (status > 0 ∧ Int32.ofInt status &&& 0xc0 ≠ 0 ↔ r.ready w.checks = true ∧
      Driver.reportsCharge (r.transfer w.transfers (.regRead statusShipmodeReg)))) w := by
  have hsame := wp_sameLines (r := r) (w := w) status_plain
  refine wp_and hsame ?_
  refine wp_call _ trivial fun ready w₁ hs => ?_
  obtain ⟨rfl, rfl⟩ := hs
  cases hready : r.ready w.checks with
  | false => simp
  | true =>
    refine wp_call _ trivial fun reply w₂ hs => ?_
    obtain ⟨hreply, rfl⟩ := hs
    rw [← show reply = r.transfer w.transfers (.regRead statusShipmodeReg) from hreply]
    obtain ⟨ret, data⟩ := reply
    by_cases hret : ret = 0
    · simpa [hret, Driver.reportsCharge] using check_status_iff data
    · simp [hret, Driver.reportsCharge]

theorem shipmode_leaves (hcd : w.cd = .released) (hchecks : w.checks = 0) (htransfers : w.transfers = 0) :
    wp (wiring r) shipmode (fun _ => Leaves (Driver.shipmode.Tidy r)) w := by
  refine wp_wake hchecks ?_
  cases hready : r.ready 0 with
  | false => simp [Leaves, Driver.Tidy, hready, hcd]
  | true =>
    refine wp_seq status_shows fun status w₂ hpost => ?_
    obtain ⟨hsame, hiff⟩ := hpost
    rw [wp_ite]
    refine ⟨fun hcharge => (wp_pure _ _ _ _).2 ?_, fun hidle => ?_⟩
    · have htidy : ¬ Driver.shipmode.Tidy r := fun h => h.2 (by simpa [hchecks, htransfers] using hiff.1 hcharge)
      simp [Leaves, htidy, hsame.bus, hsame.cd, hcd]
    · have htidy : Driver.shipmode.Tidy r :=
        ⟨hready, fun h => hidle (hiff.2 (by simpa [hchecks, htransfers] using h))⟩
      simp [Leaves, htidy, activate, deactivate, suspendI2c, Wires.after]

end Bq2512x

/-! ## The accelerometer -/

namespace Lis2dw12

variable {d : Lis2dw12}

theorem setUp_plain {u : Unit} : wp plain setUp (fun _ _ => True) u := by
  simp [setUp]

theorem initOnBus_leaves (hcd : w.cd = .released) (hchecks : w.checks = 0) :
    wp (wiring r) (initOnBus d) (fun _ => Leaves (r.ready 0 = true)) w := by
  refine wp_wake hchecks ?_
  cases hready : r.ready 0 with
  | false => simp [Leaves, hcd]
  | true =>
    refine wp_seq (wp_sameLines setUp_plain) fun _ w₁ h₁ => ?_
    simp [suspendI2c, Wires.after, Leaves, h₁.cd, hcd]

theorem powerdownOnBus_leaves (hcd : w.cd = .released) (hchecks : w.checks = 0) :
    wp (wiring r) (powerdownOnBus d) (fun _ => Leaves (r.ready 0 = true)) w := by
  refine wp_wake hchecks ?_
  cases hready : r.ready 0 with
  | false => simp [Leaves, hcd]
  | true => simp [suspendI2c, Wires.after, Leaves, hcd]

theorem readOnBus_leaves (accelThreshold : Int) (hcd : w.cd = .released) (hchecks : w.checks = 0)
    (htransfers : w.transfers = 0) : wp (wiring r) (readOnBus accelThreshold d)
      (fun _ => Leaves ((Driver.accelRead accelThreshold).Tidy r)) w := by
  refine wp_wake hchecks ?_
  cases hready : r.ready 0 with
  | false => simp [Leaves, Driver.Tidy, hready, hcd]
  | true =>
    refine wp_call _ trivial fun temp w₁ hs => ?_
    obtain ⟨htemp, rfl⟩ := hs
    replace htemp : temp = r.transfer 0 .readTemp := by simpa [Replies.Gives, htransfers] using htemp
    obtain ⟨ret, accTemp⟩ := temp
    dsimp only
    by_cases hret : ret = 0
    · rw [if_neg (not_not.2 hret)]
      refine wp_call _ trivial fun samples w₂ hs => ?_
      obtain ⟨hfifo, rfl⟩ := hs
      replace hfifo : samples = r.transfer 1 .readFifo := by
        simpa [Replies.Gives, Wires.after, htransfers] using hfifo
      obtain ⟨ret', fifo⟩ := samples
      dsimp only
      by_cases hret' : ret' = 0
      · have htidy : (Driver.accelRead accelThreshold).Tidy r :=
          ⟨hready, by rw [← htemp]; exact hret, by rw [← hfifo]; exact hret'⟩
        rw [if_neg (not_not.2 hret')]
        simp [Leaves, htidy, suspendI2c, Wires.after, hcd]
      · rw [if_pos hret']
        simp [Leaves, Driver.Tidy, ← hfifo, hret', hcd, Wires.after]
    · rw [if_pos hret]
      simp [Leaves, Driver.Tidy, hready, hcd, ← htemp, hret, Wires.after]

end Lis2dw12

/-! ## Runs -/

namespace Driver

variable {f : Driver}

theorem body_leaves (hcd : w.cd = .released) :
    wp (wiring r) (f.body g) (fun _ => Leaves (f.Tidy r)) w.begin := by
  have hcd' : w.begin.cd = .released := hcd
  cases f with
  | reinit => exact wp_seq (Bq2512x.reinit_leaves _ _ _ _ _) fun _ _ h => (wp_pure _ _ _ _).2 h
  | isCharging => exact wp_seq (Bq2512x.isCharging_leaves hcd') fun _ _ h => (wp_pure _ _ _ _).2 h
  | shipmode => exact wp_seq (Bq2512x.shipmode_leaves hcd' rfl rfl) fun _ _ h => (wp_pure _ _ _ _).2 h
  | accelInit => exact wp_seq (Lis2dw12.initOnBus_leaves hcd' rfl) fun _ _ h => (wp_pure _ _ _ _).2 h
  | accelRead => exact wp_seq (Lis2dw12.readOnBus_leaves _ hcd' rfl rfl) fun _ _ h => (wp_pure _ _ _ _).2 h
  | accelPowerdown => exact wp_seq (Lis2dw12.powerdownOnBus_leaves hcd' rfl) fun _ _ h => (wp_pure _ _ _ _).2 h

end Driver

/-! ### Every call returns -/

namespace Bq2512x

theorem tsDisable_returns : tsDisable.Returns fun _ => True := by
  simp [tsDisable]

theorem readReg_returns (reg : UInt8) : (readReg reg).Returns fun _ => True := by
  simp [readReg]

theorem setReg_returns (reg value : UInt8) : (setReg reg value).Returns fun _ => True := by
  simp [setReg]

theorem tsDisableRetry_returns (n : Nat) : (tsDisableRetry n).Returns fun _ => True := by
  induction n with
  | zero => exact tsDisable_returns
  | succ n ih => simp [tsDisableRetry, tsDisable_returns, ih]

theorem reinit_returns (forceFlag sysVoltage fastCharge preCharge lastVoltage : Int) :
    (reinit forceFlag sysVoltage fastCharge preCharge lastVoltage).Returns fun _ => True := by
  simp [reinit, resumeI2c, tsDisableOrActivate, tsDisable_returns, tsDisableRetry_returns, activate, gauge, faults,
    status, readReg_returns, program, setBuvlo, setLdo, setSys, setFchg, setPchg, setReg_returns, deactivate,
    suspendI2c]

end Bq2512x

theorem Driver.body_returns (f : Driver) : (f.body g).Returns fun _ => True := by
  cases f with
  | reinit => simp [body, Bq2512x.reinit_returns]
  | isCharging =>
    simp [body, Bq2512x.isCharging, resumeI2c, Bq2512x.tsDisable_returns, Bq2512x.status, Bq2512x.readReg_returns]
  | shipmode =>
    simp [body, Bq2512x.shipmode, resumeI2c, suspendI2c, Bq2512x.activate, Bq2512x.deactivate, Bq2512x.status,
      Bq2512x.readReg_returns]
  | accelInit => simp [body, Lis2dw12.initOnBus, Lis2dw12.setUp, resumeI2c, suspendI2c]
  | accelRead => simp [body, Lis2dw12.readOnBus, resumeI2c, suspendI2c]
  | accelPowerdown => simp [body, Lis2dw12.powerdownOnBus, resumeI2c, suspendI2c]

/-- Any calls can be made, and all of them return. -/
theorem DriverRun.exists_of_calls (g₀ : DriverGlobals) (w₀ : Wires) (calls : List (Driver × Replies)) :
    ∃ g w, DriverRun g₀ w₀ calls g w := by
  induction calls using List.reverseRecOn with
  | nil => exact ⟨g₀, w₀, .start⟩
  | append_singleton calls x ih =>
    obtain ⟨g, w, h⟩ := ih
    obtain ⟨f, r⟩ := x
    have hanswer (w : Wires) (c : I2cCall) : ∃ a w', (wiring r).step w c a w' := by
      cases c with
      | deviceIsReady => exact ⟨r.ready w.checks, _, rfl, rfl⟩
      | regRead reg => exact ⟨r.transfer w.transfers (.regRead reg), _, rfl, rfl⟩
      | regWrite reg value => exact ⟨r.transfer w.transfers (.regWrite reg value), _, rfl, rfl⟩
      | readTemp => exact ⟨r.transfer w.transfers .readTemp, _, rfl, rfl⟩
      | readFifo => exact ⟨r.transfer w.transfers .readFifo, _, rfl, rfl⟩
      | pmAction | configureCd => exact ⟨(0 : Int), _, trivial, rfl⟩
      | sleepMs => exact ⟨(), _, trivial, rfl⟩
      | uptimeSeconds => exact ⟨(0 : UInt32), _, trivial, rfl⟩
    obtain ⟨g', w', hr, -⟩ := (f.body_returns (g := g)).exists_reaches hanswer w.begin
    exact ⟨g', w', .call h hr⟩

theorem DriverRun.released {g₀ : DriverGlobals} {w₀ : Wires} {calls : List (Driver × Replies)}
    (h : DriverRun g₀ w₀ calls g w) (h₀ : w₀.cd = .released) : w.cd = .released := by
  induction h with
  | start => exact h₀
  | call _ hr ih => exact (wp_value (wp_reaches (Driver.body_leaves ih) hr)).2

/-- The last call decides. -/
theorem DriverRun.last {g₀ : DriverGlobals} {w₀ : Wires} {calls : List (Driver × Replies)} {f : Driver}
    (h : DriverRun g₀ w₀ (calls ++ [(f, r)]) g w) (h₀ : w₀.cd = .released) : Leaves (f.Tidy r) w := by
  generalize hall : calls ++ [(f, r)] = all at h
  cases h with
  | start => simp at hall
  | call h hr =>
    obtain ⟨-, hlast⟩ := List.append_inj' hall rfl
    cases hlast
    have hleaves := wp_value (wp_reaches (Driver.body_leaves (h.released h₀)) hr)
    exact hleaves

end

/-- In any sequence of calls, on a bus in any state, every call leaves the bus suspended and every call of the
charger the CD line released, if and only if each call is answered such that it comes to its last line. -/
theorem bus_suspended_iff (g₀ : DriverGlobals) (bus : BusPower) (calls : List (Driver × Replies)) :
    (∀ pre f r post g w, calls = pre ++ (f, r) :: post → DriverRun g₀ { bus := bus } (pre ++ [(f, r)]) g w →
      w.bus = .suspended ∧ (f.Charger → w.cd = .released)) ↔ ∀ x ∈ calls, x.1.Tidy x.2 := by
  constructor
  · rintro h ⟨f, r⟩ hx
    obtain ⟨pre, post, rfl⟩ := List.append_of_mem hx
    obtain ⟨g, w, hrun⟩ := DriverRun.exists_of_calls g₀ { bus := bus } (pre ++ [(f, r)])
    exact (hrun.last rfl).1.1 (h pre f r post g w rfl hrun).1
  · rintro h pre f r post g w rfl hrun
    obtain ⟨hbus, hcd⟩ := hrun.last rfl
    exact ⟨hbus.2 (h (f, r) (by simp)), fun _ => hcd⟩

/-- A bus that answers every check and transfer with success, and with zeroes. -/
def Replies.quiet : Replies where
  ready _ := true
  transfer _ c :=
    match c with
    | .deviceIsReady => true
    | .readTemp => ((0 : Int), (0 : Int16))
    | .readFifo => ((0 : Int), Vector.replicate 32 ⟨0, 0, 0⟩)
    | .uptimeSeconds => (0 : UInt32)
    | .pmAction _ | .configureCd _ | .regWrite .. => (0 : Int)
    | .regRead _ => ((0 : Int), (0 : UInt8))
    | .sleepMs _ => ()

/-- On a bus without errors, asking whether the battery is charging leaves the bus resumed. -/
theorem isCharging_leaves_bus : ¬ ∀ (g₀ : DriverGlobals) (bus : BusPower) (calls : List (Driver × Replies)),
    ∀ pre f r post g w, calls = pre ++ (f, r) :: post → DriverRun g₀ { bus := bus } (pre ++ [(f, r)]) g w →
      w.bus = .suspended ∧ (f.Charger → w.cd = .released) := by
  intro h
  obtain ⟨g, w, hrun⟩ := DriverRun.exists_of_calls {} { bus := .suspended } [(.isCharging, .quiet)]
  have hlast : DriverRun {} { bus := .suspended } ([] ++ [(.isCharging, .quiet)]) g w := hrun
  exact (hlast.last rfl).1.1 (h {} .suspended _ [] _ _ [] g w rfl hrun).1

end Everytag
