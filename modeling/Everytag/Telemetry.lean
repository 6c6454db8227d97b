import Everytag.Firmware
import Everytag.Lis2dw12

/-!
# From the sensor to the advertisement

`main` builds one `MovementTracker` and hands it to the state machine, which takes the accelerometer byte and
the temperature of `update_status` from it.  `accel_read` of the hardware calls the driver, which
keeps arrays of its own; nobody calls `record_reading`.  So the tracker stays as it was built
(`Composition.Untouched.during`), and the status bytes do not depend on what the sensor says
(`sent_of_other_data`).
-/

namespace Everytag

open Interaction StateMachine

/-- `set_temperature` -/
def MovementTracker.setTemperature (t : MovementTracker) (temperature : Int16) : MovementTracker :=
  { t with temperature := temperature }

/-- A value that `update_status` passes to `compute_status`, beside a tracker that was fed as the contract of
`accel_read` says. -/
inductive Passed
  | accelByte (value : UInt8) (fed : MovementTracker)
  | temperature (value : Int16) (fed : MovementTracker)

namespace Passed

/-- The value is that of the samples read so far. -/
def OfSamples : Passed → Prop
  | .accelByte value fed => value = fed.computeAccelByte
  | .temperature value fed => value = fed.temperature

/-- The samples read so far have left no mark, or a temperature of zero. -/
def Still : Passed → Prop
  | .accelByte _ fed => ¬ fed.Marked 0 288
  | .temperature _ fed => fed.temperature = 0

end Passed

/-- The objects of `main`, the C driver, and what is known of the run: the calls of `accel_read`, the tracker
that the contract asks for, the values passed and the status bytes set. -/
structure Composition where
  device : Device
  driver : Lis2dw12 := {}
  accel : MovementTracker := {}
  reads : Nat := 0
  fed : MovementTracker := {}
  passed : List Passed := []
  sent : List (UInt8 × UInt8) := []

namespace Composition

/-- "Read accelerometer FIFO and feed samples to MovementTracker." -/
def feed (w : Composition) (bus : BusRead) (driver : Lis2dw12) (now : UInt32) : MovementTracker :=
  (w.fed.recordReading (Lis2dw12.fill w.driver.accSamples bus.fifo).toList w.device.accelThreshold
    now).setTemperature driver.accelTemperature

/-- Answer and effect of a call; the sensor answers `data n` to the read number `n`. -/
def Next (data : Nat → BusRead) (w : Composition) : (c : Call) → c.Ans → Composition → Prop
  | .accelRead, rc, w' => ∃ now later,
    let r := w.driver.accelRead (data w.reads) w.device.accelThreshold now later
    rc = r.1 ∧ w' = { w with
      driver := r.2
      reads := w.reads + 1
      fed := if r.1 = 0 then w.feed (data w.reads) r.2 now else w.fed }
  | .accelInit, rc, w' => ∃ ready, rc = (w.driver.accelInit ready).1 ∧
    w' = { w with driver := (w.driver.accelInit ready).2 }
  | .accelPowerdown, rc, w' => ∃ ready, rc = (w.driver.accelPowerdown ready).1 ∧
    w' = { w with driver := (w.driver.accelPowerdown ready).2 }
  | .computeAccelByte, value, w' => value = w.accel.computeAccelByte ∧
    w' = { w with passed := .accelByte value w.fed :: w.passed }
  | .accelTemperature, value, w' => value = w.accel.temperature ∧
    w' = { w with passed := .temperature value w.fed :: w.passed }
  | .setStatusBytes airtagStatus fmdnStatus, _, w' =>
    w' = { w with sent := (airtagStatus, fmdnStatus) :: w.sent }
  | c, a, w' => ∃ d, w.device.Serves c a d ∧ w' = { w with device := d }

end Composition

/-- The main loop over the device and the sensor, with GATT events between its calls. -/
def composition (data : Nat → BusRead) : World Call Call.Ans Composition where
  allowed _ _ := True
  step w c a w' := w.Next data c a w'
  move w w' := ∃ e, w' = { w with device := w.device.step e }

/-- A run of the firmware over a device. -/
abbrev Composed (data : Nat → BusRead) (d : Device) : Main StateMachine → Composition → Prop :=
  During (composition data) (initializeMachine {}) mainLoop (· = { device := d })

section

variable {data data' : Nat → BusRead} {d : Device} {p : Main StateMachine} {w w' : Composition}

/-- The byte of a tracker that was never fed. -/
theorem computeAccelByte_init : ({} : Moves).computeAccelByte = 0 := by
  by_contra h
  obtain ⟨i, hi, -, -, hne⟩ := Moves.computeAccelByte_ne_zero.1 h
  simp at hne

namespace Composition

/-- The tracker has never been fed, and what was passed came from it. -/
structure Untouched (w : Composition) : Prop where
  accel : w.accel = {}
  passed : ∀ x ∈ w.passed, x.OfSamples ↔ x.Still

theorem Untouched.step {c : Call} {a : c.Ans} (h : w.Untouched) (hs : (composition data).step w c a w') :
    w'.Untouched := by
  cases c with
  | accelRead =>
    obtain ⟨now, later, -, rfl⟩ := hs
    exact ⟨h.accel, h.passed⟩
  | accelInit | accelPowerdown =>
    obtain ⟨ready, -, rfl⟩ := hs
    exact ⟨h.accel, h.passed⟩
  | computeAccelByte =>
    obtain ⟨rfl, rfl⟩ := hs
    refine ⟨h.accel, List.forall_mem_cons.2 ⟨?_, h.passed⟩⟩
    rw [Passed.OfSamples, Passed.Still, h.accel, computeAccelByte_init, eq_comm, ← not_iff_not, not_not]
    exact Moves.computeAccelByte_ne_zero
  | accelTemperature =>
    obtain ⟨rfl, rfl⟩ := hs
    refine ⟨h.accel, List.forall_mem_cons.2 ⟨?_, h.passed⟩⟩
    rw [Passed.OfSamples, Passed.Still, h.accel, eq_comm]
  | setStatusBytes =>
    cases hs
    exact ⟨h.accel, h.passed⟩
  | _ =>
    obtain ⟨d', -, rfl⟩ := hs
    exact ⟨h.accel, h.passed⟩

theorem Untouched.during (h : Composed data d p w) : w.Untouched :=
  during_keeps (fun w hw => hw ▸ ⟨rfl, by simp⟩)
    (fun _ _ h ⟨_, hm⟩ => hm ▸ ⟨h.accel, h.passed⟩) (fun _ _ _ _ h hs => h.step hs) h

/-- The same device, tracker and bytes, with other data behind them. -/
structure SameBytes (w w' : Composition) : Prop where
  device : w'.device = w.device
  accel : w'.accel = w.accel
  reads : w'.reads = w.reads
  sent : w'.sent = w.sent

end Composition

/-- `accel_read` succeeds. -/
def BusRead.succeeds (bus : BusRead) : Bool := bus.ready && bus.outTemp.isSome && bus.fifoOk

theorem Lis2dw12.accelRead_fst {bus : BusRead} {accelThreshold : Int} {now later : UInt32} {dr : Lis2dw12} :
    (dr.accelRead bus accelThreshold now later).1 = if bus.succeeds then 0 else -1 := by
  unfold accelRead BusRead.succeeds
  cases hready : bus.ready with
  | false => simp
  | true =>
    cases htemp : bus.outTemp with
    | none => simp
    | some t => cases hfifo : bus.fifoOk <;> simp

theorem Lis2dw12.accelInit_fst {ready : Bool} {dr : Lis2dw12} :
    (dr.accelInit ready).1 = if ready then 0 else -1 := by
  cases ready with
  | false => rfl
  | true =>
    rw [accelInit, if_neg (by simp)]
    split <;> rfl

theorem Lis2dw12.accelPowerdown_fst {ready : Bool} {dr : Lis2dw12} :
    (dr.accelPowerdown ready).1 = if ready then 0 else -1 := by
  cases ready <;> rfl

/-- Other data are answered alike if the same reads succeed. -/
theorem follows_of_succeeds (hdata : ∀ n, (data' n).succeeds = (data n).succeeds) :
    (composition data).Follows (composition data') Composition.SameBytes where
  step := by
    intro w v c a w' hR hs
    obtain ⟨hdev, haccel, hreads, hsent⟩ := hR
    cases c with
    | accelRead =>
      obtain ⟨now, later, hrc, rfl⟩ := hs
      refine ⟨_, ⟨now, later, ?_, rfl⟩, ⟨hdev, haccel, by rw [hreads], hsent⟩⟩
      rw [hrc, Lis2dw12.accelRead_fst, Lis2dw12.accelRead_fst, hreads, hdata]
    | accelInit =>
      obtain ⟨ready, hrc, rfl⟩ := hs
      refine ⟨_, ⟨ready, ?_, rfl⟩, ⟨hdev, haccel, hreads, hsent⟩⟩
      rw [hrc, Lis2dw12.accelInit_fst, Lis2dw12.accelInit_fst]
    | accelPowerdown =>
      obtain ⟨ready, hrc, rfl⟩ := hs
      refine ⟨_, ⟨ready, ?_, rfl⟩, ⟨hdev, haccel, hreads, hsent⟩⟩
      rw [hrc, Lis2dw12.accelPowerdown_fst, Lis2dw12.accelPowerdown_fst]
    | computeAccelByte | accelTemperature =>
      obtain ⟨rfl, rfl⟩ := hs
      exact ⟨_, ⟨by rw [haccel], rfl⟩, ⟨hdev, haccel, hreads, hsent⟩⟩
    | setStatusBytes =>
      cases hs
      exact ⟨_, rfl, ⟨hdev, haccel, hreads, by rw [hsent]⟩⟩
    | _ =>
      obtain ⟨d', hserves, rfl⟩ := hs
      exact ⟨_, ⟨d', hdev ▸ hserves, rfl⟩, ⟨rfl, haccel, hreads, hsent⟩⟩
  move := by
    rintro w v w' ⟨hdev, haccel, hreads, hsent⟩ ⟨e, rfl⟩
    exact ⟨_, ⟨e, rfl⟩, ⟨by rw [hdev], haccel, hreads, hsent⟩⟩

/-- What the sensor says makes no difference to the bytes that are sent. -/
theorem sent_of_other_data (hdata : ∀ n, (data' n).succeeds = (data n).succeeds) (h : Composed data d p w) :
    ∃ w', Composed data' d p w' ∧ w'.sent = w.sent := by
  obtain ⟨w', h', hR⟩ : ∃ w', Composed data' d p w' ∧ w.SameBytes w' :=
    (follows_of_succeeds hdata).during (fun w hw => ⟨w, hw, rfl, rfl, rfl, rfl⟩) h
  exact ⟨w', h', hR.sent⟩

/-- In every run, `update_status` passes on the summary and the temperature of the samples read so far exactly if
these are zero whenever it asks.  Whatever other data the sensor delivers in as many successful reads, there is a
run with the same status bytes. -/
theorem telemetry_of_samples_iff (data : Nat → BusRead) (d : Device) :
    (∀ p w, Composed data d p w → ((∀ x ∈ w.passed, x.OfSamples) ↔ ∀ x ∈ w.passed, x.Still)) ∧
    ∀ data' : Nat → BusRead, (∀ n, (data' n).succeeds = (data n).succeeds) →
      ∀ p w, Composed data d p w → ∃ w', Composed data' d p w' ∧ w'.sent = w.sent :=
  ⟨fun _ _ h => forall₂_congr fun x hx => (Composition.Untouched.during h).passed x hx,
    fun _ hdata _ _ h => sent_of_other_data hdata h⟩

end

/-! ## A device at room temperature -/

/-- Samples at rest, at 25 °C. -/
def atRest : BusRead := ⟨true, some 0, Vector.replicate 32 ⟨0, 0, 0⟩, true⟩

/-- The answers at an uptime, with no event and no error. -/
def Composition.serve (now : UInt32) (w : Composition) (c : Call) : Option (c.Ans × Composition) :=
  match c with
  | .accelRead =>
    let r := w.driver.accelRead atRest w.device.accelThreshold now now
    some (r.1, { w with
      driver := r.2
      reads := w.reads + 1
      fed := if r.1 = 0 then w.feed atRest r.2 now else w.fed })
  | .accelInit => some ((w.driver.accelInit true).1, { w with driver := (w.driver.accelInit true).2 })
  | .computeAccelByte => some (w.accel.computeAccelByte,
      { w with passed := .accelByte w.accel.computeAccelByte w.fed :: w.passed })
  | .accelTemperature => some (w.accel.temperature,
      { w with passed := .temperature w.accel.temperature w.fed :: w.passed })
  | .setStatusBytes a f => some ((), { w with sent := (a, f) :: w.sent })
  | .glueSyncGattState => some (⟨w.device.gatt.connectedGatt, w.device.gatt.authorizedGatt,
      w.device.gatt.pauseUpload, w.device.gatt.needsReset⟩, w)
  | .startSettingsAdv => some ((), { w with device := w.device.startSettingsAdv })
  | .accelPowerdown | .configKey _ | .setTurnedOn _ | .updateTurnedOn _ | .storeTime | .reboot => none
  | c => some (answers w.device.settings.config now 3000 c, w)

theorem composition_step_serve {now : UInt32} (w : Composition) (c : Call) (x : c.Ans × Composition)
    (hx : w.serve now c = some x) : (composition fun _ => atRest).step w c x.1 x.2 := by
  cases c with
  | accelRead => cases hx; exact ⟨now, now, rfl, rfl⟩
  | accelInit => cases hx; exact ⟨true, rfl, rfl⟩
  | computeAccelByte | accelTemperature => cases hx; exact ⟨rfl, rfl⟩
  | setStatusBytes => cases hx; rfl
  | glueSyncGattState | config => cases hx; exact ⟨_, ⟨rfl, rfl⟩, rfl⟩
  | startSettingsAdv => cases hx; exact ⟨_, rfl, rfl⟩
  | accelPowerdown | configKey | setTurnedOn | updateTurnedOn | storeTime | reboot => cases hx
  | _ => cases hx; exact ⟨_, rfl, rfl⟩

/-- The sensor is read 20 seconds after the boot; the battery check 40 seconds later passes a temperature of zero on
instead of its 25 °C. -/
theorem temperature_not_passed :
    ¬ ∀ (data : Nat → BusRead) (d : Device) (p : Main StateMachine) (w : Composition), Composed data d p w →
      ∀ x ∈ w.passed, x.OfSamples := by
  let d : Device := { settings := ⟨{ turnedOn := true }, .erased⟩ }
  obtain ⟨x, hx, hpassed⟩ : ∃ x ∈ (((initializeMachine {}).play (Composition.serve 0) { device := d }).bind
      fun x => (mainLoop x.1).play (Composition.serve 20) x.2).bind
        fun x => (mainLoop x.1).play (Composition.serve 60) x.2,
      x.2.passed.any (fun | .temperature value fed => value != fed.temperature | _ => false) = true := by decide
  obtain ⟨⟨s₁, w₁⟩, hp, hlast⟩ := Option.bind_eq_some_iff.1 hx
  obtain ⟨⟨s₀, w₀⟩, hstart, hnext⟩ := Option.bind_eq_some_iff.1 hp
  have hboundary : Boundary (composition fun _ => atRest) (initializeMachine {}) mainLoop
      (· = { device := d }) s₁ w₁ :=
    .iter (.start rfl (reaches_of_play composition_step_serve hstart))
      (reaches_of_play composition_step_serve hnext)
  intro h
  have hall := h _ d _ _ (.iter hboundary (reaches_of_play composition_step_serve hlast))
  obtain ⟨p, hp, hne⟩ := List.any_eq_true.1 hpassed
  have hof := hall p hp
  cases p with
  | accelByte => cases hne
  | temperature value fed =>
    rw [Passed.OfSamples] at hof
    simp [hof] at hne

end Everytag
