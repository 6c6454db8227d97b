import Everytag.Footprint

/-!
# Under-voltage shutdown

`handle_battery_check` takes a reading once a minute, `handle_uvlo_shutdown` looks at the last one in
every tick.  The world `battery` counts the readings since the last one that was not low.  The
counter of `handle_uvlo_shutdown` stays below that number as long as every tick in which it could
advance also takes a reading (`badPower_le_low`); in a tick that does not, it counts one reading
twice, and one low reading is enough to shut down.
-/

namespace Everytag

open Interaction StateMachine

/-- Ghost state of a tick. -/
structure Readings where
  /-- readings since the last one at or above `kBatteryLowVoltage`, all of them below it -/
  low : Nat := 0
  /-- reads of the uptime since the tick began; the second one is that of the battery check -/
  asked : Nat := 0

/-- The tick begun in `s₀` cannot count a reading for the second time: nothing is counted yet, the
battery check is due at the uptime `now` that it reads, or the charger is connected. -/
def CheckDue (s₀ : StateMachine) (charger : Prop) (now : UInt32) : Prop :=
  s₀.state = .broadcasting →
    s₀.badPower = 0 ∨ charger ∨ s₀.timers.batteryCheck + kIntervalBatteryCheck ≤ now

instance (s₀ : StateMachine) (charger : Prop) [Decidable charger] (now : UInt32) :
    Decidable (CheckDue s₀ charger now) := inferInstanceAs (Decidable (_ → _))

def Readings.Next (due : UInt32 → Prop) (charger : Prop) (w : Readings) :
    (c : Call) → c.Ans → Readings → Prop
  | .uptimeSeconds, now, w' => (w.asked = 1 → due now) ∧ w' = { w with asked := w.asked + 1 }
  | .isCharging, charging, w' => (charger → charging = true) ∧ w' = w
  | .batteryVoltage, v, w' =>
    w' = { w with low := if storedVoltage v < kBatteryLowVoltage then w.low + 1 else 0 }
  | _, _, w' => w' = w

/-- Calls answer anything; the uptime read by the battery check is `due`, and `is_charging` says yes
if there is a `charger`. -/
def battery (due : UInt32 → Prop) (charger : Prop) : World Call Call.Ans Readings where
  allowed _ _ := True
  step w c a w' := w.Next due charger c a w'
  move _ _ := False

section

variable {due : UInt32 → Prop} {charger : Prop} {s : StateMachine} {w w' : Readings}

instance : (battery due charger).Sequential := ⟨fun _ _ h => h⟩

@[simp] theorem battery_allowed (c : Call) : (battery due charger).allowed w c ↔ True := Iff.rfl

@[simp] theorem battery_step (c : Call) (a : c.Ans) :
    (battery due charger).step w c a w' ↔ w.Next due charger c a w' := Iff.rfl

/-- Programs that take no reading keep the count. -/
theorem wp_battery {α : Type} {p : Main α} {Q : α → Prop}
    (hp : wp (calls (.any False True)) p (fun a _ => Q a) ()) :
    wp (battery due charger) p (fun a w' => Q a ∧ w'.low = w.low) w := by
  refine wp_frame (E := battery due charger) hp (fun w' => w'.low = w.low) (fun _ _ _ h => h.elim)
    (fun w' c hc h => ⟨trivial, fun a w'' hs => ⟨answers_of_config (fun _ => trivial) c a, ?_⟩⟩) rfl
  cases c with
  | batteryVoltage => exact absurd rfl hc.reading
  | uptimeSeconds | isCharging =>
    obtain ⟨-, rfl⟩ := hs
    exact h
  | _ => cases hs; exact h

/-! ## The handlers -/

theorem syncGattState_battery :
    wp (battery due charger) (syncGattState s) (fun s' w' => OnlyFlags s s' ∧ w' = w) w := by
  simp [syncGattState, Readings.Next]

theorem tickSleep_battery :
    wp (battery due charger) (tickSleep s) (fun s' w' => OnlyLock s s' ∧ w' = w) w := by
  simp [tickSleep, Readings.Next]

theorem handleTimeSave_battery :
    wp (battery due charger) (handleTimeSave s)
      (fun s' w' => OnlyTimers s s' ∧ w' = { w with asked := w.asked + 1 }) w := by
  simp [handleTimeSave, Readings.Next]

/-- The stored voltage is a new reading. -/
theorem updateBattery_battery : wp (battery due charger) (updateBattery s)
    (fun s' w' => ∃ v, s' = { s with lastBatteryVoltage := v } ∧
      w' = { w with low := if v < kBatteryLowVoltage then w.low + 1 else 0 }) w := by
  simp only [updateBattery, issue, wp_bind, wp_issue, wp_pure, battery_allowed, battery_step, Readings.Next]
  exact ⟨trivial, fun _ _ h => ⟨trivial, fun v _ h' => ⟨storedVoltage v, rfl, h ▸ h'⟩⟩⟩

/-- What a battery check leaves: either the check was not due and the reading is the old one, or a
new reading is counted. -/
def Checked (due : UInt32 → Prop) (s : StateMachine) (low : Nat) (s' : StateMachine) (low' : Nat) : Prop :=
  s'.badPower = s.badPower ∧ s'.state = s.state ∧
    ((∃ now, due now ∧ now < s.timers.batteryCheck + kIntervalBatteryCheck) ∧
        s'.lastBatteryVoltage = s.lastBatteryVoltage ∧ low' = low ∨
      low' = if s'.lastBatteryVoltage < kBatteryLowVoltage then low + 1 else 0)

theorem handleBatteryCheck_battery (hw : w.asked = 1) :
    wp (battery due charger) (handleBatteryCheck s) (fun s' w' => Checked due s w.low s' w'.low) w := by
  simp only [handleBatteryCheck, issue, wp_bind (p := Prog.issue _), wp_issue, wp_ite, wp_pure,
    battery_allowed, battery_step, Readings.Next, true_and]
  rintro now _ ⟨hdue, rfl⟩
  refine ⟨fun hlt => ⟨rfl, rfl, .inl ⟨⟨now, hdue hw, hlt⟩, rfl, rfl⟩⟩, fun _ => ?_⟩
  refine wp_seq updateBattery_battery ?_
  intro s₁ w₁ hpost
  obtain ⟨v, hs₁, hw₁⟩ := hpost
  refine wp_seq (wp_battery updateStatus_calls) ?_
  intro s₂ w₂ hpost
  obtain ⟨hs₂, hw₂⟩ := hpost
  subst hs₁ hw₁ hs₂
  simp only [wp_bind, wp_issue, battery_allowed, battery_step, Readings.Next, true_and]
  rintro cfg _ rfl
  split
  · refine wp_mono (fun s₃ w₃ hpost => ?_) (wp_battery (broadcast_only trivial))
    obtain ⟨⟨b, hs₃⟩, hw₃⟩ := hpost
    subst hs₃
    exact ⟨rfl, rfl, .inr (hw₃.trans hw₂)⟩
  · rw [wp_pure]
    exact ⟨rfl, rfl, .inr hw₂⟩

/-- What the under-voltage check does to the counter: reset, or, on a low reading without a charger,
one more; the machine shuts down when the counter passes the threshold. -/
def Judged (charger : Prop) (s : StateMachine) (r : Bool × StateMachine) : Prop :=
  r.2.lastBatteryVoltage = s.lastBatteryVoltage ∧
    (r.1 = false ∧ r.2.badPower = 0 ∧ r.2.state = s.state ∨
      ¬ charger ∧ s.lastBatteryVoltage < kBatteryLowVoltage ∧ r.2.badPower = s.badPower + 1 ∧
        if r.1 then r.2.state = .shuttingDown
        else r.2.state = s.state ∧ r.2.badPower ≤ kUvloBadPowerThreshold)

theorem Judged.running {r : Bool × StateMachine} (h : Judged charger s r) (hr : r.1 = false) :
    r.2.state = s.state := by
  obtain ⟨-, ⟨-, -, h⟩ | ⟨-, -, -, h⟩⟩ := h
  · exact h
  · rw [hr] at h
    exact h.1

theorem handleUvloShutdown_battery :
    wp (battery due charger) (handleUvloShutdown s) (fun r w' => Judged charger s r ∧ w' = w) w := by
  simpa [handleUvloShutdown, Readings.Next, Judged] using fun hlow =>
    ⟨fun hc _ => ⟨fun _ => ⟨hc, hlow⟩, fun h => .inr ⟨hc, hlow, h⟩⟩, fun h => absurd h (by decide)⟩

/-! ## The invariant -/

/-- The counter never exceeds the number of low readings since the last good one, and it passes the
threshold only in a machine that shuts down. -/
structure Counted (s : StateMachine) (low : Nat) : Prop where
  started : s.state ≠ .initializing
  badPower_le : s.badPower.toNat ≤ low
  running : s.badPower ≤ kUvloBadPowerThreshold ∨ s.state = .shuttingDown
  low_pos : s.lastBatteryVoltage < kBatteryLowVoltage → s.state = .shuttingDown ∨ 1 ≤ low

theorem Counted.same {s' : StateMachine} {low : Nat} (h : Counted s low) (hs : SameBattery s s')
    (hrun : s.state ≠ .shuttingDown) : Counted s' low where
  started := hs.started h.started
  badPower_le := hs.badPower ▸ h.badPower_le
  running := .inl (hs.badPower ▸ h.running.resolve_right hrun)
  low_pos hl := .inr ((h.low_pos (hs.lastBatteryVoltage ▸ hl)).resolve_left hrun)

/-- A low reading that is judged without a charger has not been counted yet. -/
theorem Counted.checked {s₀ s₁ : StateMachine} {low low' : Nat} (h : Counted s₀ low)
    (h₀ : s₀.state = .broadcasting) (hc : Checked (CheckDue s₀ charger) s₀ low s₁ low')
    (hlast : s₁.lastBatteryVoltage < kBatteryLowVoltage) :
    1 ≤ low' ∧ (¬ charger → s₀.badPower.toNat + 1 ≤ low') := by
  obtain ⟨-, -, ⟨⟨now, hdue, hlt⟩, hv, rfl⟩ | hread⟩ := hc
  · -- the old reading: the counter stands at zero, or the check would have been due
    have hpos : 1 ≤ low' := (h.low_pos (hv ▸ hlast)).resolve_left (by rw [h₀]; nofun)
    refine ⟨hpos, fun hcharger => ?_⟩
    rcases hdue h₀ with hzero | hch | hle
    · rw [hzero]
      exact hpos
    · exact absurd hch hcharger
    · exact absurd hlt (UInt32.not_lt.2 hle)
  · rw [if_pos hlast] at hread
    have := h.badPower_le
    exact ⟨by omega, fun _ => by omega⟩

theorem Counted.judged {s₀ s₁ : StateMachine} {r : Bool × StateMachine} {low low' : Nat}
    (h : Counted s₀ low) (h₀ : s₀.state = .broadcasting)
    (hc : Checked (CheckDue s₀ charger) s₀ low s₁ low') (hj : Judged charger s₁ r) :
    Counted r.2 low' := by
  have hbound : s₀.badPower ≤ kUvloBadPowerThreshold := h.running.resolve_right (by rw [h₀]; nofun)
  have hsucc : (s₀.badPower + 1).toNat = s₀.badPower.toNat + 1 := by
    have : s₀.badPower.toNat ≤ 5 := UInt8.le_iff_toNat_le.1 hbound
    simp only [UInt8.toNat_add, UInt8.toNat_one]
    omega
  obtain ⟨hlast, ⟨-, hzero, hstate⟩ | ⟨hcharger, hlow, hbad, hend⟩⟩ := hj
  · rw [hc.2.1] at hstate
    exact ⟨by rw [hstate, h₀]; nofun, by simp [hzero], .inl (by rw [hzero]; decide),
      fun hl => .inr (h.checked h₀ hc (hlast ▸ hl)).1⟩
  · obtain ⟨hpos, hcount⟩ := h.checked h₀ hc hlow
    rw [hc.1] at hbad
    have hle : r.2.badPower.toNat ≤ low' := by
      rw [hbad, hsucc]
      exact hcount hcharger
    split at hend
    · exact ⟨by rw [hend]; nofun, hle, .inr hend, fun _ => .inl hend⟩
    · rw [hc.2.1, h₀] at hend
      exact ⟨by rw [hend.1]; nofun, hle, .inl hend.2, fun _ => .inr hpos⟩

theorem CheckDue.of_same {s' : StateMachine} {now : UInt32} (hs : SameBattery s s')
    (hstate : s'.state = s.state) (h : CheckDue s charger now) : CheckDue s' charger now := by
  intro h₀
  rw [hs.badPower, hs.batteryCheck]
  exact h (hstate ▸ h₀)

theorem Checked.mono {due' : UInt32 → Prop} {s' : StateMachine} {low low' : Nat}
    (hdue : ∀ now, due now → due' now) (h : Checked due s low s' low') : Checked due' s low s' low' :=
  ⟨h.1, h.2.1, h.2.2.imp_left fun ⟨⟨now, hn, hlt⟩, hv⟩ => ⟨⟨now, hdue now hn, hlt⟩, hv⟩⟩

theorem tickBroadcasting_counted {s₀ : StateMachine} (h : Counted s w.low) (hw : w.asked = 0)
    (h₀ : s.state = .broadcasting) (hs₀ : SameBattery s₀ s) (hstate : s.state = s₀.state) :
    wp (battery (CheckDue s₀ charger) charger) (tickBroadcasting s) (fun s' w' => Counted s' w'.low) w := by
  refine wp_seq handleTimeSave_battery ?_
  intro s₁ w₁ hpost
  obtain ⟨⟨t, ht, hs₁⟩, hw₁⟩ := hpost
  subst hs₁ hw₁
  have hsame : SameBattery s { s with timers := t } := ⟨rfl, rfl, ht, id⟩
  refine wp_seq (handleBatteryCheck_battery (by simp [hw])) ?_
  intro s₂ w₂ hc
  replace hc := hc.mono fun now hdue => CheckDue.of_same (hs₀.trans hsame) hstate hdue
  refine wp_seq handleUvloShutdown_battery ?_
  intro r w₃ hpost
  obtain ⟨hj, hw₃⟩ := hpost
  subst hw₃
  have h₃ := (h.same hsame (by rw [h₀]; nofun)).judged h₀ hc hj
  obtain ⟨stop, s₃⟩ := r
  cases stop with
  | true => simpa using h₃
  | false =>
    have hrun : s₃.state ≠ .shuttingDown := by
      have : s₃.state = s.state := (hj.running rfl).trans hc.2.1
      rw [this, h₀]
      nofun
    refine wp_seq (wp_battery handleNokeysShutdown_calls) ?_
    intro r w₄ hpost
    obtain ⟨hr, hw₄⟩ := hpost
    rw [← hw₄] at h₃
    rcases hr with rfl | rfl
    · refine wp_mono (fun s' w' hpost => ?_)
        (wp_battery (tickDuties_calls Policy.any_sound trivial trivial))
      obtain ⟨hs', hw'⟩ := hpost
      rw [hw']
      exact h₃.same hs' hrun
    · simpa using h₃.same sameBattery_refl.shutDown hrun

theorem mainLoop_counted {low : Nat} (h : Counted s low) :
    wp (battery (CheckDue s charger) charger) (mainLoop s) (fun s' w' => Counted s' w'.low)
      { low := low } := by
  refine wp_seq syncGattState_battery ?_
  intro s₁ w₁ hpost
  obtain ⟨⟨f, hs₁⟩, hw₁⟩ := hpost
  subst hw₁
  have hsame : SameBattery s s₁ := by rw [hs₁]; exact ⟨rfl, rfl, rfl, id⟩
  have hstate : s₁.state = s.state := by rw [hs₁]
  by_cases hend : s₁.state = .shuttingDown ∨ s₁.state = .firmwareUpload
  · have h₁ : Counted s₁ low := hs₁ ▸ ⟨h.1, h.2, h.3, h.4⟩
    rw [tick_of_ended hend, wp_pure]
    exact h₁
  rw [tick_of_running hend]
  rw [not_or] at hend
  have h₁ : Counted s₁ low := h.same hsame (hstate ▸ hend.1)
  refine wp_seq tickSleep_battery ?_
  intro s₂ w₂ hpost
  obtain ⟨⟨n, _, hs₂⟩, hw₂⟩ := hpost
  subst hw₂
  have hsame₂ : SameBattery s₁ s₂ := by rw [hs₂]; exact ⟨rfl, rfl, rfl, id⟩
  have hstate₂ : s₂.state = s₁.state := by rw [hs₂]
  have h₂ : Counted s₂ low := h₁.same hsame₂ hend.1
  split
  · refine wp_mono (fun s' w' hpost => ?_)
      (wp_battery (handleSettingsModeExit_calls Policy.any_sound trivial trivial fun _ => trivial))
    obtain ⟨hs', hw'⟩ := hpost
    rw [hw']
    exact h₂.same hs' (hstate₂ ▸ hend.1)
  · rename_i hmode
    have h₀ : s₂.state = .broadcasting := by
      have := h₂.started
      cases hs : s₂.state <;> simp_all
    exact tickBroadcasting_counted h₂ rfl h₀ (hsame.trans hsame₂) (hstate₂.trans hstate)

theorem startUp_counted (hs : s.badPower = 0) :
    wp (battery due charger) (startUp s) (fun s' w' => Counted s' w'.low) w := by
  have hP : (Policy.any False True).Sound := Policy.any_sound
  refine wp_seq (wp_battery (wakePeripherals_calls hP)) ?_
  intro _ w₁ _
  refine wp_seq (wp_battery (prepareKeys_calls hP trivial)) ?_
  intro s₂ w₂ hpost
  obtain ⟨⟨a, hs₂⟩, _⟩ := hpost
  subst hs₂
  refine wp_seq (wp_battery (setInitialMac_calls trivial)) ?_
  intro _ w₃ _
  refine wp_seq updateBattery_battery ?_
  intro s₄ w₄ hpost
  obtain ⟨v, hs₄, hw₄⟩ := hpost
  subst hs₄ hw₄
  refine wp_seq (wp_battery updateStatus_calls) ?_
  intro s₅ w₅ hpost
  obtain ⟨hs₅, hw₅⟩ := hpost
  refine wp_seq (wp_battery (startRadio_calls trivial)) ?_
  intro _ w₆ hpost
  obtain ⟨_, hw₆⟩ := hpost
  refine wp_seq (wp_battery (waitButtonRelease_calls (Q := fun _ _ => True) trivial trivial))
    fun _ w₇ hpost => ?_
  obtain ⟨_, hw₇⟩ := hpost
  subst hs₅
  rw [wp_pure, hw₇, hw₆, hw₅]
  refine ⟨by nofun, by simp [hs], .inl (by simp [hs]), fun hl => .inr ?_⟩
  rw [if_pos hl]
  exact Nat.le_add_left 1 _

theorem initializeMachine_counted (hs : s.badPower = 0) :
    wp (battery due charger) (initializeMachine s) (fun s' w' => Counted s' w'.low) w := by
  simpa [initializeMachine, Readings.Next, startUp_counted hs] using fun _ _ =>
    ⟨by simp, by simp [hs], .inr rfl, fun _ => .inl rfl⟩

/-! ## Runs -/

/-- States at the ends of ticks, with the readings counted.  The uptime read by the battery check of a
tick begun in `s` satisfies `due s charger`, with a `charger` connected or not. -/
inductive BatteryRun (due : StateMachine → Prop → UInt32 → Prop) : StateMachine → Nat → Prop
  | start {s : StateMachine} {w : Readings} :
      Reaches (battery (fun _ => True) False) (initializeMachine {}, {}) (.ret s, w) →
      BatteryRun due s w.low
  | tick {s s' : StateMachine} {low : Nat} {w : Readings} (charger : Prop) : BatteryRun due s low →
      Reaches (battery (due s charger) charger) (mainLoop s, { low := low }) (.ret s', w) →
      BatteryRun due s' w.low

theorem BatteryRun.counted {low : Nat} (h : BatteryRun CheckDue s low) : Counted s low := by
  induction h with
  | start hr =>
    exact wp_value (Q := fun s w => Counted s w.low) (wp_reaches (initializeMachine_counted rfl) hr)
  | tick charger _ hr ih =>
    exact wp_value (Q := fun s w => Counted s w.low) (wp_reaches (mainLoop_counted ih) hr)

/-- The counter never exceeds the number of low readings since the last good one. -/
theorem badPower_le_low {low : Nat} (h : BatteryRun CheckDue s low) : s.badPower.toNat ≤ low :=
  h.counted.badPower_le

end

/-! ## Played runs -/

/-- A device at rest that reads `voltage` at the uptime `now`. -/
def Readings.serve (now : UInt32) (voltage : Int) (w : Readings) (c : Call) : Option (c.Ans × Readings) :=
  some (answers { turnedOn := true } now voltage c,
    match c with
    | .uptimeSeconds => { w with asked := w.asked + 1 }
    | .batteryVoltage =>
      { w with low := if storedVoltage voltage < kBatteryLowVoltage then w.low + 1 else 0 }
    | _ => w)

theorem battery_step_serve {due : UInt32 → Prop} {now : UInt32} {voltage : Int} (hdue : due now)
    (w : Readings) (c : Call) (x : c.Ans × Readings) (hx : w.serve now voltage c = some x) :
    (battery due False).step w c x.1 x.2 := by
  cases hx
  cases c with
  | uptimeSeconds => exact ⟨fun _ => hdue, rfl⟩
  | isCharging => exact ⟨False.elim, rfl⟩
  | _ => rfl

/-- The ticks at the uptimes `nows`, as far as they pass the `check`; the reading stays the same. -/
def playTicks (check : StateMachine → UInt32 → Bool) (voltage : Int) :
    List UInt32 → StateMachine × Nat → Option (StateMachine × Nat)
  | [], x => some x
  | now :: nows, (s, low) =>
    if check s now then
      ((mainLoop s).play (Readings.serve now voltage) { low := low }).bind fun (s', w) =>
        playTicks check voltage nows (s', w.low)
    else none

theorem BatteryRun.ticks {due : StateMachine → Prop → UInt32 → Prop}
    {check : StateMachine → UInt32 → Bool} (hdue : ∀ s now, check s now = true → due s False now)
    {voltage : Int} {nows : List UInt32} {s : StateMachine} {low : Nat} {x : StateMachine × Nat}
    (h : BatteryRun due s low) (hx : playTicks check voltage nows (s, low) = some x) :
    BatteryRun due x.1 x.2 := by
  induction nows generalizing s low with
  | nil =>
    cases hx
    exact h
  | cons now nows ih =>
    rw [playTicks] at hx
    split at hx
    · obtain ⟨⟨s', w⟩, hp, hx⟩ := Option.bind_eq_some_iff.1 hx
      exact ih (h.tick False (reaches_of_play (battery_step_serve (hdue s now ‹_›)) hp)) hx
    · cases hx

/-- The device boots and ticks at the uptimes `nows`. -/
def played (check : StateMachine → UInt32 → Bool) (voltage : Int) (nows : List UInt32) :
    Option (StateMachine × Nat) :=
  ((initializeMachine {}).play (Readings.serve 0 voltage) {}).bind fun (s, w) =>
    playTicks check voltage nows (s, w.low)

theorem BatteryRun.played {due : StateMachine → Prop → UInt32 → Prop}
    {check : StateMachine → UInt32 → Bool} (hdue : ∀ s now, check s now = true → due s False now)
    {voltage : Int} {nows : List UInt32} {x : StateMachine × Nat} (hx : x ∈ played check voltage nows) :
    BatteryRun due x.1 x.2 := by
  obtain ⟨⟨s, w⟩, hp, hx⟩ := Option.bind_eq_some_iff.1 hx
  exact (BatteryRun.start (reaches_of_play (battery_step_serve trivial) hp)).ticks hdue hx

/-! ## Shutdown -/

/-- The tick that ended in `s` powered off in `handle_uvlo_shutdown`. -/
def UvloShutdown (s : StateMachine) : Prop :=
  s.state = .shuttingDown ∧ kUvloBadPowerThreshold < s.badPower

instance (s : StateMachine) : Decidable (UvloShutdown s) := inferInstanceAs (Decidable (_ ∧ _))

/-- If every tick that starts with something counted finds its battery check due or the charger
connected, an under-voltage shutdown has seen six readings in a row below `kBatteryLowVoltage`. -/
theorem shutdown_needs_low_readings {s : StateMachine} {low : Nat} (h : BatteryRun CheckDue s low)
    (hs : UvloShutdown s) : kUvloBadPowerThreshold.toNat + 1 ≤ low :=
  (UInt8.lt_iff_toNat_lt.1 hs.2).trans_le (badPower_le_low h)

/-- Read once a minute at 2700 mV, a device shuts down after six minutes, with seven low readings. -/
theorem shutdown_needs_low_readings_played :
    ∃ x ∈ played (fun s now => decide (CheckDue s False now)) 2700
      [60, 62, 120, 122, 180, 182, 240, 242, 300, 302, 360],
      UvloShutdown x.1 ∧ kUvloBadPowerThreshold.toNat + 1 ≤ x.2 := by
  obtain ⟨x, hx, hs⟩ : ∃ x ∈ played (fun s now => decide (CheckDue s False now)) 2700
      [60, 62, 120, 122, 180, 182, 240, 242, 300, 302, 360], UvloShutdown x.1 := by decide
  exact ⟨x, hx, hs, shutdown_needs_low_readings (.played (fun _ _ h => of_decide_eq_true h) hx) hs⟩

/-- Without that proviso one reading is enough: a device that reads 2700 mV at boot is shut down twelve
seconds later, before its next battery check. -/
theorem one_reading_shuts_down :
    ¬ ∀ s low, BatteryRun (fun _ _ _ => True) s low → UvloShutdown s →
      kUvloBadPowerThreshold.toNat + 1 ≤ low := by
  obtain ⟨x, hx, hs, hlow⟩ : ∃ x ∈ played (fun _ _ => true) 2700 [2, 4, 6, 8, 10, 12],
      UvloShutdown x.1 ∧ x.2 = 1 := by decide
  intro h
  have := h x.1 x.2 (.played (fun _ _ _ => trivial) hx) hs
  rw [hlow] at this
  exact absurd this (by decide)

end Everytag
