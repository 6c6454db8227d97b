import Everytag.ChargeLock
import Everytag.Shutdown

/-!
# Shutdown discipline

Three handlers shut the device down, each with a teardown of its own.  The world `scripted` lists the calls
of one tick; `TeardownTick` are the answers that decide which of the handlers comes to it.  Under-voltage and
the long press forbid restarts, cancel, stop and power off; the shutdown for want of a protocol powers off and
does nothing else (`mainLoop_torn`).
-/

namespace Everytag

open Interaction StateMachine

/-- `TickInputs`, and what `handle_uvlo_shutdown` and `handle_nokeys_shutdown` are told of the charger. -/
structure TeardownTick extends TickInputs where
  seen : Bool
  charging : Bool

/-- The under-voltage check of a tick begun in `s` shuts the device down. -/
def UvloFires (s : StateMachine) (i : TeardownTick) : Prop :=
  i.low s ∧ i.seen = false ∧ lockAfter s i.cfg.multPeriod ≤ 0

/-- `handle_nokeys_shutdown` shuts the device down, if the tick comes to it. -/
def NokeysFires (i : TeardownTick) : Prop := i.noProtocol ∧ i.charging = false

/-- The reads of the uptime so far, and all calls. -/
structure TeardownLog where
  asked : Nat := 0
  calls : List Call := []

def TeardownLog.after (w : TeardownLog) (c : Call) : TeardownLog :=
  ⟨if c = .uptimeSeconds then w.asked + 1 else w.asked, w.calls ++ [c]⟩

/-- The configuration is `i.cfg` where the charge lock and `handle_nokeys_shutdown` read it. -/
@[simp] def TeardownTick.Answers (i : TeardownTick) (asked : Nat) : (c : Call) → c.Ans → Prop
  | .uptimeSeconds, now => (asked = 1 → now = i.check) ∧ (asked = 2 → now = i.nokeys)
  | .isCharging, charging => (asked = 2 → charging = i.seen) ∧ (asked = 3 → charging = i.charging)
  | .batteryVoltage, v => v = i.reading
  | .config, cfg => asked = 0 ∨ asked = 3 → cfg = i.cfg
  | _, _ => True

/-- A device during a tick that finds `i`. -/
def scripted (i : TeardownTick) : World Call Call.Ans TeardownLog where
  allowed _ _ := True
  step w c a w' := i.Answers w.asked c a ∧ w' = w.after c
  move _ _ := False

/-- Programs that do not read the uptime. -/
abbrev timeless : World Call Call.Ans Unit := free (· ≠ .uptimeSeconds) fun _ _ => True

/-- Calls that put something on air, or let it. -/
def Call.starts : Call → Bool
  | .btEnable | .advStartAirtag .. | .advStartFmdn .. | .startSettingsAdv | .broadcastIbeacon _
  | .beaconAdvSetAllowed true | .enableDfu => true
  | _ => false

/-- Before it powers off for the first time the tick has forbidden restarts for good, cancelled the pending ones and
stopped what was on air; nothing is started after that. -/
def TornDown (calls : List Call) : Prop :=
  ∃ before between rest, calls = before ++ .advStop :: between ++ .powerOff :: rest ∧
    .beaconAdvSetAllowed false ∈ before ∧ .beaconAdvCancelSync ∈ before ∧ .beaconAdvSetAllowed true ∉ before ∧
    .powerOff ∉ before ++ between ∧ ∀ c ∈ between ++ rest, c.starts = false

/-- Neither a power off nor a word about restarts. -/
def Call.Undecided (c : Call) : Prop := c ≠ .powerOff ∧ ∀ allowed, c ≠ .beaconAdvSetAllowed allowed

/-- No shutdown has begun. -/
def Undecided (calls : List Call) : Prop := ∀ c ∈ calls, c.Undecided

theorem undecided_nil : Undecided [] := by
  simp [Undecided]

theorem Undecided.append {calls rest : List Call} (h : Undecided calls) (hrest : ∀ c ∈ rest, c.Undecided) :
    Undecided (calls ++ rest) := fun c hc => (List.mem_append.1 hc).elim (h c) (hrest c)

theorem TornDown.of_eq {calls before : List Call} (between : List Call) (hbefore : Undecided before)
    (heq : calls = before ++ [.beaconAdvSetAllowed false, .beaconAdvCancelSync, .advStop] ++ between ++ [.powerOff])
    (h : ∀ c ∈ between, c.starts = false ∧ c ≠ .powerOff) : TornDown calls := by
  have hon : .powerOff ∉ before := fun hc => (hbefore _ hc).1 rfl
  have hallowed : .beaconAdvSetAllowed true ∉ before := fun hc => (hbefore _ hc).2 true rfl
  have hbetween : .powerOff ∉ between := fun hc => (h _ hc).2 rfl
  refine ⟨before ++ [.beaconAdvSetAllowed false, .beaconAdvCancelSync], between, [], ?_, ?_, ?_, ?_, ?_, ?_⟩
  · simp [heq]
  · simp
  · simp
  · simp [hallowed]
  · simp [hon, hbetween]
  · simpa using fun c hc => (h c hc).1

/-- Restarts have not been forbidden. -/
def Unguarded (calls : List Call) : Prop := .beaconAdvSetAllowed false ∉ calls

theorem Unguarded.not_tornDown {calls : List Call} (h : Unguarded calls) : ¬ TornDown calls := by
  rintro ⟨before, between, rest, rfl, hset, -⟩
  exact h (by simp [hset])

theorem Undecided.unguarded {calls : List Call} (h : Undecided calls) : Unguarded calls :=
  fun hc => (h _ hc).2 false rfl

/-- Programs that do nothing about a shutdown. -/
abbrev undecided : World Call Call.Ans Unit := free Call.Undecided fun _ _ => True

section

variable {i : TeardownTick} {s s' : StateMachine} {w w' : TeardownLog}

instance : (scripted i).Sequential := ⟨fun _ _ h => h⟩

@[simp] theorem scripted_allowed (c : Call) : (scripted i).allowed w c ↔ True := Iff.rfl

@[simp] theorem scripted_step (c : Call) (a : c.Ans) :
    (scripted i).step w c a w' ↔ i.Answers w.asked c a ∧ w' = w.after c := Iff.rfl

@[simp] theorem asked_after (c : Call) :
    (w.after c).asked = if c = .uptimeSeconds then w.asked + 1 else w.asked := rfl

@[simp] theorem calls_after (c : Call) : (w.after c).calls = w.calls ++ [c] := rfl

@[simp] theorem undecided_iff {c : Call} :
    c.Undecided ↔ c ≠ .powerOff ∧ ∀ allowed, c ≠ .beaconAdvSetAllowed allowed := Iff.rfl

theorem wp_undecided {α : Type} {p : Main α} (hp : wp undecided p (fun _ _ => True) ()) (hw : Undecided w.calls) :
    wp (scripted i) p (fun _ w' => Undecided w'.calls) w := by
  refine wp_mono (fun _ _ h => h.2) (wp_frame (E := scripted i) hp (fun w' => Undecided w'.calls)
    (fun _ _ _ h => h.elim) (fun w₁ c hc h₁ => ⟨trivial, fun a w₂ hs => ⟨trivial, ?_⟩⟩) hw)
  rw [hs.2, calls_after]
  exact h₁.append (by simpa using hc)

/-- A call that does nothing about a shutdown. -/
theorem wp_undecided_call {α : Type} {c : Call} {k : c.Ans → Main α} {Q : α → TeardownLog → Prop}
    (hc : c.Undecided) (hw : Undecided w.calls) (hk : ∀ a w', Undecided w'.calls → wp (scripted i) (k a) Q w') :
    wp (scripted i) (issue c >>= k) Q w := by
  refine wp_call _ trivial ?_
  rintro a _ ⟨-, rfl⟩
  exact hk a _ (hw.append (by simpa using hc))

/-- A specification, and the footprint of a program that does nothing about a shutdown. -/
theorem wp_before {α : Type} {p : Main α} {Q : α → TeardownLog → Prop} {S : α → Prop} (h : wp (scripted i) p Q w)
    (hp : wp (calls (.any True True)) p (fun a _ => S a) ()) (hu : wp undecided p (fun _ _ => True) ())
    (hw : Undecided w.calls) : wp (scripted i) p (fun a w' => Q a w' ∧ S a ∧ Undecided w'.calls) w :=
  wp_mono (fun _ _ h => ⟨h.1.1, h.1.2, h.2⟩)
    (wp_and (wp_mode h hp) (wp_undecided hu hw))

theorem wp_timeless {α : Type} {p : Main α} {Q : α → Prop} (hp : wp timeless p (fun a _ => Q a) ()) :
    wp (scripted i) p (fun a w' => Q a ∧ w'.asked = w.asked) w := by
  refine wp_frame (E := scripted i) hp (fun w' => w'.asked = w.asked) (fun _ _ _ h => h.elim)
    (fun w₁ c hc h₁ => ⟨trivial, fun a w₂ hs => ⟨trivial, ?_⟩⟩) rfl
  rw [hs.2, asked_after, if_neg hc]
  exact h₁

theorem wp_scripted {α : Type} {p : Main α} {Q : α → Prop}
    (hp : wp (calls (.any True True)) p (fun a _ => Q a) ()) : wp (scripted i) p (fun a _ => Q a) w :=
  wp_of_calls (fun _ _ => trivial) hp

/-! ## Up to the shutdown handlers -/

theorem syncGattState_scripted :
    wp (scripted i) (syncGattState s) (fun _ w' => w'.asked = w.asked) w := by
  simp [syncGattState]

theorem tickSleep_scripted (hw : w.asked = 0) : wp (scripted i) (tickSleep s)
    (fun s' w' => s'.chargeLockCounter = lockAfter s i.cfg.multPeriod ∧ w'.asked = 0) w := by
  by_cases hpos : 0 < s.chargeLockCounter
  · simp +contextual [tickSleep, lockAfter, hpos, hw]
  · simp +contextual [tickSleep, lockAfter, hpos, hw]

theorem handleTimeSave_scripted (hw : w.asked = 0) :
    wp (scripted i) (handleTimeSave s) (fun _ w' => w'.asked = 1) w := by
  simp [handleTimeSave, hw]

theorem updateBattery_scripted : wp (scripted i) (updateBattery s)
    (fun s' w' => s' = { s with lastBatteryVoltage := storedVoltage i.reading } ∧ w'.asked = w.asked) w := by
  simp +contextual [updateBattery]

/-- The status and the update of what is on air. -/
theorem refresh_timeless {u : Unit} : wp timeless (do
    let s ← updateStatus s
    let cfg ← issue .config
    if cfg.flagAirtag || cfg.flagFmdn then broadcast s else return s)
    (fun s' _ => s'.lastBatteryVoltage = s.lastBatteryVoltage ∧ s'.badPower = s.badPower ∧
      s'.chargeLockCounter = s.chargeLockCounter) u := by
  simp [updateStatus, broadcast]

theorem handleBatteryCheck_scripted (hw : w.asked = 1) : wp (scripted i) (handleBatteryCheck s)
    (fun s' w' => (s'.lastBatteryVoltage = i.voltage s ∧ s'.badPower = s.badPower ∧
      s'.chargeLockCounter = s.chargeLockCounter) ∧ w'.asked = 2) w := by
  refine wp_call _ trivial ?_
  rintro now w₁ ⟨hnow, rfl⟩
  rw [hnow.1 hw]
  have hasked : (w.after .uptimeSeconds).asked = 2 := by simp [hw]
  by_cases hlt : i.check < s.timers.batteryCheck + kIntervalBatteryCheck
  · rw [if_pos hlt, wp_pure, TickInputs.voltage, if_pos hlt]
    exact ⟨⟨rfl, rfl, rfl⟩, hasked⟩
  rw [if_neg hlt, TickInputs.voltage, if_neg hlt]
  refine wp_seq updateBattery_scripted ?_
  rintro s₂ w₂ ⟨rfl, hw₂⟩
  refine wp_mono ?_ (wp_timeless refresh_timeless)
  rintro s₃ w₃ ⟨h₃, hw₃⟩
  exact ⟨h₃, hw₃.trans (hw₂.trans hasked)⟩

/-! ## The shutdown handlers -/

theorem handleUvloShutdown_scripted (hw : w.asked = 2) (hu : Undecided w.calls) :
    wp (scripted i) (handleUvloShutdown s)
      (fun r w' => (r.1 = true ↔ (s.lastBatteryVoltage < kBatteryLowVoltage ∧
          kUvloBadPowerThreshold < s.badPower + 1) ∧ i.seen = false ∧ s.chargeLockCounter ≤ 0) ∧
        (r.1 = true → TornDown w'.calls) ∧ (r.1 = false → w'.asked = 2 ∧ Undecided w'.calls)) w := by
  have hasked : Undecided (w.calls ++ [.isCharging]) := hu.append (by simp)
  by_cases hlow : s.lastBatteryVoltage < kBatteryLowVoltage
  · cases hseen : i.seen with
    | true => simpa [handleUvloShutdown, hw, hlow, hseen, kChargeLockDuration] using hasked
    | false =>
      by_cases hlock : s.chargeLockCounter ≤ 0
      · by_cases hbad : kUvloBadPowerThreshold < s.badPower + 1
        · have hdown : TornDown (w.calls ++ [.isCharging, .beaconAdvSetAllowed false, .beaconAdvCancelSync,
              .advStop, .bqShipmode, .powerOff]) :=
            .of_eq [.bqShipmode] hasked (by simp) (by simp [Call.starts])
          simpa [handleUvloShutdown, hw, hlow, hseen, hlock, hbad] using hdown
        · simpa [handleUvloShutdown, hw, hlow, hseen, hlock, UInt8.not_lt.1 hbad] using hasked
      · simpa [handleUvloShutdown, hw, hlow, hseen, hlock] using fun _ => hasked
  · simpa [handleUvloShutdown, hw, UInt16.not_lt.1 hlow] using hu

theorem handleNokeysShutdown_scripted (hw : w.asked = 2) : wp (scripted i) (handleNokeysShutdown s)
    (fun r _ => r.1 = true ↔ NokeysFires i) w := by
  by_cases hflags : i.cfg.flagAirtag = false ∧ i.cfg.flagFmdn = false
  · by_cases hlate : kShutdownNokeys < i.nokeys
    · cases hc : i.charging <;>
        simp [handleNokeysShutdown, hw, NokeysFires, TickInputs.noProtocol, hflags, hlate, hc]
    · cases hc : i.charging <;>
        simp [handleNokeysShutdown, hw, NokeysFires, TickInputs.noProtocol, hflags, UInt32.not_lt.1 hlate, hc]
  · simpa [handleNokeysShutdown, hw, NokeysFires, TickInputs.noProtocol] using
      ⟨fun ha hf => absurd ⟨ha, hf⟩ hflags, fun _ ha hf => absurd ⟨ha, hf⟩ hflags⟩

/-- It powers off without a word about restarts. -/
theorem handleNokeysShutdown_unguarded (hu : Undecided w.calls) : wp (scripted i) (handleNokeysShutdown s)
    (fun r w' => if r.1 then Unguarded w'.calls else Undecided w'.calls) w := by
  refine wp_undecided_call (by simp) hu fun now w₁ h₁ => wp_undecided_call (by simp) h₁ fun cfg w₂ h₂ => ?_
  rw [wp_ite]
  refine ⟨fun _ => ?_, fun _ => (wp_pure _ _ _ _).2 h₂⟩
  refine wp_undecided_call (by simp) h₂ fun charging w₃ h₃ => ?_
  rw [wp_ite]
  refine ⟨fun _ => ?_, fun _ => (wp_pure _ _ _ _).2 h₃⟩
  refine wp_undecided_call (by simp) h₃ fun _ w₄ h₄ => wp_undecided_call (by simp) h₄ fun _ w₅ h₅ => ?_
  refine wp_call _ trivial ?_
  rintro _ _ ⟨-, rfl⟩
  refine (wp_pure _ _ _ _).2 ?_
  simpa [Unguarded] using h₅.unguarded

theorem waitButtonRelease_undecided {u : Unit} : wp undecided (waitButtonRelease 500) (fun _ _ => True) u :=
  waitButtonRelease_free (Q := fun _ _ => True) (by simp) (by simp) (by simp) trivial

theorem handleButtonLongpress_scripted (hu : Undecided w.calls) : wp (scripted i) (handleButtonLongpress s)
    (fun r w' => if r.1 then TornDown w'.calls else Undecided w'.calls) w := by
  refine wp_undecided_call (by simp) hu fun pressed w₁ h₁ => ?_
  rw [wp_ite]
  refine ⟨fun _ => (wp_pure _ _ _ _).2 h₁, fun _ => ?_⟩
  refine wp_undecided_call (by simp) h₁ fun _ w₂ h₂ => wp_undecided_call (by simp) h₂ fun pressed w₃ h₃ => ?_
  rw [wp_ite]
  refine ⟨fun _ => (wp_pure _ _ _ _).2 h₃, fun _ => ?_⟩
  refine wp_undecided_call (by simp) h₃ fun _ w₄ h₄ => wp_undecided_call (by simp) h₄ fun _ w₅ h₅ => ?_
  refine wp_seq (wp_undecided waitButtonRelease_undecided h₅) ?_
  intro _ w₆ h₆
  refine wp_undecided_call (by simp) h₆ fun _ w₇ h₇ => wp_undecided_call (by simp) h₇ fun _ w₈ h₈ => ?_
  refine wp_undecided_call (by simp) h₈ fun _ w₉ h₉ => ?_
  simp only [issue, wp_bind, wp_issue, wp_pure, scripted_allowed, scripted_step, TeardownTick.Answers, true_and]
  rintro _ _ rfl _ _ rfl _ _ rfl _ _ rfl _ _ rfl
  exact .of_eq [.btDisable] h₉ (by simp) (by simp [Call.starts])

/-! ## A tick -/

/-- A machine that has shut down was torn down, and no other has begun to. -/
def DownTorn (s : StateMachine) (w : TeardownLog) : Prop :=
  if s.state = .shuttingDown then TornDown w.calls else Undecided w.calls

theorem DownTorn.torn (h : DownTorn s w) (hs : s.state = .shuttingDown) : TornDown w.calls := by
  rwa [DownTorn, if_pos hs] at h

theorem downTorn_of_running (hs : s.state ≠ .shuttingDown) (h : Undecided w.calls) : DownTorn s w := by
  rwa [DownTorn, if_neg hs]

theorem DownTorn.undecided (h : DownTorn s w) (hs : Broadcasting s) : Undecided w.calls := by
  rwa [DownTorn, if_neg (by rw [hs.state]; nofun)] at h

theorem Broadcasting.downTorn (hs : Broadcasting s) (h : Undecided w.calls) : DownTorn s w :=
  downTorn_of_running (by rw [hs.state]; nofun) h

/-- From the settings timer on, only the long press shuts down. -/
theorem duties_torn : DutiesRule (scripted i) (fun _ w => Undecided w.calls) DownTorn where
  uptime h _ := wp_undecided (by simp) h
  entry h hs := by
    refine wp_mono (fun s' w' h => downTorn_of_running h.1.2 h.2)
      (wp_and (wp_scripted (handleSettingsModeEntry_runsOn ?_ ())) (wp_undecided ?_ h))
    · rw [hs.state]
      nofun
    · simp [handleSettingsModeEntry, useSettingsMac]
  burst h _ := wp_undecided (by simp [handleMaxPowerBurst]) h
  rotation h hs := by
    refine wp_mono (fun s' w' h => (hs.same h.1.1 h.1.2).downTorn h.2)
      (wp_and (wp_scripted handleKeyRotation_modes) (wp_undecided ?_ h))
    simp [handleKeyRotation, setMacFromCurrentKey, broadcast]
  button h hs := by
    refine wp_mono ?_ (wp_mode (handleButtonLongpress_scripted (h.undecided hs))
      (handleButtonLongpress_calls Policy.any_sound trivial trivial))
    rintro r w' ⟨h, rfl | rfl⟩
    · exact hs.downTorn h
    · exact h
  accelerometer h hs := by
    refine wp_mono (fun s' w' h => ?_)
      (wp_and (wp_scripted handleAccelerometer_calls) (wp_undecided ?_ (h.undecided hs)))
    · obtain ⟨⟨t, -, rfl⟩, h⟩ := h
      exact (hs.same rfl rfl).downTorn h
    · simp [handleAccelerometer]
  broadcast h hs := by
    refine wp_mono (fun s' w' h => downTorn_of_running ?_ h.2)
      (wp_and (wp_scripted (tickBroadcast_calls trivial)) (wp_undecided ?_ (h.undecided hs)))
    · rw [h.1.2, hs.state]
      nofun
    · simp [tickBroadcast, handleInitialBroadcast, handleAirtagFmdnAlternation, broadcast]

/-- The outcome of a tick that may shut the device down. -/
def Outcomes (fires nokeys : Prop) (s : StateMachine) (w : TeardownLog) : Prop :=
  s.state = .shuttingDown → (TornDown w.calls ↔ fires ∨ ¬ nokeys)

theorem tickBroadcasting_torn (hs : Broadcasting s) (hw : w.asked = 0) (hu : Undecided w.calls) :
    wp (scripted i) (tickBroadcasting s)
      (Outcomes (i.low s ∧ i.seen = false ∧ s.chargeLockCounter ≤ 0) (NokeysFires i)) w := by
  refine wp_seq (wp_before (handleTimeSave_scripted hw) handleTimeSave_calls (by simp [handleTimeSave]) hu) ?_
  rintro s₁ w₁ ⟨hw₁, ⟨t, ht, hs₁⟩, hu₁⟩
  have hb₁ : Broadcasting s₁ := hs.same (by rw [hs₁]) (by rw [hs₁])
  have hlow : i.low s ↔ i.low s₁ := TickInputs.low_of_same (s := s₁) (hs₁ ▸ ⟨rfl, rfl, ht.symm, id⟩)
  have hlock₁ : s₁.chargeLockCounter = s.chargeLockCounter := by rw [hs₁]
  have hcheck : wp undecided (handleBatteryCheck s₁) (fun _ _ => True) () := by
    simp [handleBatteryCheck, updateBattery, updateStatus, broadcast]
  refine wp_seq (wp_before (handleBatteryCheck_scripted hw₁) (handleBatteryCheck_calls trivial trivial) hcheck hu₁) ?_
  rintro s₂ w₂ ⟨⟨⟨hvoltage, hbad, hlock₂⟩, hw₂⟩, ⟨hstate, hsettings⟩, hu₂⟩
  have hb₂ : Broadcasting s₂ := hb₁.same hstate hsettings
  rw [hlow, TickInputs.low, ← hvoltage, ← hbad, ← hlock₁, ← hlock₂]
  refine wp_seq (wp_mode (handleUvloShutdown_scripted hw₂ hu₂) (handleUvloShutdown_calls trivial trivial)) ?_
  rintro r w₃ ⟨⟨hfires, hdown, hgoes⟩, n, b, hr⟩
  rw [← hfires]
  rcases hr with rfl | rfl
  · -- the under-voltage check lets the tick go on
    obtain ⟨hw₃, hu₃⟩ := hgoes rfl
    have hb₃ : Broadcasting { s₂ with chargeLockCounter := n, badPower := b } := hb₂.same rfl rfl
    refine wp_seq (wp_and (wp_mode (handleNokeysShutdown_scripted hw₃) handleNokeysShutdown_calls)
      (handleNokeysShutdown_unguarded hu₃)) ?_
    rintro r w₄ ⟨⟨hnokeys, hr⟩, h₄⟩
    rw [← hnokeys]
    rcases hr with rfl | rfl
    · refine wp_mono (fun s' w' h hdown => ?_) (duties_torn.tickDuties h₄ hb₃)
      exact iff_of_true (h.torn hdown) (.inr (by simp))
    · refine (wp_pure _ _ _ _).2 fun _ => iff_of_false (Unguarded.not_tornDown h₄) ?_
      simp
  · exact (wp_pure _ _ _ _).2 fun _ => iff_of_true (hdown rfl) (.inl rfl)

theorem mainLoop_torn (hstart : s.state ≠ .initializing) (hrun : s.state ≠ .shuttingDown) :
    wp (scripted i) (mainLoop s) (Outcomes (UvloFires s i) (NokeysFires i)) {} := by
  refine wp_seq (wp_before syncGattState_scripted syncGattState_calls (by simp [syncGattState])
    undecided_nil) ?_
  rintro s₁ w₁ ⟨hw₁, ⟨f, hs₁⟩, hu₁⟩
  have hstate₁ : s₁.state = s.state := by rw [hs₁]
  by_cases hend : s₁.state = .shuttingDown ∨ s₁.state = .firmwareUpload
  · rw [tick_of_ended hend, wp_pure]
    exact fun hdown => absurd (hstate₁ ▸ hdown) hrun
  rw [tick_of_running hend]
  have hsleep : wp undecided (tickSleep s₁) (fun _ _ => True) () := by simp [tickSleep]
  refine wp_seq (wp_before (tickSleep_scripted hw₁) (tickSleep_calls Policy.any_sound) hsleep hu₁) ?_
  rintro s₂ w₂ ⟨⟨hlock, hw₂⟩, ⟨n, -, hs₂⟩, hu₂⟩
  have hstate₂ : s₂.state = s.state := by rw [hs₂]; exact hstate₁
  rw [wp_ite]
  refine ⟨fun _ => ?_, fun hmode => ?_⟩
  · refine wp_mono (fun s' w' h hdown => absurd hdown h.2) (wp_scripted (handleSettingsModeExit_runsOn ?_ ()))
    rw [hstate₂]
    exact hrun
  · rw [hstate₁, ← hstate₂] at hend
    rw [← hstate₂] at hstart
    have hb₂ : Broadcasting s₂ := broadcasting_of_running hstart hend hmode
    have hlow : i.low s ↔ i.low s₂ := TickInputs.low_of_same (s := s₂) (by rw [hs₂, hs₁]; exact ⟨rfl, rfl, rfl, id⟩)
    have hafter : lockAfter s₁ i.cfg.multPeriod = lockAfter s i.cfg.multPeriod := by rw [hs₁]; rfl
    rw [UvloFires, hlow, ← hafter, ← hlock]
    exact tickBroadcasting_torn hb₂ hw₂ hu₂

/-! ## Shutdown -/

/-- Rounds of the main loop, whatever the calls answer. -/
def Later : StateMachine → StateMachine → Prop :=
  Relation.ReflTransGen fun s s' =>
    ∃ (i : TeardownTick) (w w' : TeardownLog), Reaches (scripted i) (mainLoop s, w) (.ret s', w')

theorem Later.shutDown (h : Later s s') (hs : s.state = .shuttingDown) : s'.state = .shuttingDown := by
  induction h with
  | refl => exact hs
  | @tail s₁ s₂ _ hr ih =>
    obtain ⟨i, w, w', hr⟩ := hr
    exact wp_value (Q := fun s _ => s.state = .shuttingDown) (wp_reaches (wp_scripted (mainLoop_shutDown ih)) hr)

/-- A tick of a running machine that shuts it down has torn it down before the power is cut, unless it is the one
of `handle_nokeys_shutdown`; and from then on a tick calls nothing. -/
theorem shutdown_discipline (s : StateMachine) (hs : Reachable s) (hrun : s.state ≠ .shuttingDown) (i : TeardownTick)
    (s' : StateMachine) (w : TeardownLog) (hr : Reaches (scripted i) (mainLoop s, {}) (.ret s', w))
    (hdown : s'.state = .shuttingDown) :
    (TornDown w.calls ↔ UvloFires s i ∨ ¬ NokeysFires i) ∧
    ∀ s'', Later s' s'' → s''.state = .shuttingDown ∧ tick s'' = pure s'' := by
  refine ⟨wp_value (wp_reaches (mainLoop_torn hs.started hrun) hr) hdown, fun s'' hlater => ?_⟩
  have hstate := hlater.shutDown hdown
  exact ⟨hstate, tick_of_ended (.inl hstate)⟩

end

/-! ## Played ticks -/

/-- A device at rest at the uptime `now`; if it is `held`, its button is held until the lamp blinks. -/
def TeardownLog.serve (cfg : BeaconConfig) (now : UInt32) (held : Bool) (w : TeardownLog) :
    (c : Call) → Option (c.Ans × TeardownLog)
  | .buttonPressed => some (held && !w.calls.contains (.blinkLed 2 true), w.after .buttonPressed)
  | c => some (answers cfg now 3000 c, w.after c)

/-- What such a tick finds. -/
def restTick (cfg : BeaconConfig) (now : UInt32) : TeardownTick :=
  { cfg := cfg, check := now, reading := 3000, nokeys := now, seen := false, charging := false }

theorem scripted_step_serve {cfg : BeaconConfig} {now : UInt32} {held : Bool} (w : TeardownLog) (c : Call)
    (x : c.Ans × TeardownLog) (hx : w.serve cfg now held c = some x) :
    (scripted (restTick cfg now)).step w c x.1 x.2 := by
  cases c with
  | uptimeSeconds | isCharging =>
    cases hx
    exact ⟨⟨fun _ => rfl, fun _ => rfl⟩, rfl⟩
  | config =>
    cases hx
    exact ⟨fun _ => rfl, rfl⟩
  | batteryVoltage =>
    cases hx
    exact ⟨rfl, rfl⟩
  | _ =>
    cases hx
    exact ⟨trivial, rfl⟩

/-- Its button held, a device tears down and goes off. -/
theorem shutdown_discipline_longpress :
    ∃ s s' w, Reachable s ∧
      Reaches (scripted (restTick { turnedOn := true } 10)) (mainLoop s, {}) (.ret s', w) ∧
      s'.state = .shuttingDown ∧ TornDown w.calls := by
  obtain ⟨⟨s, u⟩, hstart, ⟨s', w⟩, htick, hrun, hdown⟩ :
      ∃ x ∈ (initializeMachine {}).play (fun _ c => some (answers { turnedOn := true } 0 3000 c, ())) (),
      ∃ y ∈ (mainLoop x.1).play (TeardownLog.serve { turnedOn := true } 10 true) {},
        x.1.state ≠ .shuttingDown ∧ y.1.state = .shuttingDown := by decide
  have hs : Reachable s := .of_play hstart
  have hr := reaches_of_play scripted_step_serve htick
  have hnot : ¬ NokeysFires (restTick { turnedOn := true } 10) := fun h => absurd h.1.2.2 (by decide)
  exact ⟨s, s', w, hs, hr, hdown, (shutdown_discipline s hs hrun _ s' w hr hdown).1.2 (.inr hnot)⟩

/-- Five minutes after its start, a device without keys cuts its power with the iBeacon on air. -/
theorem nokeys_not_tornDown :
    ¬ ∀ s, Reachable s → s.state ≠ .shuttingDown → ∀ i s' w, Reaches (scripted i) (mainLoop s, {}) (.ret s', w) →
      s'.state = .shuttingDown → TornDown w.calls := by
  obtain ⟨⟨s, u⟩, hstart, ⟨s', w⟩, htick, hrun, hdown, hset⟩ :
      ∃ x ∈ (initializeMachine {}).play (fun _ c => some (answers { turnedOn := true } 0 3000 c, ())) (),
      ∃ y ∈ (mainLoop x.1).play (TeardownLog.serve { turnedOn := true } 301 false) {},
        x.1.state ≠ .shuttingDown ∧ y.1.state = .shuttingDown ∧ .beaconAdvSetAllowed false ∉ y.2.calls := by decide
  intro h
  exact Unguarded.not_tornDown hset
    (h s (.of_play hstart) hrun _ s' w (reaches_of_play scripted_step_serve htick) hdown)

end Everytag
