import Everytag.Footprint
import Everytag.Validity

/-!
# The main loop over the device

`Device.Serves` says what the calls of the main loop read from the device and do to it.  Between
two calls anything else may happen: in `settingsWorld` any operation on the settings.
-/

namespace Everytag

open Interaction StateMachine

namespace Device

/-- `store_time` at an uptime. -/
def storeTime (d : Device) (uptimeSec : UInt32) : Device :=
  { d with settings := d.settings.saveTime uptimeSec }

/-- `settings_.set_turned_on(v)` -/
def setTurnedOn (d : Device) (v : Bool) : Device :=
  { d with settings := { d.settings with config := d.settings.config.setTurnedOn v } }

/-- Answer and effect of a call on the device.  `reboot` stores the time over and over before it
resets; calls that are not listed leave the device alone and may answer anything. -/
def Serves (d : Device) : (c : Call) → c.Ans → Device → Prop
  | .config, cfg, d' => cfg = d.settings.config ∧ d' = d
  | .configKey i, key, d' => d.settings.config.keys[i.toNat]? = some key ∧ d' = d
  | .glueSyncGattState, flags, d' =>
    flags = ⟨d.gatt.connectedGatt, d.gatt.authorizedGatt, d.gatt.pauseUpload, d.gatt.needsReset⟩ ∧ d' = d
  | .setTurnedOn v, _, d' => d' = d.setTurnedOn v
  | .updateTurnedOn on, _, d' =>
    d' = { d with settings := (d.setTurnedOn on).settings.save .turnedOn }
  | .storeTime, _, d' => ∃ uptimeSec, d' = d.storeTime uptimeSec
  | .reboot, _, d' => ∃ uptimes : List UInt32, d' = uptimes.foldl storeTime d
  | .startSettingsAdv, _, d' => d' = d.startSettingsAdv
  | _, _, d' => d' = d

theorem foldl_storeTime_config (d : Device) (ts : List UInt32) :
    (ts.foldl storeTime d).settings.config = d.settings.config ∧ (ts.foldl storeTime d).gatt = d.gatt := by
  induction ts generalizing d with
  | nil => exact ⟨rfl, rfl⟩
  | cons t ts ih => exact ih (d.storeTime t)

theorem Sound.serves {d d' : Device} {c : Call} {a : c.Ans} (h : d.Sound) (hs : d.Serves c a d') :
    d'.Sound := by
  cases c with
  | config | configKey | glueSyncGattState =>
    obtain ⟨-, rfl⟩ := hs
    exact h
  | setTurnedOn | updateTurnedOn =>
    cases hs
    exact ⟨{ h.valid with }, h.keysReceived⟩
  | storeTime =>
    obtain ⟨t, rfl⟩ := hs
    exact ⟨h.valid, h.keysReceived⟩
  | reboot =>
    obtain ⟨ts, rfl⟩ := hs
    obtain ⟨hc, hg⟩ := foldl_storeTime_config d ts
    exact ⟨hc ▸ h.valid, hg ▸ h.keysReceived⟩
  | startSettingsAdv =>
    cases hs
    exact h.step .startSettingsAdv
  | _ => cases hs; exact h

end Device

/-! ## Sleeps and indices -/

/-- Every sleep is longer than zero and every index into `keys[]` lies inside of the array. -/
@[simp] def InBounds : Call → Prop
  | .sleepMs ms => ms ≠ 0
  | .configKey i => i.toNat < kMaxKeysInMemory
  | _ => True

/-- The main loop, with any operations on the settings between its calls. -/
def settingsWorld : World Call Call.Ans Device where
  allowed _ c := InBounds c
  step d c a d' := d.Serves c a d'
  move d d' := ∃ op, d' = d.apply op

theorem Device.Sound.move {d d' : Device} (h : d.Sound) (hm : settingsWorld.move d d') : d'.Sound := by
  obtain ⟨op, rfl⟩ := hm
  exact h.apply op

def Policy.valid : Policy where
  sleep ms := ms ≠ 0
  index i := i.toNat < kMaxKeysInMemory
  radio := True
  mode := True
  reading := True
  dfu := True
  config := BeaconConfig.Valid

theorem Policy.valid_sound : Policy.valid.Sound where
  sleep _ h := h
  tick cfg h := by
    show 1000 * cfg.multPeriod.toUInt32 ≠ 0
    rcases BeaconConfig.Valid.multPeriod h with h | h | h | h <;> rw [h] <;> decide
  index cfg i h hi := Nat.lt_of_lt_of_le (UInt8.lt_iff_toNat_lt.1 hi) (BeaconConfig.Valid.numKeys h)

/-- A specification under the policy of valid configurations holds in `settingsWorld`. -/
theorem wp_settingsWorld {α : Type} {p : Main α} {Q : α → Prop}
    (hp : wp (calls .valid) p (fun a _ => Q a) ()) {d : Device} (h : d.Sound) :
    wp settingsWorld p (fun a d => Q a ∧ d.Sound) d := by
  refine wp_frame (E := settingsWorld) hp Device.Sound (fun _ _ h hm => h.move hm)
    (fun d c hc h => ?_) h
  refine ⟨?_, fun a d' hs => ⟨?_, h.serves hs⟩⟩
  · cases c with
    | sleepMs ms => exact hc.sleep ms rfl
    | configKey i => exact hc.index i rfl
    | _ => trivial
  · cases c with
    | config =>
      obtain ⟨rfl, -⟩ := hs
      exact h.valid
    | _ => trivial

/-- The configuration is valid at every moment: after each read of a load, after any sequence of
operations, and in every run of the main loop with any operations between its calls; and the main
loop never sleeps zero nor reads past the key ring. -/
theorem settings_stay_valid (rd : NvsRead) (nvs : Nvs) (accelThreshold : Int) :
    (∀ n, (((BeaconConfig.loadSteps rd).take n).foldl (fun c f => f c) {} : BeaconConfig).Valid) ∧
    (∀ ops : List SettingsOp,
      (ops.foldl Device.apply ⟨⟨BeaconConfig.load rd, nvs⟩, accelThreshold, {}⟩).Sound) ∧
    (∀ (keyIdx : Int) (offset : Nat) (data : List UInt8), BeaconConfig.ChunkFits keyIdx offset data →
      0 ≤ keyIdx ∧ keyIdx.toNat < kMaxKeysInMemory ∧ offset + data.length ≤ 28) ∧
    ∀ (p : Main StateMachine) (d : Device),
      During settingsWorld (initializeMachine {}) mainLoop
        (· = ⟨⟨BeaconConfig.load rd, nvs⟩, accelThreshold, {}⟩) p d →
      d.Sound ∧ ∀ c, p.next? = some c → InBounds c := by
  have hboot : Device.Sound ⟨⟨BeaconConfig.load rd, nvs⟩, accelThreshold, {}⟩ :=
    ⟨BeaconConfig.valid_load rd, Nat.zero_le _⟩
  refine ⟨BeaconConfig.valid_loadSteps rd, hboot.foldl_apply, fun keyIdx offset data h => ?_,
    fun p d hd => ⟨?_, fun c hc => ?_⟩⟩
  · refine ⟨?_, h.idx_lt, h.end_le⟩
    simp only [BeaconConfig.ChunkFits] at h
    omega
  · exact during_keeps (fun d hd => hd ▸ hboot) (fun _ _ h hm => h.move hm)
      (fun _ _ _ _ h hs => h.serves hs) hd
  · refine during_allowed (I := fun _ d => d.Sound) (fun d hd => ?_) (fun s d h => ?_) hd hc
    · subst hd
      exact wp_mono (fun _ _ h => h.2)
        (wp_settingsWorld (Q := fun _ => True)
          (wp_mono (fun _ _ _ => trivial) (initializeMachine_calls Policy.valid_sound trivial trivial))
          hboot)
    · exact wp_mono (fun _ _ h => h.2)
        (wp_settingsWorld (Q := fun _ => True)
          (mainLoop_calls Policy.valid_sound trivial trivial trivial trivial) h)

end Everytag
