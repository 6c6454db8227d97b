import Everytag.Tick
import Everytag.Validity

/-!
# Key rotation schedule

`handle_key_rotation` competes with the settings window, the alternation and the bursts.  The world
`rotating` keeps the latest uptime and the keys handed to `prepare_airtag`.  Every other handler leaves the
place in the ring, its timer and that list alone (`SameRing`), so a round of the main loop rotates once or
not at all (`mainLoop_rotates`), and the schedule is an induction over the rounds (`RotationRun.schedule`).
-/

namespace Everytag

open Interaction StateMachine

/-- The latest uptime, and the keys prepared so far, each with the uptime read before. -/
structure Rotations where
  latest : UInt32 := 0
  prepared : List (Key × UInt32) := []
deriving DecidableEq, Repr

/-- Uptimes do not decrease, and stay clear of the end of their range. -/
@[simp] def Rotations.Next (w : Rotations) : (c : Call) → c.Ans → Rotations → Prop
  | .uptimeSeconds, now, w' => w.latest ≤ now ∧ now.toNat < 4294960096 ∧ w' = { w with latest := now }
  | .prepareAirtag key, _, w' => w' = { w with prepared := w.prepared ++ [(key, w.latest)] }
  | _, _, w' => w' = w

/-- A device with the configuration `cfg`. -/
def rotating (cfg : BeaconConfig) : World Call Call.Ans Rotations where
  allowed _ _ := True
  step w c a w' := Steady cfg c a ∧ w.Next c a w'
  move _ _ := False

/-- Programs that prepare no AirTag key. -/
abbrev keyless : World Call Call.Ans Unit := free (fun c => ∀ key, c ≠ .prepareAirtag key) fun _ _ => True

section

variable {cfg : BeaconConfig} {s s' s₀ : StateMachine} {w w' w₀ : Rotations} {u : Unit}

instance : (rotating cfg).Sequential := ⟨fun _ _ h => h⟩

@[simp] theorem rotating_allowed (c : Call) : (rotating cfg).allowed w c ↔ True := Iff.rfl

@[simp] theorem rotating_step (c : Call) (a : c.Ans) :
    (rotating cfg).step w c a w' ↔ Steady cfg c a ∧ w.Next c a w' := Iff.rfl

/-- Time passes, and no key is prepared. -/
structure Rotations.Idle (w w' : Rotations) : Prop where
  latest : w.latest ≤ w'.latest
  bound : w.latest.toNat < 4294960096 → w'.latest.toNat < 4294960096
  prepared : w'.prepared = w.prepared

theorem Rotations.Idle.refl (w : Rotations) : w.Idle w := ⟨UInt32.le_refl _, id, rfl⟩

theorem Rotations.Idle.trans {w₁ w₂ w₃ : Rotations} (h : w₁.Idle w₂) (h' : w₂.Idle w₃) : w₁.Idle w₃ :=
  ⟨UInt32.le_trans h.1 h'.1, h'.2 ∘ h.2, h'.3.trans h.3⟩

theorem Rotations.Next.idle {c : Call} {a : c.Ans} (hc : ∀ key, c ≠ .prepareAirtag key)
    (h : w.Next c a w') : w.Idle w' := by
  cases c with
  | uptimeSeconds =>
    obtain ⟨hle, hlt, rfl⟩ := h
    exact ⟨hle, fun _ => hlt, rfl⟩
  | prepareAirtag key => exact absurd rfl (hc key)
  | _ =>
    cases h
    exact .refl w

/-- Whatever is called. -/
theorem Rotations.Next.bound {c : Call} {a : c.Ans} (h : w.Next c a w')
    (hw : w.latest.toNat < 4294960096) : w'.latest.toNat < 4294960096 := by
  cases c with
  | uptimeSeconds =>
    obtain ⟨-, hlt, rfl⟩ := h
    exact hlt
  | _ =>
    cases h
    exact hw

theorem wp_keyless {α : Type} {p : Main α} {Q : α → Prop} (hp : wp keyless p (fun a _ => Q a) ()) :
    wp (rotating cfg) p (fun a w' => Q a ∧ w.Idle w') w := by
  refine wp_frame (E := rotating cfg) hp w.Idle (fun _ _ _ h => h.elim) (fun w₁ c hc h₁ => ?_) (.refl w)
  exact ⟨trivial, fun a w₂ hs => ⟨trivial, h₁.trans (hs.2.idle hc)⟩⟩

/-! ## Handlers that keep the place in the ring -/

/-- The place in the ring, the number of rotations and their timer are the same. -/
@[mk_iff sameRing_iff]
structure SameRing (s s' : StateMachine) : Prop where
  currentKey : s'.currentKey = s.currentKey
  keysChanges : s'.keysChanges = s.keysChanges
  airtagSwitch : s'.timers.airtagSwitch = s.timers.airtagSwitch

theorem SameRing.refl (s : StateMachine) : SameRing s s := ⟨rfl, rfl, rfl⟩

theorem SameRing.trans {s₁ s₂ s₃ : StateMachine} (h : SameRing s₁ s₂) (h' : SameRing s₂ s₃) : SameRing s₁ s₃ :=
  ⟨h'.1.trans h.1, h'.2.trans h.2, h'.3.trans h.3⟩

theorem broadcast_keyless {Q : StateMachine → Unit → Prop} (hQ : ∀ b, Q { s with broadcastingAnything := b } u) :
    wp keyless (broadcast s) Q u := by
  simp [broadcast, hQ]

theorem handleBatteryCheck_sameRing :
    wp keyless (handleBatteryCheck s) (fun s' _ => SameRing s s') u := by
  simp [handleBatteryCheck, updateBattery, updateStatus, sameRing_iff, broadcast_keyless]

theorem handleUvloShutdown_sameRing :
    wp keyless (handleUvloShutdown s) (fun r _ => SameRing s r.2) u := by
  simp [handleUvloShutdown, sameRing_iff]

theorem handleButtonLongpress_sameRing :
    wp keyless (handleButtonLongpress s) (fun r _ => SameRing s r.2) u := by
  simp [handleButtonLongpress, sameRing_iff, waitButtonRelease_free]

theorem tickBroadcast_sameRing : wp keyless (tickBroadcast s) (fun s' _ => SameRing s s') u := by
  simp [tickBroadcast, handleInitialBroadcast, handleAirtagFmdnAlternation, sameRing_iff, broadcast_keyless]

theorem firmwareUpload_sameRing : wp keyless (firmwareUpload s) (fun s' _ => SameRing s s') u := by
  refine wp_mono ?_ (firmwareUpload_free (by simp))
  rintro _ _ rfl
  exact ⟨rfl, rfl, rfl⟩

theorem handleSettingsModeExit_sameRing :
    wp keyless (handleSettingsModeExit s) (fun s' _ => SameRing s s') u := by
  have hleave (u : Unit) : wp keyless (leaveSettings s) (fun s' _ => SameRing s s') u := by
    simp [leaveSettings, restoreMac, ibeaconFallback, sameRing_iff]
  simp [handleSettingsModeExit, hleave, firmwareUpload_sameRing, SameRing.refl]

/-! ## A rotation -/

/-- No rotation: time has passed. -/
structure Unrotated (s : StateMachine) (w : Rotations) (s' : StateMachine) (w' : Rotations) : Prop where
  ring : SameRing s s'
  idle : w.Idle w'

/-- One rotation, at the uptime `now`. -/
structure Rotated (cfg : BeaconConfig) (s : StateMachine) (w : Rotations) (s' : StateMachine) (w' : Rotations) :
    Prop where
  currentKey : s'.currentKey = rotate s.currentKey cfg.numKeys
  keysChanges : s'.keysChanges = s.keysChanges + 1
  latest : w.latest ≤ s'.timers.airtagSwitch ∧ s'.timers.airtagSwitch ≤ w'.latest ∧
    w'.latest.toNat < 4294960096
  due : s.timers.airtagSwitch + cfg.changeInterval.toUInt32 ≤ s'.timers.airtagSwitch
  prepared : ∃ key, w'.prepared = w.prepared ++ [(key, s'.timers.airtagSwitch)] ∧
    ∀ k, cfg.keys[s'.currentKey.toNat]? = some k → key = k

def Rotates (cfg : BeaconConfig) (s : StateMachine) (w : Rotations) (s' : StateMachine) (w' : Rotations) :
    Prop := Unrotated s w s' w' ∨ Rotated cfg s w s' w'

theorem Unrotated.trans {s₁ s₂ s₃ : StateMachine} {w₁ w₂ w₃ : Rotations} (h : Unrotated s₁ w₁ s₂ w₂)
    (h' : Unrotated s₂ w₂ s₃ w₃) : Unrotated s₁ w₁ s₃ w₃ := ⟨h.ring.trans h'.ring, h.idle.trans h'.idle⟩

theorem Rotates.after {s₁ s₂ s₃ : StateMachine} {w₁ w₂ w₃ : Rotations} (h : Unrotated s₁ w₁ s₂ w₂)
    (h' : Rotates cfg s₂ w₂ s₃ w₃) : Rotates cfg s₁ w₁ s₃ w₃ := by
  rcases h' with h' | h'
  · exact .inl (h.trans h')
  · refine .inr ⟨?_, ?_, ⟨UInt32.le_trans h.idle.latest h'.latest.1, h'.latest.2⟩, ?_, ?_⟩
    · rw [h'.currentKey, h.ring.currentKey]
    · rw [h'.keysChanges, h.ring.keysChanges]
    · rw [← h.ring.airtagSwitch]
      exact h'.due
    · rw [← h.idle.prepared]
      exact h'.prepared

theorem Rotates.before {s₁ s₂ s₃ : StateMachine} {w₁ w₂ w₃ : Rotations} (h : Rotates cfg s₁ w₁ s₂ w₂)
    (h' : Unrotated s₂ w₂ s₃ w₃) : Rotates cfg s₁ w₁ s₃ w₃ := by
  rcases h with h | h
  · exact .inl (h.trans h')
  · refine .inr ⟨?_, ?_, ?_, ?_, ?_⟩
    · rw [h'.ring.currentKey, h.currentKey]
    · rw [h'.ring.keysChanges, h.keysChanges]
    · rw [h'.ring.airtagSwitch]
      exact ⟨h.latest.1, UInt32.le_trans h.latest.2.1 h'.idle.latest, h'.idle.bound h.latest.2.2⟩
    · rw [h'.ring.airtagSwitch]
      exact h.due
    · rw [h'.idle.prepared, h'.ring.airtagSwitch, h'.ring.currentKey]
      exact h.prepared

/-- The way on from the new key. -/
theorem rotated_keyless : wp keyless (do
    let s ← setMacFromCurrentKey s
    issue (.setMac s.bleAddr)
    let _ ← issue .btEnable
    let cfg ← issue .config
    issue (.setTxPower cfg.txPower.toNat)
    broadcast s) (fun s' _ => SameRing s s') u := by
  simp [setMacFromCurrentKey, sameRing_iff, broadcast_keyless]

theorem handleKeyRotation_rotates :
    wp (rotating cfg) (handleKeyRotation s) (Rotates cfg s w) w := by
  simp only [handleKeyRotation, issue, wp_bind (p := Prog.issue _), wp_issue, wp_ite, wp_pure,
    rotating_allowed, rotating_step, Steady, Rotations.Next, true_and]
  rintro now _ ⟨hle, hlt, rfl⟩ _ _ ⟨⟨on, rfl⟩, rfl⟩
  have hidle : w.Idle { w with latest := now } := ⟨hle, fun _ => hlt, rfl⟩
  refine ⟨fun _ => .inl ⟨.refl s, hidle⟩, fun _ => ⟨fun _ => .inl ⟨.refl s, hidle⟩, fun hdue => ?_⟩⟩
  rintro _ _ rfl _ _ rfl _ _ rfl key _ ⟨hkey, rfl⟩ _ _ rfl
  refine wp_mono ?_ (wp_keyless (rotated_keyless (s := { s with
    timers := { s.timers with airtagSwitch := now }, currentKey := rotate s.currentKey cfg.numKeys,
    keysChanges := s.keysChanges + 1, broadcastingAnything := false })))
  rintro s' w' ⟨hring, hw'⟩
  refine .inr ⟨hring.currentKey, hring.keysChanges, ?_, ?_, key, ?_, ?_⟩
  · rw [hring.airtagSwitch]
    exact ⟨hle, hw'.latest, hw'.bound hlt⟩
  · rw [hring.airtagSwitch]
    exact UInt32.not_lt.1 hdue
  · rw [hw'.prepared, hring.airtagSwitch]
  · rw [hring.currentKey]
    exact hkey

/-! ## A round of the main loop -/

theorem Unrotated.keep {α : Type} {p : Main α} {f : α → StateMachine} (h : Unrotated s₀ w₀ s w)
    (hp : wp keyless p (fun a _ => SameRing s (f a)) ()) :
    wp (rotating cfg) p (fun a => Unrotated s₀ w₀ (f a)) w :=
  wp_mono (fun _ _ ⟨hs, hw⟩ => h.trans ⟨hs, hw⟩) (wp_keyless hp)

theorem Rotates.keep {α : Type} {p : Main α} {f : α → StateMachine} (h : Rotates cfg s₀ w₀ s w)
    (hp : wp keyless p (fun a _ => SameRing s (f a)) ()) :
    wp (rotating cfg) p (fun a => Rotates cfg s₀ w₀ (f a)) w :=
  wp_mono (fun _ _ ⟨hs, hw⟩ => h.before ⟨hs, hw⟩) (wp_keyless hp)

theorem rotation_rule : TickRule (rotating cfg) (Unrotated s₀ w₀) (Rotates cfg s₀ w₀) where
  weaken h := .inl h
  sync h := h.keep (f := id) (by simp [syncGattState, sameRing_iff])
  sleep h := h.keep (f := id) (by simp [tickSleep, sameRing_iff])
  exit h _ := Rotates.keep (f := id) (.inl h) handleSettingsModeExit_sameRing
  timeSave h _ := h.keep (f := id) (by simp [handleTimeSave, sameRing_iff])
  batteryCheck h _ := h.keep (f := id) handleBatteryCheck_sameRing
  uvlo h _ := h.keep handleUvloShutdown_sameRing
  nokeys h _ := h.keep (by simp [handleNokeysShutdown, sameRing_iff])
  uptime h _ := h.keep (f := fun _ => _) (by simp [SameRing.refl])
  entry h _ := Rotates.keep (f := id) (.inl h) (by simp [handleSettingsModeEntry, useSettingsMac, sameRing_iff])
  burst h _ := h.keep (f := id) (by simp [handleMaxPowerBurst, sameRing_iff])
  rotation h _ := wp_mono (fun _ _ h' => .after h h') handleKeyRotation_rotates
  button h _ := h.keep handleButtonLongpress_sameRing
  accelerometer h _ := h.keep (f := id) (by simp [handleAccelerometer, sameRing_iff])
  broadcast h _ := h.keep (f := id) tickBroadcast_sameRing

theorem mainLoop_rotates (hs : s.state ≠ .initializing) :
    wp (rotating cfg) (mainLoop s) (Rotates cfg s w) w :=
  rotation_rule.mainLoop ⟨.refl s, .refl w⟩ hs

/-- A machine that is turned off before it starts has not left its initial state otherwise. -/
structure AtFirstKey (s : StateMachine) : Prop where
  started : s.state ≠ .initializing
  currentKey : s.currentKey = 0
  keysChanges : s.keysChanges = 0
  airtagSwitch : s.timers.airtagSwitch = 0

theorem initializeMachine_firstKey :
    wp (calls (.any True True)) (initializeMachine {}) (fun s' _ => AtFirstKey s') u := by
  have hstart (u : Unit) : wp (calls (.any True True)) (startUp {}) (fun s' _ => AtFirstKey s') u := by
    refine wp_mono ?_ (startUp_started Policy.any_sound trivial trivial)
    rintro _ _ ⟨addr, v, rfl⟩
    exact ⟨by nofun, rfl, rfl, rfl⟩
  have hr : (Policy.any True True).radio := trivial
  have hsleep (ms : UInt32) : (Policy.any True True).sleep ms := trivial
  have hoff : AtFirstKey { state := .shuttingDown } := ⟨by nofun, rfl, rfl, rfl⟩
  simp [initializeMachine, hstart, hr, hsleep, hoff]

/-! ## Runs -/

/-- The index after `key`, as a number. -/
theorem rotate_toNat {key n : UInt8} (h : key < n) : (rotate key n).toNat = (key.toNat + 1) % n.toNat := by
  have hlt : key.toNat < n.toNat := UInt8.lt_iff_toNat_lt.1 h
  have hn : n.toNat < 256 := n.toNat_lt
  have hsucc : (key + 1).toNat = key.toNat + 1 := by
    rw [UInt8.toNat_add]
    exact Nat.mod_eq_of_lt (by simp; omega)
  unfold rotate
  by_cases hone : n > 1
  · rw [if_pos hone]
    by_cases hlast : key + 1 ≥ n
    · have : n.toNat ≤ (key + 1).toNat := UInt8.le_iff_toNat_le.1 hlast
      have heq : key.toNat + 1 = n.toNat := by omega
      rw [if_pos hlast, heq, Nat.mod_self]
      rfl
    · have : (key + 1).toNat < n.toNat := UInt8.lt_iff_toNat_lt.1 (UInt8.not_le.1 hlast)
      rw [if_neg hlast, hsucc, Nat.mod_eq_of_lt (by omega)]
  · have : n.toNat ≤ 1 := UInt8.le_iff_toNat_le.1 (UInt8.not_lt.1 hone)
    have hn1 : n.toNat = 1 := by omega
    rw [if_neg hone, hn1, Nat.mod_one]
    rfl

/-- States at the ends of rounds, with the number of rotations and the keys prepared since the start.
A round counts as a rotation if `keys_changes_` differs after it. -/
inductive RotationRun (cfg : BeaconConfig) : StateMachine → Nat → Rotations → Prop
  | start {s : StateMachine} {w : Rotations} :
      Reaches (rotating cfg) (initializeMachine {}, {}) (.ret s, w) →
      RotationRun cfg s 0 { w with prepared := [] }
  | round {s s' : StateMachine} {k : Nat} {w w' : Rotations} : RotationRun cfg s k w →
      Reaches (rotating cfg) (mainLoop s, w) (.ret s', w') →
      RotationRun cfg s' (if s'.keysChanges = s.keysChanges then k else k + 1) w'

/-- After `k` rotations. -/
structure Schedule (cfg : BeaconConfig) (s : StateMachine) (k : Nat) (w : Rotations) : Prop where
  started : s.state ≠ .initializing
  currentKey : s.currentKey.toNat = k % cfg.numKeys.toNat
  keysChanges : s.keysChanges.toNat = k % 65536
  latest : s.timers.airtagSwitch ≤ w.latest ∧ w.latest.toNat < 4294960096
  count : w.prepared.length = k
  keys : ∀ j x, w.prepared[j]? = some x → cfg.keys[(j + 1) % cfg.numKeys.toNat]? = some x.1
  first : ∀ x ∈ w.prepared, cfg.changeInterval.toNat ≤ x.2.toNat ∧ x.2 ≤ s.timers.airtagSwitch
  apart : w.prepared.Pairwise fun x y => x.2.toNat + cfg.changeInterval.toNat ≤ y.2.toNat

theorem Schedule.unrotated {k : Nat} (h : Schedule cfg s k w) (hs : s'.state ≠ .initializing)
    (hu : Unrotated s w s' w') : Schedule cfg s' k w' := by
  obtain ⟨⟨hcurrent, hchanges, hswitch⟩, hle, hbound, hprepared⟩ := hu
  refine ⟨hs, hcurrent ▸ h.currentKey, hchanges ▸ h.keysChanges, ?_, ?_, ?_, ?_, ?_⟩
  · rw [hswitch]
    exact ⟨UInt32.le_trans h.latest.1 hle, hbound h.latest.2⟩
  · rw [hprepared]
    exact h.count
  · rw [hprepared]
    exact h.keys
  · rw [hprepared, hswitch]
    exact h.first
  · rw [hprepared]
    exact h.apart

/-- In whole numbers: the sum in `due` does not wrap around. -/
theorem Schedule.due {k : Nat} (hv : cfg.Valid) (h : Schedule cfg s k w) (hr : Rotated cfg s w s' w') :
    s.timers.airtagSwitch.toNat + cfg.changeInterval.toNat ≤ s'.timers.airtagSwitch.toNat := by
  have hdue := UInt32.le_iff_toNat_le.1 hr.due
  have hle := UInt32.le_iff_toNat_le.1 h.latest.1
  have hc : cfg.changeInterval.toNat ≤ 7200 := UInt16.le_iff_toNat_le.1 hv.changeInterval.2.2
  have hbound := h.latest.2
  rw [UInt32.toNat_add, UInt16.toNat_toUInt32, Nat.mod_eq_of_lt (by omega)] at hdue
  exact hdue

theorem Schedule.next_key {k : Nat} (hn : 0 < cfg.numKeys) (h : Schedule cfg s k w) (hr : Rotated cfg s w s' w') :
    s'.currentKey.toNat = (k + 1) % cfg.numKeys.toNat := by
  have hlt : s.currentKey < cfg.numKeys := by
    rw [UInt8.lt_iff_toNat_lt, h.currentKey]
    exact Nat.mod_lt _ (UInt8.lt_iff_toNat_lt.1 hn)
  rw [hr.currentKey, rotate_toNat hlt, h.currentKey, Nat.mod_add_mod]

/-- The keys before, and the one that the rotation has prepared. -/
theorem Schedule.keys_next {k : Nat} (hv : cfg.Valid) (hn : 0 < cfg.numKeys) (h : Schedule cfg s k w)
    (hr : Rotated cfg s w s' w') (j : Nat) (x : Key × UInt32) (hx : w'.prepared[j]? = some x) :
    cfg.keys[(j + 1) % cfg.numKeys.toNat]? = some x.1 := by
  obtain ⟨key, hprepared, hkey⟩ := hr.prepared
  have hcount := h.count
  rw [hprepared] at hx
  by_cases hj : j < w.prepared.length
  · rw [List.getElem?_append_left hj] at hx
    exact h.keys j x hx
  · have hjk : j = w.prepared.length := by
      have hlen := (List.getElem?_eq_some_iff.1 hx).1
      rw [List.length_append, List.length_singleton] at hlen
      omega
    subst hjk
    rw [List.getElem?_concat_length] at hx
    cases hx
    have hlt : (w.prepared.length + 1) % cfg.numKeys.toNat < 40 :=
      Nat.lt_of_lt_of_le (Nat.mod_lt _ (UInt8.lt_iff_toNat_lt.1 hn)) hv.numKeys
    rw [Vector.getElem?_eq_getElem hlt, hkey _ (by rw [h.next_key hn hr, ← hcount, Vector.getElem?_eq_getElem hlt])]

theorem Schedule.rotated {k : Nat} (hv : cfg.Valid) (hn : 0 < cfg.numKeys) (h : Schedule cfg s k w)
    (hs : s'.state ≠ .initializing) (hr : Rotated cfg s w s' w') : Schedule cfg s' (k + 1) w' := by
  obtain ⟨hlo, hhi, hbound⟩ := hr.latest
  have hkeys := h.keys_next hv hn hr
  obtain ⟨key, hprepared, -⟩ := hr.prepared
  have hdue := h.due hv hr
  have hold : ∀ x ∈ w.prepared, x.2.toNat + cfg.changeInterval.toNat ≤ s'.timers.airtagSwitch.toNat := by
    intro x hx
    have := UInt32.le_iff_toNat_le.1 (h.first x hx).2
    omega
  refine ⟨hs, h.next_key hn hr, ?_, ⟨hhi, hbound⟩, ?_, hkeys, ?_, ?_⟩
  · rw [hr.keysChanges, UInt16.toNat_add, h.keysChanges]
    simp only [UInt16.toNat_one, Nat.mod_add_mod]
  · rw [hprepared, List.length_append, h.count, List.length_singleton]
  · intro x hx
    rw [hprepared, List.mem_append, List.mem_singleton] at hx
    rcases hx with hx | rfl
    · have := hold x hx
      exact ⟨(h.first x hx).1, UInt32.le_iff_toNat_le.2 (by omega)⟩
    · exact ⟨by simp only; omega, UInt32.le_refl _⟩
  · rw [hprepared, List.pairwise_append]
    refine ⟨h.apart, List.pairwise_singleton _ _, fun x hx y hy => ?_⟩
    rw [List.mem_singleton] at hy
    subst hy
    exact hold x hx

/-- The uptimes of a run stay clear of the end of their range. -/
theorem wp_bounded {α : Type} {p : Main α} (hw : w.latest.toNat < 4294960096) :
    wp (rotating cfg) p (fun _ w' => w'.latest.toNat < 4294960096) w :=
  wp_invariant (E := rotating cfg) (fun w => w.latest.toNat < 4294960096) (fun _ _ _ h => h.elim)
    (fun _ _ hw => ⟨trivial, fun _ _ hs => Rotations.Next.bound hs.2 hw⟩) p hw

theorem initializeMachine_scheduled : wp (rotating cfg) (initializeMachine {})
    (fun s w => Schedule cfg s 0 { w with prepared := [] }) {} := by
  refine wp_mono ?_ (wp_mode (wp_bounded (by decide)) initializeMachine_firstKey)
  rintro s w ⟨hbound, hs⟩
  refine ⟨hs.started, ?_, ?_, ?_, rfl, by simp, by simp, List.Pairwise.nil⟩
  · rw [hs.currentKey, Nat.zero_mod]
    rfl
  · rw [hs.keysChanges]
    rfl
  · rw [hs.airtagSwitch]
    exact ⟨UInt32.zero_le, hbound⟩

theorem RotationRun.schedule (hv : cfg.Valid) (hn : 0 < cfg.numKeys) {k : Nat} (h : RotationRun cfg s k w) :
    Schedule cfg s k w := by
  induction h with
  | start hr =>
    exact wp_value (Q := fun s w => Schedule cfg s 0 { w with prepared := [] })
      (wp_reaches initializeMachine_scheduled hr)
  | @round s s' k w w' _ hr ih =>
    obtain ⟨hrot, hs⟩ := wp_value (wp_reaches (wp_mode (mainLoop_rotates ih.started) (mainLoop_started ih.started)) hr)
    rcases hrot with hrot | hrot
    · rw [if_pos hrot.ring.keysChanges]
      exact ih.unrotated hs hrot
    · have hne : ¬ s'.keysChanges = s.keysChanges := by
        rw [hrot.keysChanges]
        grind
      rw [if_neg hne]
      exact ih.rotated hv hn hs hrot

end

/-- The schedule of the key rotation, for any valid configuration with keys.  After `k` rotations the index
is `k` modulo the number of keys and the counter is `k` modulo 65536; each rotation has prepared one key, the
next of the ring, and nothing else has prepared any; the first rotation is not before the uptime
`change_interval`, and any two are at least that far apart. -/
theorem rotation_schedule (cfg : BeaconConfig) (hv : cfg.Valid) (hn : 0 < cfg.numKeys) {s : StateMachine}
    {k : Nat} {w : Rotations} (h : RotationRun cfg s k w) :
    s.currentKey.toNat = k % cfg.numKeys.toNat ∧ s.keysChanges.toNat = k % 65536 ∧
    s.currentKey < cfg.numKeys ∧ w.prepared.length = k ∧
    (∀ j x, w.prepared[j]? = some x → cfg.keys[(j + 1) % cfg.numKeys.toNat]? = some x.1) ∧
    (∀ x ∈ w.prepared, cfg.changeInterval.toNat ≤ x.2.toNat) ∧
    w.prepared.Pairwise fun x y => x.2.toNat + cfg.changeInterval.toNat ≤ y.2.toNat := by
  have hs := h.schedule hv hn
  refine ⟨hs.currentKey, hs.keysChanges, ?_, hs.count, hs.keys, fun x hx => (hs.first x hx).1, hs.apart⟩
  rw [UInt8.lt_iff_toNat_lt, hs.currentKey]
  exact Nat.mod_lt _ (UInt8.lt_iff_toNat_lt.1 hn)

/-- A device at rest, at the uptime `now`. -/
def Rotations.serve (cfg : BeaconConfig) (now : UInt32) (w : Rotations) (c : Call) :
    Option (c.Ans × Rotations) :=
  if w.latest ≤ now then
    some (answers cfg now 3000 c,
      match c with
      | .uptimeSeconds => { w with latest := now }
      | .prepareAirtag key => { w with prepared := w.prepared ++ [(key, w.latest)] }
      | _ => w)
  else none

theorem rotating_step_serve {cfg : BeaconConfig} {now : UInt32} (hnow : now.toNat < 4294960096) (w : Rotations)
    (c : Call) (x : c.Ans × Rotations) (hx : w.serve cfg now c = some x) :
    (rotating cfg).step w c x.1 x.2 := by
  unfold Rotations.serve at hx
  by_cases hle : w.latest ≤ now
  · rw [if_pos hle] at hx
    cases hx
    refine ⟨steady_answers cfg now 3000 c, ?_⟩
    cases c with
    | uptimeSeconds => exact ⟨hle, hnow, rfl⟩
    | _ => rfl
  · rw [if_neg hle] at hx
    cases hx

/-- Two keys that change every 32 seconds, 40 seconds after the start. -/
theorem rotation_schedule_once :
    ∃ s w, RotationRun { flagAirtag := true, numKeys := 2, changeInterval := 32, turnedOn := true } s 1 w ∧
      s.currentKey.toNat = 1 ∧ w.prepared.length = 1 := by
  let cfg : BeaconConfig := { flagAirtag := true, numKeys := 2, changeInterval := 32, turnedOn := true }
  have hv : cfg.Valid := { BeaconConfig.valid_default with changeInterval := by decide, numKeys := by decide }
  obtain ⟨⟨s, w⟩, hstart, ⟨s', w'⟩, hround, hne⟩ :
      ∃ x ∈ (initializeMachine {}).play (Rotations.serve cfg 0) {},
      ∃ y ∈ (mainLoop x.1).play (Rotations.serve cfg 40) { x.2 with prepared := [] },
        ¬ y.1.keysChanges = x.1.keysChanges := by decide
  have hrun := (RotationRun.start (reaches_of_play (rotating_step_serve (by decide)) hstart)).round
    (reaches_of_play (rotating_step_serve (by decide)) hround)
  rw [if_neg hne] at hrun
  obtain ⟨hcurrent, -, -, hcount, -⟩ := rotation_schedule cfg hv (by decide) hrun
  exact ⟨s', w', hrun, hcurrent, hcount⟩

end Everytag
