import Everytag.Tick
import Everytag.Battery

/-!
# The charge lock

A tick that sees the charger sets `charge_lock_counter_` to an hour, and every tick takes `mult_period`
off.  The world `locked` adds up what a tick sleeps and notes what `handle_uvlo_shutdown` was told.  A
broadcasting tick sleeps for at least what it takes off; a tick in settings mode sleeps for one second and
the waits for a client, whatever the multiplier is (`mainLoop_locked`).
-/

namespace Everytag

open Interaction StateMachine

/-- What a tick finds: the period multiplier, the flags of the GATT side, and the uptime when it has slept. -/
structure LockTick where
  mult : UInt8
  flags : GattFlags := ⟨false, false, false, false⟩
  now : UInt32
deriving DecidableEq, Repr

/-- Ghost state of a tick. -/
structure LockLog where
  /-- reads of the uptime since the tick began; the under-voltage check comes after two of them -/
  asked : Nat := 0
  /-- `handle_uvlo_shutdown` saw the charger -/
  charged : Bool := false
  /-- milliseconds -/
  slept : Nat := 0
deriving DecidableEq, Repr

@[simp] def LockLog.Next (i : LockTick) (w : LockLog) : (c : Call) → c.Ans → LockLog → Prop
  | .uptimeSeconds, now, w' => (w.asked = 0 → now = i.now) ∧ w' = { w with asked := w.asked + 1 }
  | .isCharging, charging, w' => w' = { w with charged := w.charged || (w.asked == 2 && charging) }
  | .sleepMs ms, _, w' => w' = { w with slept := w.slept + ms.toNat }
  | .config, cfg, w' => (w.asked = 0 → cfg.multPeriod = i.mult) ∧ w' = w
  | .glueSyncGattState, f, w' => f = i.flags ∧ w' = w
  | _, _, w' => w' = w

/-- A tick that finds `i`; from the first uptime on, the configuration may be any. -/
def locked (i : LockTick) : World Call Call.Ans LockLog where
  allowed _ _ := True
  step w c a w' := w.Next i c a w'
  move _ _ := False

/-- Programs that do not ask for the charger. -/
abbrev uncharged : World Call Call.Ans Unit := free (· ≠ .isCharging) fun _ _ => True

/-- Programs that do not ask for the charger and do not sleep. -/
abbrev sleepless : World Call Call.Ans Unit :=
  free (fun c => c ≠ .isCharging ∧ ∀ ms, c ≠ .sleepMs ms) fun _ _ => True

section

variable {i : LockTick} {s s' s₀ : StateMachine} {w w' : LockLog} {u : Unit}

instance : (locked i).Sequential := ⟨fun _ _ h => h⟩

@[simp] theorem locked_allowed (c : Call) : (locked i).allowed w c ↔ True := Iff.rfl

@[simp] theorem locked_step (c : Call) (a : c.Ans) : (locked i).step w c a w' ↔ w.Next i c a w' := Iff.rfl

theorem wp_uncharged {α : Type} {p : Main α} {Q : α → Prop} (hp : wp uncharged p (fun a _ => Q a) ()) :
    wp (locked i) p (fun a w' => Q a ∧ w'.charged = w.charged ∧ w.slept ≤ w'.slept) w := by
  refine wp_frame (E := locked i) hp (fun w' => w'.charged = w.charged ∧ w.slept ≤ w'.slept)
    (fun _ _ _ h => h.elim) (fun w₁ c hc h₁ => ⟨trivial, fun a w₂ hs => ⟨trivial, ?_⟩⟩) ⟨rfl, le_refl _⟩
  cases c with
  | isCharging => exact absurd rfl hc
  | sleepMs ms =>
    cases hs
    exact ⟨h₁.1, h₁.2.trans (Nat.le_add_right _ _)⟩
  | uptimeSeconds | config | glueSyncGattState =>
    obtain ⟨-, rfl⟩ := hs
    exact h₁
  | _ =>
    cases hs
    exact h₁

theorem wp_sleepless {α : Type} {p : Main α} {Q : α → Prop} (hp : wp sleepless p (fun a _ => Q a) ()) :
    wp (locked i) p (fun a w' => Q a ∧ w'.charged = w.charged ∧ w'.slept = w.slept) w := by
  refine wp_frame (E := locked i) hp (fun w' => w'.charged = w.charged ∧ w'.slept = w.slept)
    (fun _ _ _ h => h.elim) (fun w₁ c hc h₁ => ⟨trivial, fun a w₂ hs => ⟨trivial, ?_⟩⟩) ⟨rfl, rfl⟩
  cases c with
  | isCharging => exact absurd rfl hc.1
  | sleepMs ms => exact absurd rfl (hc.2 ms)
  | uptimeSeconds | config | glueSyncGattState =>
    obtain ⟨-, rfl⟩ := hs
    exact h₁
  | _ =>
    cases hs
    exact h₁

/-! ## Handlers that keep the lock -/

/-- The lock and the counter of the under-voltage check are the same. -/
@[mk_iff sameCharge_iff]
structure SameCharge (s s' : StateMachine) : Prop where
  chargeLockCounter : s'.chargeLockCounter = s.chargeLockCounter
  badPower : s'.badPower = s.badPower

theorem SameCharge.refl (s : StateMachine) : SameCharge s s := ⟨rfl, rfl⟩

theorem broadcast_uncharged {Q : StateMachine → Unit → Prop} (hQ : ∀ b, Q { s with broadcastingAnything := b } u) :
    wp uncharged (broadcast s) Q u := by
  simp [broadcast, hQ]

/-- From the settings timer on, a broadcasting tick has nothing to do with the charger. -/
theorem duties_sameCharge : DutiesRule uncharged (fun s _ => SameCharge s₀ s) (fun s _ => SameCharge s₀ s) where
  uptime h _ := by simp [h]
  entry h _ := by simp [handleSettingsModeEntry, useSettingsMac, sameCharge_iff, h.1, h.2]
  burst h _ := by simp [handleMaxPowerBurst, sameCharge_iff, h.1, h.2]
  rotation h _ := by
    simp [handleKeyRotation, setMacFromCurrentKey, broadcast_uncharged, sameCharge_iff, h.1, h.2]
  button h _ := by
    simp [handleButtonLongpress, waitButtonRelease_free, sameCharge_iff, h.1, h.2]
  accelerometer h _ := by simp [handleAccelerometer, sameCharge_iff, h.1, h.2]
  broadcast h _ := by
    simp [tickBroadcast, handleInitialBroadcast, handleAirtagFmdnAlternation, broadcast_uncharged,
      sameCharge_iff, h.1, h.2]

theorem tickDuties_locked (hs : Broadcasting s) : wp (locked i) (tickDuties s)
    (fun s' w' => SameCharge s s' ∧ w'.charged = w.charged ∧ w.slept ≤ w'.slept) w :=
  wp_uncharged (duties_sameCharge.tickDuties (SameCharge.refl s) hs)

/-! ## The sleep of a tick -/

/-- The charge lock after the `mult_period` of a tick. -/
def lockAfter (s : StateMachine) (mult : UInt8) : Int :=
  if 0 < s.chargeLockCounter then s.chargeLockCounter - mult.toNat else s.chargeLockCounter

theorem tickSleep_locked (hw : w.asked = 0) : wp (locked i) (tickSleep s) (fun s' w' =>
    s'.chargeLockCounter = lockAfter s i.mult ∧
    w' = { w with slept := w.slept + if s.broadcastingSettings then 1000 else 1000 * i.mult.toNat }) w := by
  have hlen : (1000 * i.mult.toUInt32).toNat = 1000 * i.mult.toNat := by
    have := i.mult.toNat_lt
    simp only [UInt32.toNat_mul, UInt8.toNat_toUInt32, UInt32.toNat_ofNat]
    omega
  by_cases hpos : 0 < s.chargeLockCounter
  · simp +contextual [tickSleep, lockAfter, hpos, hlen, hw]
  · simp +contextual [tickSleep, lockAfter, hpos, hlen, hw]

/-! ## A tick in settings mode -/

/-- The seconds that a settings-mode tick begun in `s` waits for a client. -/
def clientWaits (s : StateMachine) (i : LockTick) : Nat :=
  if i.now < s.timers.endSettings then 0
  else (if i.flags.connected || i.flags.authorized then 2 else 0) + (if i.flags.authorized then 4 else 0) +
    (if i.flags.pauseUpload then 60 else 0)

theorem uploadWait_locked (n : Nat) : wp (locked i) (uploadWait n)
    (fun _ w' => w'.charged = w.charged ∧ w'.slept = w.slept + 4000 * n) w := by
  induction n generalizing w with
  | zero => simp [uploadWait]
  | succ n ih =>
    simp only [uploadWait, issue, wp_bind, wp_issue, locked_allowed, locked_step, LockLog.Next, true_and]
    rintro _ _ rfl _ _ rfl _ _ rfl
    refine wp_mono (fun _ w' h => ⟨h.1, ?_⟩) ih
    rw [h.2]
    show w.slept + 4000 + 4000 * n = w.slept + 4000 * (n + 1)
    omega

theorem firmwareUpload_locked : wp (locked i) (firmwareUpload s)
    (fun s' w' => SameCharge s s' ∧ w'.charged = w.charged ∧ w'.slept = w.slept + 60000) w := by
  simp only [firmwareUpload, issue, wp_bind, wp_issue, locked_allowed, locked_step, LockLog.Next, true_and]
  rintro _ _ rfl _ _ rfl _ _ rfl _ _ rfl
  refine wp_mono (fun _ w' h => ?_) (uploadWait_locked 15)
  simpa [sameCharge_iff] using h

theorem leaveSettings_locked : wp (locked i) (leaveSettings s)
    (fun s' w' => SameCharge s s' ∧ w'.charged = w.charged ∧ w'.slept = w.slept) w :=
  wp_sleepless (by simp [leaveSettings, restoreMac, ibeaconFallback, sameCharge_iff])

/-- The decision after the waits. -/
theorem decide_locked : wp (locked i) (if s.pauseUpload then firmwareUpload s else leaveSettings s)
    (fun s' w' => SameCharge s s' ∧ w'.charged = w.charged ∧
      w'.slept = w.slept + 1000 * if s.pauseUpload then 60 else 0) w := by
  rw [wp_ite]
  refine ⟨fun h => ?_, fun h => ?_⟩
  · simp only [if_pos h]
    exact firmwareUpload_locked
  · simp only [if_neg h]
    exact leaveSettings_locked

/-- The wait for a client that has authenticated, and the decision. -/
theorem authWait_locked : wp (locked i)
    (if s.authorizedGatt then do
      issue (.sleepMs 4000)
      issue .wdtFeed
      if s.pauseUpload then firmwareUpload s else leaveSettings s
    else if s.pauseUpload then firmwareUpload s else leaveSettings s)
    (fun s' w' => SameCharge s s' ∧ w'.charged = w.charged ∧
      w'.slept = w.slept + 1000 * ((if s.authorizedGatt then 4 else 0) + if s.pauseUpload then 60 else 0)) w := by
  rw [wp_ite]
  refine ⟨fun h => ?_, fun h => ?_⟩
  · simp only [if_pos h]
    refine wp_call _ trivial fun _ w₁ hw₁ => wp_call _ trivial fun _ w₂ hw₂ => ?_
    cases hw₁
    cases hw₂
    refine wp_mono (fun s' w' hw' => ⟨hw'.1, hw'.2.1, hw'.2.2.trans ?_⟩) decide_locked
    show w.slept + 4000 + _ = _
    omega
  · simp only [if_neg h, Nat.zero_add]
    exact decide_locked

theorem handleSettingsModeExit_locked (hw : w.asked = 0) (hconn : s.connectedGatt = i.flags.connected)
    (hauth : s.authorizedGatt = i.flags.authorized) (hpause : s.pauseUpload = i.flags.pauseUpload) :
    wp (locked i) (handleSettingsModeExit s) (fun s' w' =>
      SameCharge s s' ∧ w'.charged = w.charged ∧ w'.slept = w.slept + 1000 * clientWaits s i) w := by
  refine wp_call _ trivial ?_
  rintro now w₁ ⟨hnow, rfl⟩
  replace hnow := hnow hw
  subst hnow
  by_cases hlt : i.now < s.timers.endSettings
  · rw [if_pos hlt, wp_pure, clientWaits, if_pos hlt]
    exact ⟨.refl s, rfl, rfl⟩
  rw [if_neg hlt, clientWaits, if_neg hlt, ← hconn, ← hauth, ← hpause]
  by_cases hclient : (s.connectedGatt || s.authorizedGatt) = true
  · rw [if_pos hclient, if_pos hclient]
    refine wp_call _ trivial fun _ w₁ hw₁ => wp_call _ trivial fun _ w₂ hw₂ => ?_
    cases hw₁
    cases hw₂
    refine wp_mono (fun s' w' hw' => ⟨hw'.1, hw'.2.1, hw'.2.2.trans ?_⟩) authWait_locked
    show w.slept + 2000 + _ = _
    omega
  · rw [if_neg hclient, if_neg hclient, Nat.zero_add]
    exact authWait_locked (w := { w with asked := w.asked + 1 })

/-! ## The account -/

/-- In settings mode, with the lock running, a tick takes off no more seconds than it sleeps. -/
def Afforded (s : StateMachine) (i : LockTick) : Prop :=
  ¬ (s.state = .shuttingDown ∨ s.state = .firmwareUpload) → s.broadcastingSettings = true →
    0 < s.chargeLockCounter → i.mult.toNat ≤ 1 + clientWaits s i

instance (s : StateMachine) (i : LockTick) : Decidable (Afforded s i) := inferInstanceAs (Decidable (_ → _))

/-- Milliseconds slept since the last tick that saw the charger. -/
def sinceCharged (e : Option Nat) (w : LockLog) : Option Nat :=
  if w.charged then some 0 else e.map (· + w.slept)

/-- What a tick keeps: the lock lasts for what is left of the hour, and only a machine that shuts down, its
lock run out, has counted past the threshold. -/
structure LockKept (s : StateMachine) (e : Option Nat) : Prop where
  lasts : ∀ n ∈ e, 3600000 ≤ 1000 * s.chargeLockCounter + n
  started : s.state ≠ .initializing
  counted : kUvloBadPowerThreshold < s.badPower → s.state = .shuttingDown ∧ s.chargeLockCounter ≤ 0

variable {e : Option Nat}

theorem mem_sinceCharged {n : Nat} (hw : w.charged = false) :
    n ∈ sinceCharged e w ↔ ∃ m ∈ e, m + w.slept = n := by
  simp [sinceCharged, hw]

/-- More sleep costs nothing. -/
theorem lasts_sinceCharged (h : ∀ n ∈ sinceCharged e w, 3600000 ≤ 1000 * s.chargeLockCounter + n)
    (hs : s'.chargeLockCounter = s.chargeLockCounter) (hc : w'.charged = w.charged) (hw : w.slept ≤ w'.slept) :
    ∀ n ∈ sinceCharged e w', 3600000 ≤ 1000 * s'.chargeLockCounter + n := by
  intro n hn
  rw [hs]
  cases hch : w.charged with
  | true =>
    simp only [sinceCharged, hc, hch, if_true] at h hn
    exact h n hn
  | false =>
    obtain ⟨m, hm, rfl⟩ := (mem_sinceCharged (hc.trans hch)).1 hn
    have := h (m + w.slept) ((mem_sinceCharged hch).2 ⟨m, hm, rfl⟩)
    push_cast at this ⊢
    omega

theorem LockKept.same (h : LockKept s (sinceCharged e w)) (hs : SameCharge s s') (hrun : s.state ≠ .shuttingDown)
    (hstart : s'.state ≠ .initializing) (hc : w'.charged = w.charged) (hw : w.slept ≤ w'.slept) :
    LockKept s' (sinceCharged e w') where
  lasts := lasts_sinceCharged h.lasts hs.1 hc hw
  started := hstart
  counted hbad := absurd (h.counted (hs.2 ▸ hbad)).1 hrun

/-! ## A broadcasting tick -/

theorem handleTimeSave_locked : wp (locked i) (handleTimeSave s) (fun s' w' =>
    SameCharge s s' ∧ w'.asked = w.asked + 1 ∧ w'.charged = w.charged ∧ w'.slept = w.slept) w := by
  simp [handleTimeSave, sameCharge_iff]

theorem handleBatteryCheck_locked (hw : w.asked = 1) : wp (locked i) (handleBatteryCheck s) (fun s' w' =>
    SameCharge s s' ∧ w'.asked = 2 ∧ w'.charged = w.charged ∧ w'.slept = w.slept) w := by
  simp [handleBatteryCheck, updateBattery, updateStatus, broadcast, sameCharge_iff, hw]

/-- What the under-voltage check does to the lock, and to a machine whose counter it takes past the threshold. -/
@[mk_iff uvloChecked_iff]
structure UvloChecked (s : StateMachine) (w : LockLog) (s' : StateMachine) (w' : LockLog) : Prop where
  asked : w'.asked = 2
  slept : w'.slept = w.slept
  lock : w'.charged = w.charged ∧ s'.chargeLockCounter = s.chargeLockCounter ∨
    w'.charged = true ∧ s'.chargeLockCounter = kChargeLockDuration
  counted : kUvloBadPowerThreshold < s'.badPower → s'.state = .shuttingDown ∧ s'.chargeLockCounter ≤ 0

theorem handleUvloShutdown_locked (hw : w.asked = 2) :
    wp (locked i) (handleUvloShutdown s) (fun r w' => UvloChecked s w r.2 w') w := by
  have hpast {n : UInt8} {p : Prop} (hle : n ≤ kUvloBadPowerThreshold) (hlt : kUvloBadPowerThreshold < n) : p :=
    absurd hlt (UInt8.not_lt.2 hle)
  simpa [handleUvloShutdown, hw, uvloChecked_iff] using fun _ =>
    ⟨fun hc => ⟨fun _ => hc, hpast⟩, fun hc => absurd hc (by decide)⟩

theorem handleNokeysShutdown_locked (hw : w.asked = 2) : wp (locked i) (handleNokeysShutdown s)
    (fun r w' => SameCharge s r.2 ∧ w'.charged = w.charged ∧ w'.slept = w.slept) w := by
  simp [handleNokeysShutdown, sameCharge_iff, hw]

theorem UvloChecked.kept {r : Bool × StateMachine} (h : LockKept s (sinceCharged e w)) (hj : UvloChecked s w r.2 w')
    (hstart : r.2.state ≠ .initializing) : LockKept r.2 (sinceCharged e w') where
  started := hstart
  counted := hj.counted
  lasts := by
    rcases hj.lock with ⟨hc, hl⟩ | ⟨hc, hl⟩
    · exact lasts_sinceCharged h.lasts hl hc hj.slept.ge
    · intro n hn
      rw [sinceCharged, if_pos hc] at hn
      cases hn
      rw [hl]
      decide

theorem tickBroadcasting_locked (h : LockKept s (sinceCharged e w)) (hs : Broadcasting s) (hw : w.asked = 0) :
    wp (locked i) (tickBroadcasting s) (fun s' w' => LockKept s' (sinceCharged e w')) w := by
  have hrun {s' : StateMachine} (hs' : Broadcasting s') : s'.state ≠ .shuttingDown ∧ s'.state ≠ .initializing := by
    rw [hs'.state]
    exact ⟨by nofun, by nofun⟩
  refine wp_seq (wp_mode (handleTimeSave_locked) handleTimeSave_calls) ?_
  rintro s₁ w₁ ⟨⟨hc₁, ha₁, hch₁, hsl₁⟩, t, -, hs₁⟩
  have hb₁ : Broadcasting s₁ := hs.same (by rw [hs₁]) (by rw [hs₁])
  replace h := h.same hc₁ (hrun hs).1 (hrun hb₁).2 hch₁ hsl₁.ge
  refine wp_seq (wp_mode (handleBatteryCheck_locked (by rw [ha₁, hw])) (handleBatteryCheck_calls trivial trivial)) ?_
  rintro s₂ w₂ ⟨⟨hc₂, ha₂, hch₂, hsl₂⟩, hstate, hsettings⟩
  have hb₂ : Broadcasting s₂ := hb₁.same hstate hsettings
  replace h := h.same hc₂ (hrun hb₁).1 (hrun hb₂).2 hch₂ hsl₂.ge
  refine wp_seq (wp_mode (handleUvloShutdown_locked ha₂) (handleUvloShutdown_calls trivial trivial)) ?_
  rintro r w₃ ⟨hj, n, b, hr⟩
  rcases hr with rfl | rfl
  · have hb₃ : Broadcasting { s₂ with chargeLockCounter := n, badPower := b } := hb₂.same rfl rfl
    replace h := hj.kept (r := (false, _)) h (hrun hb₃).2
    refine wp_seq (wp_mode (handleNokeysShutdown_locked hj.asked) handleNokeysShutdown_calls) ?_
    rintro r w₄ ⟨⟨hc₄, hch₄, hsl₄⟩, hr⟩
    rcases hr with rfl | rfl
    · replace h := h.same hc₄ (hrun hb₃).1 (hrun hb₃).2 hch₄ hsl₄.ge
      refine wp_mono ?_ (wp_mode (tickDuties_locked hb₃) (tickDuties_calls Policy.any_sound trivial trivial))
      rintro s₅ w₅ ⟨⟨hc₅, hch₅, hsl₅⟩, hsame⟩
      exact h.same hc₅ (hrun hb₃).1 (hsame.started (hrun hb₃).2) hch₅ hsl₅
    · exact (wp_pure _ _ _ _).2 (h.same hc₄ (hrun hb₃).1 (by nofun) hch₄ hsl₄.ge)
  · exact (wp_pure _ _ _ _).2 (hj.kept (r := (true, _)) h (by nofun))

/-! ## A round of the main loop -/

theorem syncGattState_locked : wp (locked i) (syncGattState s)
    (fun s' w' => s' = { s with connectedGatt := i.flags.connected, authorizedGatt := i.flags.authorized,
                                pauseUpload := i.flags.pauseUpload, needsReset := i.flags.needsReset } ∧
      w' = w) w := by
  simp +contextual [syncGattState]

/-- A tick in settings mode, to the second. -/
theorem mainLoop_settings (hrun : ¬ (s.state = .shuttingDown ∨ s.state = .firmwareUpload))
    (hset : s.state = .settingsMode ∨ s.broadcastingSettings = true) :
    wp (locked i) (mainLoop s) (fun s' w' =>
      s'.chargeLockCounter = lockAfter s i.mult ∧ s'.badPower = s.badPower ∧ w'.charged = false ∧
      w'.slept = (if s.broadcastingSettings then 1000 else 1000 * i.mult.toNat) + 1000 * clientWaits s i) {} := by
  refine wp_seq syncGattState_locked ?_
  rintro s₁ w₁ ⟨hs₁, rfl⟩
  rw [tick_of_running (by rw [hs₁]; exact hrun)]
  refine wp_seq (wp_mode (tickSleep_locked rfl) (tickSleep_calls Policy.any_sound)) ?_
  rintro s₂ w₂ ⟨⟨hlock, hw₂⟩, n, -, hs₂⟩
  rw [if_pos (by rw [hs₂, hs₁]; exact hset)]
  have hwaits : clientWaits s₂ i = clientWaits s i := by rw [hs₂, hs₁]; rfl
  refine wp_mono ?_ (handleSettingsModeExit_locked (i := i) (by rw [hw₂]) (by rw [hs₂, hs₁]) (by rw [hs₂, hs₁])
    (by rw [hs₂, hs₁]))
  rintro s₃ w₃ ⟨hsame, hch, hsl⟩
  refine ⟨?_, ?_, ?_, ?_⟩
  · rw [hsame.1, hlock, hs₁]
    rfl
  · rw [hsame.2, hs₂, hs₁]
  · rw [hch, hw₂]
  · rw [hsl, hwaits, hw₂, hs₁]
    exact Nat.zero_add _ ▸ rfl

/-- What is taken off is slept. -/
theorem lasts_lockAfter {slept : Nat} (h : ∀ n ∈ e, 3600000 ≤ 1000 * s.chargeLockCounter + n)
    (hslept : 0 < s.chargeLockCounter → 1000 * i.mult.toNat ≤ slept) :
    ∀ n ∈ e.map (· + slept), 3600000 ≤ 1000 * lockAfter s i.mult + n := by
  intro n hn
  obtain ⟨m, hm, rfl⟩ := Option.mem_map.1 hn
  have := h m hm
  unfold lockAfter
  split
  · have := hslept ‹_›
    push_cast
    omega
  · push_cast
    omega

theorem mainLoop_locked (h : LockKept s e) (hok : Afforded s i) :
    wp (locked i) (mainLoop s) (fun s' w' => LockKept s' (sinceCharged e w')) {} := by
  by_cases hend : s.state = .shuttingDown ∨ s.state = .firmwareUpload
  · refine wp_seq syncGattState_locked ?_
    rintro s₁ w₁ ⟨hs₁, rfl⟩
    rw [tick_of_ended (by rw [hs₁]; exact hend), wp_pure]
    subst hs₁
    refine ⟨fun n hn => h.lasts n ?_, h.started, h.counted⟩
    simpa [sinceCharged] using hn
  have hbad : ¬ kUvloBadPowerThreshold < s.badPower := fun hlt => hend (.inl (h.counted hlt).1)
  by_cases hset : s.state = .settingsMode ∨ s.broadcastingSettings = true
  · refine wp_mono ?_ (wp_mode (mainLoop_settings hend hset) (mainLoop_started h.started))
    rintro s' w' ⟨⟨hlock, hpower, hch, hsl⟩, hstart⟩
    refine ⟨?_, hstart, fun hlt => absurd (hpower ▸ hlt) hbad⟩
    rw [sinceCharged, if_neg (by rw [hch]; nofun), hlock, hsl]
    refine lasts_lockAfter h.lasts fun hpos => ?_
    split
    · have := hok hend ‹_› hpos
      omega
    · omega
  · refine wp_seq syncGattState_locked ?_
    rintro s₁ w₁ ⟨hs₁, rfl⟩
    have hb₁ : Broadcasting s₁ := (broadcasting_of_running h.started hend hset).same (by rw [hs₁]) (by rw [hs₁])
    rw [tick_of_running (by rw [hb₁.state]; nofun)]
    refine wp_seq (wp_mode (tickSleep_locked rfl) (tickSleep_calls Policy.any_sound)) ?_
    rintro s₂ w₂ ⟨⟨hlock, hw₂⟩, n, -, hs₂⟩
    have hb₂ : Broadcasting s₂ := hb₁.same (by rw [hs₂]) (by rw [hs₂])
    rw [if_neg (by rw [hb₂.state, hb₂.settings]; nofun)]
    refine tickBroadcasting_locked ⟨?_, ?_, ?_⟩ hb₂ (by rw [hw₂])
    · rw [hlock, hw₂, hb₁.settings]
      simp only [sinceCharged, Bool.false_eq_true, if_false, Nat.zero_add]
      exact lasts_lockAfter (s := s₁) (by rw [hs₁]; exact h.lasts) fun _ => le_refl _
    · rw [hb₂.state]
      nofun
    · intro hlt
      rw [hs₂, hs₁] at hlt
      exact absurd hlt hbad

theorem initializeMachine_badPower :
    wp (calls (.any True True)) (initializeMachine s) (fun s' _ => s'.badPower = s.badPower) u := by
  have hstart (u : Unit) : wp (calls (.any True True)) (startUp s) (fun s' _ => s'.badPower = s.badPower) u := by
    refine wp_mono ?_ (startUp_started Policy.any_sound trivial trivial)
    rintro _ _ ⟨addr, v, rfl⟩
    rfl
  have hsleep : (Policy.any True True).sleep 500 := trivial
  have hradio : (Policy.any True True).radio := trivial
  simp [initializeMachine, hstart, hsleep, hradio]

theorem initializeMachine_locked (hs : s.badPower = 0) :
    wp (locked i) (initializeMachine s) (fun s' _ => LockKept s' none) w := by
  refine wp_mono ?_ (wp_mode (wp_of_calls (fun _ _ => trivial) initializeMachine_badPower) initializeMachine_started)
  rintro s' w' ⟨hbad, hstart⟩
  refine ⟨by nofun, hstart, fun hlt => ?_⟩
  rw [hbad, hs] at hlt
  exact absurd hlt (by decide)

/-! ## Runs -/

/-- States at the ends of ticks, with the milliseconds slept since the last tick that saw the charger; a
tick begun in `s` that finds `i` satisfies `ok s i`. -/
inductive LockRun (ok : StateMachine → LockTick → Prop) : StateMachine → Option Nat → Prop
  | start {i : LockTick} {s : StateMachine} {w : LockLog} :
      Reaches (locked i) (initializeMachine {}, {}) (.ret s, w) → LockRun ok s none
  | tick {s s' : StateMachine} {e : Option Nat} {w : LockLog} (i : LockTick) : LockRun ok s e → ok s i →
      Reaches (locked i) (mainLoop s, {}) (.ret s', w) → LockRun ok s' (sinceCharged e w)

theorem LockRun.kept (h : LockRun Afforded s e) : LockKept s e := by
  induction h with
  | start hr =>
    exact wp_value (Q := fun s _ => LockKept s none) (wp_reaches (initializeMachine_locked rfl) hr)
  | tick i _ hok hr ih =>
    exact wp_value (Q := fun s w => LockKept s (sinceCharged _ w)) (wp_reaches (mainLoop_locked ih hok) hr)

/-- As long as every tick affords what it takes off, the lock lasts for what is left of the hour since the
charger was last seen, and no under-voltage shutdown comes before that; a tick that does not afford it takes off
more than it sleeps. -/
theorem charge_lock_lasts (s : StateMachine) (e : Nat) (h : LockRun Afforded s (some e)) :
    (3600000 ≤ 1000 * s.chargeLockCounter + e ∧ (UvloShutdown s → 3600000 ≤ e)) ∧
    ∀ i s' w', ¬ Afforded s i → Reaches (locked i) (mainLoop s, {}) (.ret s', w') →
      w'.slept < 1000 * (s.chargeLockCounter - s'.chargeLockCounter) := by
  have hkept := h.kept
  have hlasts := hkept.lasts e rfl
  refine ⟨⟨hlasts, fun hs => ?_⟩, fun i s' w' hnot hr => ?_⟩
  · have := (hkept.counted hs.2).2
    omega
  · simp only [Afforded, Classical.not_imp, not_le] at hnot
    obtain ⟨hrun, hset, hpos, hlt⟩ := hnot
    obtain ⟨hlock, -, -, hslept⟩ := wp_value (Q := fun s' w' => _ ∧ _ ∧ _ ∧ _)
      (wp_reaches (mainLoop_settings (i := i) hrun (.inr hset)) hr)
    rw [hlock, hslept, lockAfter, if_pos hpos, if_pos hset]
    push_cast
    omega

end

/-! ## Played runs -/

/-- A device that reads 2700 mV, with the charger connected or not. -/
def LockLog.serve (i : LockTick) (charging : Bool) (w : LockLog) : (c : Call) → Option (c.Ans × LockLog)
  | .uptimeSeconds => some (i.now, { w with asked := w.asked + 1 })
  | .isCharging => some (charging, { w with charged := w.charged || (w.asked == 2 && charging) })
  | .sleepMs ms => some ((), { w with slept := w.slept + ms.toNat })
  | .glueSyncGattState => some (i.flags, w)
  | c => some (answers { turnedOn := true, multPeriod := i.mult } i.now 2700 c, w)

theorem locked_step_serve {i : LockTick} {charging : Bool} (w : LockLog) (c : Call) (x : c.Ans × LockLog)
    (hx : w.serve i charging c = some x) : (locked i).step w c x.1 x.2 := by
  cases c with
  | uptimeSeconds | config =>
    cases hx
    exact ⟨fun _ => rfl, rfl⟩
  | glueSyncGattState =>
    cases hx
    exact ⟨rfl, rfl⟩
  | _ =>
    cases hx
    rfl

/-- A tick at the uptime `now`, played. -/
theorem LockRun.played {ok : StateMachine → LockTick → Prop} {s : StateMachine} {e : Option Nat} (i : LockTick)
    (charging : Bool) (h : LockRun ok s e) (hok : ok s i) {x : StateMachine × LockLog}
    (hx : x ∈ (mainLoop s).play (LockLog.serve i charging) {}) : LockRun ok x.1 (sinceCharged e x.2) :=
  h.tick i hok (reaches_of_play locked_step_serve hx)

/-- At multiplier 1, the charger is seen at 10 s and the settings window opens at 60 s; a second later two seconds
are slept and taken off. -/
theorem charge_lock_lasts_one :
    ∃ s, LockRun Afforded s (some 2000) ∧ 3600000 ≤ 1000 * s.chargeLockCounter + 2000 := by
  obtain ⟨x, hx, y, hy, z, hz, v, hv, hok, he⟩ :
      ∃ x ∈ (initializeMachine {}).play (LockLog.serve { mult := 1, now := 1 } false) {},
      ∃ y ∈ (mainLoop x.1).play (LockLog.serve { mult := 1, now := 10 } true) {},
      ∃ z ∈ (mainLoop y.1).play (LockLog.serve { mult := 1, now := 60 } false) {},
      ∃ v ∈ (mainLoop z.1).play (LockLog.serve { mult := 1, now := 61 } false) {},
        (Afforded x.1 { mult := 1, now := 10 } ∧ Afforded y.1 { mult := 1, now := 60 } ∧
          Afforded z.1 { mult := 1, now := 61 }) ∧
        sinceCharged (sinceCharged (sinceCharged none y.2) z.2) v.2 = some 2000 := by decide
  have hstart : LockRun Afforded x.1 none := .start (reaches_of_play locked_step_serve hx)
  have hrun := ((hstart.played _ true hok.1 hy).played _ false hok.2.1 hz).played _ false hok.2.2 hv
  rw [he] at hrun
  exact ⟨v.1, hrun, (charge_lock_lasts v.1 2000 hrun).1.1⟩

/-- At multiplier 8, the second in the window takes eight off. -/
theorem window_takes_eight :
    ¬ ∀ s e, LockRun (fun _ _ => True) s (some e) → 3600000 ≤ 1000 * s.chargeLockCounter + e := by
  obtain ⟨x, hx, y, hy, z, hz, v, hv, he, hlock⟩ :
      ∃ x ∈ (initializeMachine {}).play (LockLog.serve { mult := 8, now := 1 } false) {},
      ∃ y ∈ (mainLoop x.1).play (LockLog.serve { mult := 8, now := 10 } true) {},
      ∃ z ∈ (mainLoop y.1).play (LockLog.serve { mult := 8, now := 60 } false) {},
      ∃ v ∈ (mainLoop z.1).play (LockLog.serve { mult := 8, now := 61 } false) {},
        sinceCharged (sinceCharged (sinceCharged none y.2) z.2) v.2 = some 9000 ∧
          v.1.chargeLockCounter = 3584 := by decide
  have hstart : LockRun (fun _ _ => True) x.1 none := .start (reaches_of_play locked_step_serve hx)
  have hrun := ((hstart.played _ true trivial hy).played _ false trivial hz).played _ false trivial hv
  rw [he] at hrun
  intro h
  have := h v.1 9000 hrun
  rw [hlock] at this
  exact absurd this (by decide)

end Everytag
