import Everytag.Footprint

/-!
# The life of the connectable advertisement

Three actors share `adv_is_settings`, `adv_enabled` and the queued `adv_restart_work`: the main loop,
the connection callbacks and the work queue.  In the world `lifecycle` a call of the main loop is one
step, and so is a callback or a run of `adv_restart_handler`; the latter happen at any time between
the calls (`Adv.Move`).

`NotConnectable` holds from the end of settings mode to its next start, and the other actors keep it:
what a late `recycled` leaves in the queue finds `adv_is_settings` cleared.  `Connectable` holds in
settings mode: the advertisement is on air, or a callback or a queued restart is still to bring it back.
-/

namespace Everytag

open Interaction StateMachine

structure Adv where
  /-- Bluetooth is enabled -/
  enabled : Bool := false
  onAir : OnAir := .none
  advIsSettings : Bool := false
  advEnabled : Bool := true
  /-- `adv_restart_work` is queued -/
  pending : Bool := false
  /-- connections whose `disconnected` has not been called -/
  connected : Nat := 0
  /-- connections between `disconnected` and `recycled` -/
  released : Nat := 0
deriving DecidableEq, Repr

namespace Adv

/-- Nothing stands in the way of a start. -/
def Idle (w : Adv) : Prop := w.enabled = true ∧ w.onAir = .none ∧ w.connected = 0 ∧ w.released = 0

/-- `bt_le_adv_start` needs an enabled radio with nothing on air; it may still fail as long as there are
connections, and succeeds on an idle radio. -/
def Starts (m : OnAir) (w w' : Adv) : Prop :=
  (w.enabled = true ∧ w.onAir = .none) ∧ w' = { w with onAir := m } ∨ ¬ w.Idle ∧ w' = w

/-- `adv_restart_handler` -/
def Restarts (w w' : Adv) : Prop :=
  if !w.advEnabled || !w.advIsSettings then w' = w else w.Starts .settings w'

/-- `beacon_adv_recycled_cb`; a second submission is the same as one. -/
def recycledCb (w : Adv) : Adv := if !w.advIsSettings then w else { w with pending := true }

/-- The callbacks, and the work queue. -/
inductive Move : Adv → Adv → Prop
  | connected {w : Adv} : w.onAir = .settings →
      Move w { w with onAir := .none, connected := w.connected + 1 }
  | connectionFailed {w : Adv} : Move w w
  | disconnected {w : Adv} {n : Nat} : w.connected = n + 1 →
      Move w { w with connected := n, released := w.released + 1 }
  | recycled {w : Adv} {n : Nat} : w.released = n + 1 → Move w { w with released := n }.recycledCb
  | restart {w w' : Adv} : w.pending = true → { w with pending := false }.Restarts w' → Move w w'

/-- What a call leaves; it may answer anything.  `bt_disable` may drop connections without a callback,
`power_off` may come back, `reboot` does not. -/
def Serves (w : Adv) : Call → Adv → Prop
  | .btEnable, w' => w' = { w with enabled := true }
  | .btDisable, w' => ∃ c ≤ w.connected, ∃ r ≤ w.released,
    w' = { w with enabled := false, onAir := .none, connected := c, released := r }
  | .advStartAirtag .., w' => { w with advIsSettings := false }.Starts .airtag w'
  | .advStartFmdn .., w' => { w with advIsSettings := false }.Starts .fmdn w'
  | .advStop, w' => w' = { w with onAir := .none, advIsSettings := false }
  | .startSettingsAdv, w' => ∃ w₁, w.Starts .settings w₁ ∧ w' = { w₁ with advIsSettings := true }
  | .stopSettingsAdv, w' => w' = { w with onAir := .none, advIsSettings := false }
  | .broadcastIbeacon _, w' => w.Starts .ibeacon w'
  | .beaconAdvCancelSync, w' => w' = { w with pending := false }
  | .beaconAdvSetAllowed allowed, w' => w' = { w with advEnabled := allowed }
  | .reboot, _ => False
  | _, w' => w' = w

end Adv

def lifecycle : World Call Call.Ans Adv where
  allowed _ _ := True
  step w c _ w' := w.Serves c w'
  move := Adv.Move

section

variable {s : StateMachine} {w w' : Adv}

/-! ## Out of settings mode -/

/-- No settings advertisement is on air, and none is asked for. -/
structure NotConnectable (w : Adv) : Prop where
  flag : w.advIsSettings = false
  onAir : w.onAir ≠ .settings

theorem Adv.Starts.onAir_ne {m : OnAir} (h : w.Starts m w') (hm : m ≠ .settings)
    (hw : w.onAir ≠ .settings) : w'.onAir ≠ .settings := by
  rcases h with ⟨-, rfl⟩ | ⟨-, rfl⟩
  · exact hm
  · exact hw

theorem Adv.Starts.flags {m : OnAir} (h : w.Starts m w') :
    w'.advIsSettings = w.advIsSettings ∧ w'.advEnabled = w.advEnabled := by
  rcases h with ⟨-, rfl⟩ | ⟨-, rfl⟩
  · exact ⟨rfl, rfl⟩
  · exact ⟨rfl, rfl⟩

theorem NotConnectable.move (h : NotConnectable w) (hm : w.Move w') : NotConnectable w' := by
  cases hm with
  | connected ha => exact absurd ha h.onAir
  | connectionFailed => exact h
  | disconnected => exact ⟨h.flag, h.onAir⟩
  | recycled =>
    -- `adv_is_settings` is clear: nothing is submitted
    rw [Adv.recycledCb, if_pos (by simp [h.flag])]
    exact ⟨h.flag, h.onAir⟩
  | restart _ hr =>
    rw [Adv.Restarts, if_pos (by simp [h.flag])] at hr
    subst hr
    exact ⟨h.flag, h.onAir⟩

/-- The other actors do not touch the radio. -/
theorem NotConnectable.move_radio (h : NotConnectable w) (hm : w.Move w') :
    w'.onAir = w.onAir ∧ w'.enabled = w.enabled := by
  cases hm with
  | connected ha => exact absurd ha h.onAir
  | recycled =>
    rw [Adv.recycledCb, if_pos (by simp [h.flag])]
    exact ⟨rfl, rfl⟩
  | restart _ hr =>
    rw [Adv.Restarts, if_pos (by simp [h.flag])] at hr
    rw [hr]
    exact ⟨rfl, rfl⟩
  | _ => exact ⟨rfl, rfl⟩

theorem NotConnectable.call {c : Call} (h : NotConnectable w) (hc : c ≠ .startSettingsAdv)
    (hs : w.Serves c w') : NotConnectable w' := by
  cases c with
  | startSettingsAdv => exact absurd rfl hc
  | advStartAirtag | advStartFmdn =>
    exact ⟨hs.flags.1, hs.onAir_ne (by decide) h.onAir⟩
  | broadcastIbeacon => exact ⟨hs.flags.1.trans h.flag, hs.onAir_ne (by decide) h.onAir⟩
  | btDisable =>
    obtain ⟨_, _, _, _, rfl⟩ := hs
    exact ⟨h.flag, by nofun⟩
  | advStop | stopSettingsAdv =>
    cases hs
    exact ⟨rfl, by nofun⟩
  | reboot => exact hs.elim
  | _ =>
    cases hs
    exact ⟨h.flag, h.onAir⟩

theorem advEnabled_move (hm : w.Move w') : w'.advEnabled = w.advEnabled := by
  cases hm with
  | recycled =>
    rw [Adv.recycledCb]
    split <;> rfl
  | restart _ hr =>
    rw [Adv.Restarts] at hr
    split at hr
    · rw [hr]
    · exact hr.flags.2
  | _ => rfl

theorem advEnabled_call {c : Call} (hc : c.modeCall ≠ true) (hs : w.Serves c w') :
    w'.advEnabled = w.advEnabled := by
  cases c with
  | beaconAdvSetAllowed | startSettingsAdv => exact absurd rfl hc
  | advStartAirtag | advStartFmdn | broadcastIbeacon => exact hs.flags.2
  | btDisable =>
    obtain ⟨_, _, _, _, rfl⟩ := hs
    rfl
  | reboot => exact hs.elim
  | _ => cases hs; rfl

/-- Broadcasting: a restart is allowed, but none is asked for. -/
structure Broadcasts (w : Adv) : Prop extends NotConnectable w where
  allowed : w.advEnabled = true

theorem Broadcasts.move (h : Broadcasts w) (hm : w.Move w') : Broadcasts w' :=
  ⟨h.toNotConnectable.move hm, (advEnabled_move hm).trans h.allowed⟩

theorem Broadcasts.call {c : Call} (h : Broadcasts w) (hc : c.modeCall ≠ true) (hs : w.Serves c w') :
    Broadcasts w' :=
  ⟨h.toNotConnectable.call (fun he => hc (by rw [he]; rfl)) hs, (advEnabled_call hc hs).trans h.allowed⟩

/-- Everything but to start the settings advertisement or to forbid restarts. -/
def Policy.sameMode : Policy := { Policy.any True True with mode := False }

theorem Policy.sameMode_sound : Policy.sameMode.Sound :=
  ⟨fun _ _ => trivial, fun _ _ => trivial, fun _ _ _ _ => trivial⟩

theorem wp_broadcasts {α : Type} {p : Main α} {Q : α → Prop}
    (hp : wp (calls .sameMode) p (fun a _ => Q a) ()) (h : Broadcasts w) :
    wp lifecycle p (fun a w' => Q a ∧ Broadcasts w') w :=
  wp_frame (E := lifecycle) hp Broadcasts (fun _ _ h hm => h.move hm)
    (fun _ c hc h => ⟨trivial, fun a _ hs =>
      ⟨answers_of_config (fun _ => trivial) c a, h.call hc.mode hs⟩⟩) h

theorem Broadcasts.wp_call {α : Type} {c : Call} {k : c.Ans → Main α} {Q : α → Adv → Prop}
    (h : Broadcasts w) (hc : c.modeCall ≠ true) (hk : ∀ a w', Broadcasts w' → wp lifecycle (k a) Q w') :
    wp lifecycle (issue c >>= k) Q w :=
  wp_call_of_stable h (fun _ _ h hm => h.move hm) (fun _ h => ⟨trivial, fun _ _ hs => h.call hc hs⟩) hk

theorem NotConnectable.wp_call {α : Type} {c : Call} {k : c.Ans → Main α} {Q : α → Adv → Prop}
    (h : NotConnectable w) (hc : c ≠ .startSettingsAdv)
    (hk : ∀ a w', NotConnectable w' → wp lifecycle (k a) Q w') : wp lifecycle (issue c >>= k) Q w :=
  wp_call_of_stable h (fun _ _ h hm => h.move hm) (fun _ h => ⟨trivial, fun _ _ hs => h.call hc hs⟩) hk

/-! ## In settings mode -/

/-- The settings advertisement is on air, or a callback or a queued restart is to bring it back. -/
structure Connectable (w : Adv) : Prop where
  flag : w.advIsSettings = true
  allowed : w.advEnabled = true
  enabled : w.enabled = true
  mode : w.onAir = .settings ∨ w.onAir = .none
  comes : w.onAir = .settings ∨ w.connected ≠ 0 ∨ w.released ≠ 0 ∨ w.pending = true

/-- A start either succeeds or finds the advertisement or a connection. -/
theorem Adv.Starts.connectable (h : w.Starts .settings w') (hal : w.advEnabled = true)
    (hen : w.enabled = true) (hm : w.onAir = .settings ∨ w.onAir = .none) :
    Connectable { w' with advIsSettings := true } := by
  rcases h with ⟨-, rfl⟩ | ⟨hidle, rfl⟩
  · exact ⟨rfl, hal, hen, .inl rfl, .inl rfl⟩
  · refine ⟨rfl, hal, hen, hm, ?_⟩
    simp only [Adv.Idle, hen, true_and] at hidle
    grind

theorem Connectable.move (h : Connectable w) (hm : w.Move w') : Connectable w' := by
  cases hm with
  | connected => exact ⟨h.flag, h.allowed, h.enabled, .inr rfl, .inr (.inl (Nat.succ_ne_zero _))⟩
  | connectionFailed => exact h
  | disconnected =>
    exact ⟨h.flag, h.allowed, h.enabled, h.mode, .inr (.inr (.inl (Nat.succ_ne_zero _)))⟩
  | recycled =>
    -- the last connection is gone: a restart is queued
    rw [Adv.recycledCb, if_neg (by simp [h.flag])]
    exact ⟨h.flag, h.allowed, h.enabled, h.mode, .inr (.inr (.inr rfl))⟩
  | restart _ hr =>
    rw [Adv.Restarts, if_neg (by simp [h.flag, h.allowed])] at hr
    have hc := hr.connectable h.allowed h.enabled h.mode
    rwa [show { w' with advIsSettings := true } = w' by rw [← hr.flags.1.trans h.flag]] at hc

/-- Calls that do not reach the radio leave the state alone. -/
theorem serves_quiet {c : Call} (hc : c.radioCall ≠ true) (hs : w.Serves c w') : w' = w := by
  cases c with
  | _ => first | exact hs | exact absurd rfl hc

/-! ## Ticks -/

/-- Between two ticks. -/
inductive Lifecycle (s : StateMachine) (w : Adv) : Prop
  | broadcasting : s.state = .broadcasting → Broadcasts w → Lifecycle s w
  | settingsMode : s.state = .settingsMode → Connectable w → Lifecycle s w
  | shuttingDown : s.state = .shuttingDown → NotConnectable w → Lifecycle s w

theorem Lifecycle.move (h : Lifecycle s w) (hm : w.Move w') : Lifecycle s w' := by
  cases h with
  | broadcasting hs h => exact .broadcasting hs (h.move hm)
  | settingsMode hs h => exact .settingsMode hs (h.move hm)
  | shuttingDown hs h => exact .shuttingDown hs (h.move hm)

theorem Lifecycle.congr {s' : StateMachine} (h : Lifecycle s w) (hs : s'.state = s.state) :
    Lifecycle s' w := by
  cases h with
  | broadcasting hb h => exact .broadcasting (hs.trans hb) h
  | settingsMode hb h => exact .settingsMode (hs.trans hb) h
  | shuttingDown hb h => exact .shuttingDown (hs.trans hb) h

theorem Lifecycle.notConnectable (h : Lifecycle s w) (hs : s.state ≠ .settingsMode) : NotConnectable w := by
  cases h with
  | broadcasting _ h => exact h.toNotConnectable
  | settingsMode h => exact absurd h hs
  | shuttingDown _ h => exact h

theorem Lifecycle.connectable (h : Lifecycle s w) (hs : s.state = .settingsMode) : Connectable w := by
  cases h with
  | broadcasting h => simp [h] at hs
  | settingsMode _ h => exact h
  | shuttingDown h => simp [h] at hs

theorem Lifecycle.allowed (h : Lifecycle s w) (hs : s.state ≠ .shuttingDown) : w.advEnabled = true := by
  cases h with
  | broadcasting _ h => exact h.allowed
  | settingsMode _ h => exact h.allowed
  | shuttingDown h => exact absurd h hs

theorem Lifecycle.wp_call {α : Type} {c : Call} {k : c.Ans → Main α} {Q : α → Adv → Prop}
    (h : Lifecycle s w) (hc : c.radioCall ≠ true)
    (hk : ∀ a w', Lifecycle s w' → wp lifecycle (k a) Q w') : wp lifecycle (issue c >>= k) Q w :=
  wp_call_of_stable h (fun _ _ h hm => h.move hm)
    (fun _ h => ⟨trivial, fun _ _ hs => serves_quiet hc hs ▸ h⟩) hk

theorem wp_lifecycle {α : Type} {p : Main α} {Q : α → Prop}
    (hp : wp (calls .quiet) p (fun a _ => Q a) ()) (h : Lifecycle s w) :
    wp lifecycle p (fun a w' => Q a ∧ Lifecycle s w') w :=
  wp_frame (E := lifecycle) hp (Lifecycle s) (fun _ _ h hm => h.move hm)
    (fun _ c hc h => ⟨trivial, fun a _ hs =>
      ⟨answers_of_config (fun _ => trivial) c a, serves_quiet hc.radio hs ▸ h⟩⟩) h

theorem Lifecycle.wp_pure (h : Lifecycle s w) : wp lifecycle (pure s) Lifecycle w :=
  wp_ret_of_stable h fun _ _ h hm => h.move hm

/-- What a duty that may power off leaves. -/
def Stops (s : StateMachine) (r : Bool × StateMachine) (w : Adv) : Prop :=
  if r.1 then r.2.state = .shuttingDown ∧ NotConnectable w else r.2.state = s.state ∧ Broadcasts w

theorem Stops.wp_pure {r : Bool × StateMachine} (h : Stops s r w) : wp lifecycle (pure r) (Stops s) w := by
  refine wp_ret_of_stable h ?_
  intro w w' h hm
  unfold Stops at h ⊢
  split
  · rw [if_pos ‹_›] at h
    exact ⟨h.1, h.2.move hm⟩
  · rw [if_neg ‹_›] at h
    exact ⟨h.1, h.2.move hm⟩

theorem handleUvloShutdown_lifecycle (h : Broadcasts w) :
    wp lifecycle (handleUvloShutdown s) (Stops s) w := by
  unfold handleUvloShutdown
  split
  · exact Stops.wp_pure ⟨rfl, h⟩
  · refine h.wp_call (by decide) ?_
    intro charging w h
    generalize hs₁ : (if charging then { s with chargeLockCounter := kChargeLockDuration } else s) = s₁
    have hstate : s₁.state = s.state := by
      rw [← hs₁]
      split <;> rfl
    dsimp only
    split
    · split
      · refine h.toNotConnectable.wp_call (by decide) ?_
        intro _ w h
        refine h.wp_call (by decide) fun _ w h => h.wp_call (by decide) ?_
        intro _ w h
        refine h.wp_call (by decide) fun _ w h => h.wp_call (by decide) ?_
        intro _ w h
        exact Stops.wp_pure ⟨rfl, h⟩
      · exact Stops.wp_pure ⟨hstate, h⟩
    · exact Stops.wp_pure ⟨hstate, h⟩

theorem handleNokeysShutdown_lifecycle (h : Broadcasts w) :
    wp lifecycle (handleNokeysShutdown s) (Stops s) w := by
  refine wp_mono (fun r w hpost => ?_) (wp_broadcasts handleNokeysShutdown_calls h)
  obtain ⟨hr, h⟩ := hpost
  rcases hr with rfl | rfl
  · exact ⟨rfl, h⟩
  · exact ⟨rfl, h.toNotConnectable⟩

theorem handleButtonLongpress_lifecycle (h : Broadcasts w) :
    wp lifecycle (handleButtonLongpress s) (Stops s) w := by
  refine h.wp_call (by decide) ?_
  intro pressed w h
  split
  · exact Stops.wp_pure ⟨rfl, h⟩
  · refine h.wp_call (by decide) fun _ w h => h.wp_call (by decide) ?_
    intro pressed w h
    split
    · exact Stops.wp_pure ⟨rfl, h⟩
    · refine h.wp_call (by decide) fun _ w h => h.wp_call (by decide) ?_
      intro _ w h
      refine wp_seq (wp_broadcasts (waitButtonRelease_calls (Q := fun _ _ => True) trivial trivial) h)
        fun _ w hpost => ?_
      obtain ⟨_, h⟩ := hpost
      refine h.wp_call (by decide) fun _ w h => h.wp_call (by decide) ?_
      intro _ w h
      refine h.wp_call (by decide) fun _ w h => h.toNotConnectable.wp_call (by decide) ?_
      intro _ w h
      refine h.wp_call (by decide) fun _ w h => h.wp_call (by decide) ?_
      intro _ w h
      refine h.wp_call (by decide) fun _ w h => h.wp_call (by decide) ?_
      intro _ w h
      exact Stops.wp_pure ⟨rfl, h⟩

/-- On the way into settings mode nothing is on air; in the end the radio is enabled. -/
structure Silent (on : Prop) (w : Adv) : Prop extends Broadcasts w where
  silent : w.onAir = .none
  enabled : on → w.enabled = true

theorem Silent.move {on : Prop} (h : Silent on w) (hm : w.Move w') : Silent on w' := by
  obtain ⟨hair, hen⟩ := h.move_radio hm
  exact ⟨h.toBroadcasts.move hm, hair.trans h.silent, fun ho => hen.trans (h.enabled ho)⟩

theorem Silent.wp_call {on : Prop} (on' : Prop) {α : Type} {c : Call} {k : c.Ans → Main α}
    {Q : α → Adv → Prop} (h : Silent on w) (hc : ∀ w w', Silent on w → w.Serves c w' → Silent on' w')
    (hk : ∀ a w', Silent on' w' → wp lifecycle (k a) Q w') : wp lifecycle (issue c >>= k) Q w :=
  wp_call_of_stable h (fun _ _ h hm => h.move hm) (fun w h => ⟨trivial, fun _ w' hs => hc w w' h hs⟩) hk

theorem useSettingsMac_lifecycle {on : Prop} (h : Silent on w) :
    wp lifecycle useSettingsMac (fun _ w' => Silent on w') w := by
  have hret (w : Adv) (h : Silent on w) : wp lifecycle (pure ()) (fun _ w' => Silent on w') w :=
    wp_ret_of_stable h fun _ _ h hm => h.move hm
  refine h.wp_call on (fun _ _ h hs => hs ▸ h) ?_
  intro cfg w h
  split
  · show wp lifecycle (issue (.setMac cfg.settingsMac) >>= pure) _ w
    exact h.wp_call on (fun _ _ h hs => hs ▸ h) fun _ w h => hret w h
  · exact hret w h

/-- The entry stops what is on air, and starts on a radio that is enabled and silent. -/
theorem handleSettingsModeEntry_lifecycle (hs : s.state = .broadcasting) (h : Broadcasts w) :
    wp lifecycle (handleSettingsModeEntry s) Lifecycle w := by
  refine h.wp_call (by decide) ?_
  intro now w h
  split
  · exact Lifecycle.wp_pure (.broadcasting hs h)
  · refine h.wp_call (by decide) ?_
    intro _ w h
    refine wp_call_of_stable (J := Silent False) h (fun _ _ h hm => h.move hm) (fun w h => ⟨trivial, ?_⟩)
      fun _ w h => ?_
    · rintro _ _ rfl
      exact ⟨⟨⟨rfl, by nofun⟩, h.allowed⟩, rfl, False.elim⟩
    refine h.wp_call False (fun w w' h hs => ?_) fun _ w h => ?_
    · exact ⟨h.toBroadcasts.call (by decide) hs, by obtain ⟨_, _, _, _, rfl⟩ := hs; rfl, False.elim⟩
    refine wp_seq (useSettingsMac_lifecycle h) ?_
    intro _ w h
    refine h.wp_call True (fun w w' h hs => ?_) fun _ w h => ?_
    · have hb := h.toBroadcasts.call (by decide) hs
      cases hs
      exact ⟨hb, h.silent, fun _ => rfl⟩
    refine h.wp_call True (fun _ _ h hs => hs ▸ h) ?_
    intro _ w h
    refine wp_call_of_stable (J := Connectable) h (fun _ _ h hm => h.move hm) (fun w h => ⟨trivial, ?_⟩)
      fun _ w h => Lifecycle.wp_pure (.settingsMode rfl h)
    rintro _ _ ⟨w₁, hstart, rfl⟩
    exact hstart.connectable h.allowed (h.enabled trivial) (.inr h.silent)

theorem tickDuties_lifecycle (hs : s.state = .broadcasting) (h : Broadcasts w) :
    wp lifecycle (tickDuties s) Lifecycle w := by
  refine h.wp_call (by decide) ?_
  intro now w h
  split
  · exact handleSettingsModeEntry_lifecycle hs h
  · refine wp_seq (wp_broadcasts handleMaxPowerBurst_calls h) ?_
    intro s₁ w hpost
    obtain ⟨⟨t, _, hs₁⟩, h⟩ := hpost
    refine wp_seq (wp_broadcasts (handleKeyRotation_calls Policy.sameMode_sound trivial) h)
      fun s₂ w hpost => ?_
    obtain ⟨⟨_, hs₂⟩, h⟩ := hpost
    replace hs₂ : s₂.state = .broadcasting := hs₂.trans (hs₁ ▸ hs)
    refine wp_seq (handleButtonLongpress_lifecycle h) ?_
    intro r w hr
    obtain ⟨_ | _, s₃⟩ := r
    · obtain ⟨hs₃, h⟩ := hr
      refine wp_seq (wp_broadcasts handleAccelerometer_calls h) ?_
      intro s₄ w hpost
      obtain ⟨⟨t, _, hs₄⟩, h⟩ := hpost
      refine wp_mono (fun s₅ w hpost => ?_) (wp_broadcasts (tickBroadcast_calls trivial) h)
      obtain ⟨⟨_, hs₅⟩, h⟩ := hpost
      exact .broadcasting (hs₅.trans (hs₄ ▸ hs₃.trans hs₂)) h
    · exact Lifecycle.wp_pure (.shuttingDown hr.1 hr.2)

theorem tickBroadcasting_lifecycle (hs : s.state = .broadcasting) (h : Broadcasts w) :
    wp lifecycle (tickBroadcasting s) Lifecycle w := by
  refine wp_seq (wp_broadcasts handleTimeSave_calls h) ?_
  intro s₁ w hpost
  obtain ⟨⟨t, _, hs₁⟩, h⟩ := hpost
  refine wp_seq (wp_broadcasts (handleBatteryCheck_calls trivial trivial) h) ?_
  intro s₂ w hpost
  obtain ⟨⟨hs₂, _⟩, h⟩ := hpost
  replace hs₂ : s₂.state = .broadcasting := hs₂.trans (hs₁ ▸ hs)
  refine wp_seq (handleUvloShutdown_lifecycle h) ?_
  intro r w hr
  obtain ⟨_ | _, s₃⟩ := r
  · obtain ⟨hs₃, h⟩ := hr
    refine wp_seq (handleNokeysShutdown_lifecycle h) ?_
    intro r w hr
    obtain ⟨_ | _, s₄⟩ := r
    · exact tickDuties_lifecycle (hr.1.trans (hs₃.trans hs₂)) hr.2
    · exact Lifecycle.wp_pure (.shuttingDown hr.1 hr.2)
  · exact Lifecycle.wp_pure (.shuttingDown hr.1 hr.2)

/-! ## The end of settings mode -/

theorem wp_any_call {α : Type} {c : Call} {k : c.Ans → Main α} {Q : α → Adv → Prop}
    (hk : ∀ a w', wp lifecycle (k a) Q w') : wp lifecycle (issue c >>= k) Q w :=
  wp_call_of_stable (I := fun _ => True) (J := fun _ => True) trivial (fun _ _ _ _ => trivial)
    (fun _ _ => ⟨trivial, fun _ _ _ => trivial⟩) fun a w' _ => hk a w'

/-- Nothing follows `reboot`. -/
theorem wp_reboot {α : Type} {k : Unit → Main α} {Q : α → Adv → Prop} :
    wp lifecycle (issue .reboot >>= k) Q w :=
  wp_call_of_stable (I := fun _ => True) (J := fun _ => False) trivial (fun _ _ _ _ => trivial)
    (fun _ _ => ⟨trivial, fun _ _ hs => hs⟩) fun _ _ h => h.elim

theorem firmwareUpload_lifecycle : wp lifecycle (firmwareUpload s) Lifecycle w := by
  refine wp_any_call fun _ _ => wp_any_call fun _ _ => wp_any_call fun _ _ => wp_any_call ?_
  intro _ w
  refine wp_seq (wp_invariant (fun _ => True) (fun _ _ _ _ => trivial)
    (fun _ _ _ => ⟨trivial, fun _ _ _ => trivial⟩) (uploadWait 15) (w := w) trivial) fun _ _ _ => ?_
  exact wp_any_call fun _ _ => wp_reboot

theorem leaveSettings_lifecycle (h : w.advEnabled = true) : wp lifecycle (leaveSettings s) Lifecycle w := by
  have hmove (w w' : Adv) (h : w.advEnabled = true) (hm : w.Move w') : w'.advEnabled = true :=
    (advEnabled_move hm).trans h
  refine wp_call_of_stable (c := Call.beaconAdvCancelSync) (I := fun w : Adv => w.advEnabled = true)
    (J := fun w => w.advEnabled = true) h hmove
    (fun w h => ⟨trivial, fun _ w' hs => ?_⟩) fun _ w h => ?_
  · cases hs
    exact h
  -- from here on whatever is in the queue finds `adv_is_settings` cleared
  refine wp_call_of_stable (J := Broadcasts) h hmove (fun w h => ⟨trivial, ?_⟩) fun _ w h => ?_
  · rintro _ _ rfl
    exact ⟨⟨rfl, by nofun⟩, h⟩
  refine h.wp_call (by decide) ?_
  intro _ w h
  refine wp_seq (wp_broadcasts (restoreMac_calls trivial) h) ?_
  intro _ w hpost
  obtain ⟨_, h⟩ := hpost
  refine h.wp_call (by decide) fun _ w h => h.wp_call (by decide) ?_
  intro cfg w h
  refine h.wp_call (by nofun) ?_
  intro _ w h
  split
  · exact wp_reboot
  · refine wp_seq (wp_broadcasts (ibeaconFallback_calls trivial) h) ?_
    intro _ w hpost
    obtain ⟨_, h⟩ := hpost
    exact Lifecycle.wp_pure (.broadcasting rfl h)

theorem handleSettingsModeExit_lifecycle (hs : s.state ≠ .shuttingDown) (h : Lifecycle s w) :
    wp lifecycle (handleSettingsModeExit s) Lifecycle w := by
  have hissue {c : Call} {w : Adv} (hc : c.radioCall ≠ true) (h : Lifecycle s w) :
      wp lifecycle (issue c) (fun _ => Lifecycle s) w :=
    h.wp_call (k := pure) hc fun _ _ h => wp_ret_of_stable h fun _ _ h hm => h.move hm
  refine handleSettingsModeExit_decides (J := Lifecycle s) ?_ ?_ ?_ ?_ ?_ h
  · exact fun _ h => hissue (by decide) h
  · exact fun _ _ _ h => wp_mono (fun _ _ h => hissue (by decide) h) (hissue (by simp) h)
  · exact fun _ h => Lifecycle.wp_pure h
  · exact fun _ _ => firmwareUpload_lifecycle
  · exact fun _ h => leaveSettings_lifecycle (h.allowed hs)

/-! ## Runs -/

theorem mainLoop_lifecycle (h : Lifecycle s w) : wp lifecycle (mainLoop s) Lifecycle w := by
  refine wp_seq (wp_lifecycle syncGattState_calls h) ?_
  intro s₁ w hpost
  obtain ⟨⟨f, hs₁⟩, h⟩ := hpost
  replace h : Lifecycle s₁ w := h.congr (by rw [hs₁])
  unfold tick
  split
  · exact Lifecycle.wp_pure h
  next hup =>
    refine wp_seq (wp_lifecycle (tickSleep_calls Policy.quiet_sound) h) ?_
    intro s₂ w hpost
    obtain ⟨⟨n, _, hs₂⟩, h⟩ := hpost
    have hstate : s₂.state = s₁.state := by rw [hs₂]
    replace h := h.congr hstate
    have hrun : s₂.state ≠ .shuttingDown := by
      rw [hstate]
      exact fun he => hup (by simp [he])
    split
    · exact handleSettingsModeExit_lifecycle hrun h
    next hmode =>
      cases h with
      | broadcasting hs h => exact tickBroadcasting_lifecycle hs h
      | settingsMode hs => exact absurd (by simp [hs]) hmode
      | shuttingDown hs => exact absurd hs hrun

theorem initializeMachine_lifecycle (h : Broadcasts w) :
    wp lifecycle (initializeMachine s) Lifecycle w := by
  refine wp_mono (fun s w hpost => ?_)
    (wp_broadcasts (initializeMachine_calls Policy.sameMode_sound trivial trivial) h)
  obtain ⟨hs, h⟩ := hpost
  rcases hs with hs | hs
  · exact .broadcasting hs h
  · exact .shuttingDown hs h.toNotConnectable

end

namespace Adv

/-- A start on a radio that is enabled and silent. -/
def start (w : Adv) (m : OnAir) : Option Adv :=
  if w.enabled = true ∧ w.onAir = .none then some { w with onAir := m } else none

theorem starts_of_start {w w' : Adv} {m : OnAir} (h : w.start m = some w') : w.Starts m w' := by
  unfold start at h
  split at h
  · exact .inl ⟨‹_›, (Option.some.inj h).symm⟩
  · cases h

/-- What a call leaves while no client is there. -/
def after (w : Adv) : Call → Option Adv
  | .btEnable => some { w with enabled := true }
  | .btDisable => some { w with enabled := false, onAir := .none }
  | .advStartAirtag .. => { w with advIsSettings := false }.start .airtag
  | .advStartFmdn .. => { w with advIsSettings := false }.start .fmdn
  | .advStop | .stopSettingsAdv => some { w with onAir := .none, advIsSettings := false }
  | .startSettingsAdv => (w.start .settings).map fun w => { w with advIsSettings := true }
  | .broadcastIbeacon _ => w.start .ibeacon
  | .beaconAdvCancelSync => some { w with pending := false }
  | .beaconAdvSetAllowed allowed => some { w with advEnabled := allowed }
  | .reboot => none
  | _ => some w

theorem serves_of_after {w w' : Adv} {c : Call} (h : w.after c = some w') : w.Serves c w' := by
  cases c with
  | advStartAirtag | advStartFmdn | broadcastIbeacon => exact starts_of_start h
  | startSettingsAdv =>
    obtain ⟨w₁, h₁, rfl⟩ := Option.map_eq_some_iff.1 h
    exact ⟨w₁, starts_of_start h₁, rfl⟩
  | btDisable =>
    cases h
    exact ⟨_, le_refl _, _, le_refl _, rfl⟩
  | reboot => cases h
  | _ =>
    cases h
    rfl

/-- A device at rest that is turned on with the AirTag flag set, at the uptime `now`. -/
def serve (now : UInt32) (w : Adv) (c : Call) : Option (c.Ans × Adv) :=
  (w.after c).map fun w' => (answers { turnedOn := true, flagAirtag := true } now 3000 c, w')

theorem step_serve {now : UInt32} (w : Adv) (c : Call) (x : c.Ans × Adv) (hx : w.serve now c = some x) :
    lifecycle.step w c x.1 x.2 := by
  obtain ⟨w', hw', rfl⟩ := Option.map_eq_some_iff.1 hx
  exact serves_of_after hw'

end Adv

/-- Between the ticks of any run, whatever callbacks and restarts came between the calls: out of settings
mode the settings advertisement is not on air, and no callback or queued restart brings it back; in
settings mode, it is on air as soon as no connection, no callback and no restart is outstanding. -/
theorem settings_adv_lifecycle :
    (∀ s w, Boundary lifecycle (initializeMachine {}) mainLoop (· = {}) s w →
      s.state = .broadcasting ∨ s.state = .shuttingDown →
      w.onAir ≠ .settings ∧ ∀ w', lifecycle.Moves w w' → w'.onAir ≠ .settings) ∧
    (∀ s w, Boundary lifecycle (initializeMachine {}) mainLoop (· = {}) s w →
      s.state = .settingsMode → w.connected = 0 → w.released = 0 → w.pending = false →
      w.onAir = .settings) := by
  have hinv {s w} (h : Boundary lifecycle (initializeMachine {}) mainLoop (· = {}) s w) : Lifecycle s w :=
    boundary_inv (fun w (hw : w = {}) => initializeMachine_lifecycle (hw ▸ ⟨⟨rfl, by decide⟩, rfl⟩))
      (fun _ _ => mainLoop_lifecycle) h
  refine ⟨fun s w hb hs => ?_, fun s w hb hs hc hr hp => ?_⟩
  · have h : NotConnectable w := (hinv hb).notConnectable (by rintro h; simp [h] at hs)
    exact ⟨h.onAir, fun w' hm => (hm.keeps (fun _ _ h hm => h.move hm) h).onAir⟩
  · have h : Connectable w := (hinv hb).connectable hs
    simpa [hc, hr, hp] using h.comes

/-- The tick at one minute enters settings mode.  A client connects, goes away, and the restart that its `recycled`
leaves in the queue brings the advertisement back; two seconds later the device broadcasts again. -/
theorem settings_adv_lifecycle_reached :
    ∃ s w w' s' w'', Boundary lifecycle (initializeMachine {}) mainLoop (· = {}) s w ∧
      s.state = .settingsMode ∧ w.connected = 1 ∧ w.onAir = .none ∧ lifecycle.Moves w w' ∧
      Boundary lifecycle (initializeMachine {}) mainLoop (· = {}) s w' ∧ w'.onAir = .settings ∧
      Boundary lifecycle (initializeMachine {}) mainLoop (· = {}) s' w'' ∧ s'.state = .broadcasting ∧
      w''.onAir ≠ .settings := by
  let open₀ : Adv := { enabled := true, onAir := .settings, advIsSettings := true }
  let taken : Adv := { open₀ with onAir := .none, connected := 1 }
  let gone : Adv := { open₀ with onAir := .none, released := 1 }
  let queued : Adv := { open₀ with onAir := .none, pending := true }
  obtain ⟨⟨s₀, w₀⟩, h₀, ⟨s, w⟩, h₁, ⟨s', w''⟩, h₂, hs, rfl, hs'⟩ :
      ∃ x₀ ∈ (initializeMachine {}).play (Adv.serve 0) {}, ∃ x₁ ∈ (mainLoop x₀.1).play (Adv.serve 60) x₀.2,
      ∃ x₂ ∈ (mainLoop x₁.1).play (Adv.serve 62) open₀, x₁.1.state = .settingsMode ∧ x₁.2 = open₀ ∧
        x₂.1.state = .broadcasting := by decide
  have hstart : Boundary lifecycle (initializeMachine {}) mainLoop (· = {}) s₀ w₀ :=
    .start rfl (reaches_of_play Adv.step_serve h₀)
  have htaken : Reaches lifecycle (mainLoop s₀, w₀) (.ret s, taken) :=
    (reaches_of_play Adv.step_serve h₁).tail (.move (.connected rfl))
  have hgone : lifecycle.move taken gone := .disconnected rfl
  have hqueued : lifecycle.move gone queued := .recycled rfl
  have hback : lifecycle.move queued open₀ := .restart rfl (.inl ⟨⟨rfl, rfl⟩, rfl⟩)
  have hopen : Reaches lifecycle (mainLoop s₀, w₀) (.ret s, open₀) :=
    ((htaken.tail (.move hgone)).tail (.move hqueued)).tail (.move hback)
  have hb := Boundary.iter hstart hopen
  have hb' := hb.iter (reaches_of_play Adv.step_serve h₂)
  exact ⟨s, taken, open₀, s', w'', hstart.iter htaken, hs, rfl, rfl,
    .tail (.tail (.single hgone) hqueued) hback, hb, settings_adv_lifecycle.2 s open₀ hb hs rfl rfl rfl,
    hb', hs', (settings_adv_lifecycle.1 s' w'' hb' (.inl hs')).1⟩

end Everytag
