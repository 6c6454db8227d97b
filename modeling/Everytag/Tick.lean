import Everytag.Footprint

/-!
# The rule of the tick

A tick is a chain of handlers, and which of them come to run depends on the mode of the machine and on
the handlers before them.  `TickRule` asks of each handler by itself what it needs and what it leaves: `J`
up to the key rotation, `K` from there on.  `TickRule.mainLoop` puts the chain together, once for every
world in which the handlers are specified.
-/

namespace Everytag

open Interaction StateMachine

/-- The mode in which the handlers of a broadcasting tick run. -/
structure Broadcasting (s : StateMachine) : Prop where
  state : s.state = .broadcasting
  settings : s.broadcastingSettings = false

theorem Broadcasting.same {s s' : StateMachine} (h : Broadcasting s) (hstate : s'.state = s.state)
    (hsettings : s'.broadcastingSettings = s.broadcastingSettings) : Broadcasting s' :=
  ⟨hstate.trans h.state, hsettings.trans h.settings⟩

/-- The modes that are left for a tick. -/
theorem broadcasting_of_running {s : StateMachine} (hstart : s.state ≠ .initializing)
    (hend : ¬ (s.state = .shuttingDown ∨ s.state = .firmwareUpload))
    (hmode : ¬ (s.state = .settingsMode ∨ s.broadcastingSettings = true)) : Broadcasting s := by
  rw [not_or, Bool.not_eq_true] at hmode
  refine ⟨?_, hmode.2⟩
  cases hstate : s.state <;> simp_all

section

variable {W : Type} {E : World Call Call.Ans W} {J K : StateMachine → W → Prop} {s : StateMachine} {w : W}

/-- Specifications of the handlers from the settings timer on. -/
structure DutiesRule (E : World Call Call.Ans W) (J K : StateMachine → W → Prop) : Prop where
  uptime : ∀ {s w}, J s w → Broadcasting s → wp E (Prog.issue .uptimeSeconds) (fun _ => J s) w
  entry : ∀ {s w}, J s w → Broadcasting s → wp E (handleSettingsModeEntry s) K w
  burst : ∀ {s w}, J s w → Broadcasting s → wp E (handleMaxPowerBurst s) J w
  rotation : ∀ {s w}, J s w → Broadcasting s → wp E (handleKeyRotation s) K w
  button : ∀ {s w}, K s w → Broadcasting s → wp E (handleButtonLongpress s) (fun r => K r.2) w
  accelerometer : ∀ {s w}, K s w → Broadcasting s → wp E (handleAccelerometer s) K w
  broadcast : ∀ {s w}, K s w → Broadcasting s → wp E (tickBroadcast s) K w

/-- Specifications of all handlers of a round. -/
structure TickRule (E : World Call Call.Ans W) (J K : StateMachine → W → Prop) : Prop
    extends DutiesRule E J K where
  weaken : ∀ {s w}, J s w → K s w
  sync : ∀ {s w}, J s w → wp E (syncGattState s) J w
  sleep : ∀ {s w}, J s w → wp E (tickSleep s) J w
  exit : ∀ {s w}, J s w → s.state = .settingsMode ∨ s.broadcastingSettings = true →
    wp E (handleSettingsModeExit s) K w
  timeSave : ∀ {s w}, J s w → Broadcasting s → wp E (handleTimeSave s) J w
  batteryCheck : ∀ {s w}, J s w → Broadcasting s → wp E (handleBatteryCheck s) J w
  uvlo : ∀ {s w}, J s w → Broadcasting s → wp E (handleUvloShutdown s) (fun r => J r.2) w
  nokeys : ∀ {s w}, J s w → Broadcasting s → wp E (handleNokeysShutdown s) (fun r => J r.2) w

/-- A specification, and the mode that the footprint of the program gives. -/
theorem wp_mode {α : Type} {p : Main α} {Q : α → W → Prop} {S : α → Prop} (h : wp E p Q w)
    (hp : wp (calls (.any True True)) p (fun a _ => S a) ()) : wp E p (fun a w => Q a w ∧ S a) w :=
  wp_and_free (fun _ c a _ _ => answers_of_config (fun _ => trivial) c a) h hp

theorem handleKeyRotation_modes {u : Unit} : wp (calls (.any True True)) (handleKeyRotation s)
    (fun s' _ => s'.state = s.state ∧ s'.broadcastingSettings = s.broadcastingSettings) u := by
  simp [handleKeyRotation, setMacFromCurrentKey, broadcast_calls, Policy.any]

/-- Where the surroundings move, they must keep what the tick leaves. -/
theorem DutiesRule.tickDuties_of_stable (h : DutiesRule E J K) (hK : ∀ s w w', K s w → E.move w w' → K s w')
    (hJ : J s w) (hs : Broadcasting s) : wp E (tickDuties s) K w := by
  refine wp_seq (h.uptime hJ hs) ?_
  intro now w₁ h₁
  rw [wp_ite]
  refine ⟨fun _ => h.entry h₁ hs, fun _ => ?_⟩
  refine wp_seq (wp_mode (h.burst h₁ hs) handleMaxPowerBurst_calls) ?_
  rintro s₂ w₂ ⟨h₂, t, -, hs₂⟩
  have hb₂ : Broadcasting s₂ := hs.same (by rw [hs₂]) (by rw [hs₂])
  refine wp_seq (wp_mode (h.rotation h₂ hb₂) handleKeyRotation_modes) ?_
  rintro s₃ w₃ ⟨h₃, hstate, hsettings⟩
  have hb₃ : Broadcasting s₃ := hb₂.same hstate hsettings
  refine wp_seq (wp_mode (h.button h₃ hb₃)
    (handleButtonLongpress_calls Policy.any_sound trivial trivial)) ?_
  rintro r w₄ ⟨h₄, hr⟩
  rcases hr with rfl | rfl
  · refine wp_seq (wp_mode (h.accelerometer h₄ hb₃) handleAccelerometer_calls) ?_
    rintro s₅ w₅ ⟨h₅, t, -, hs₅⟩
    exact h.broadcast h₅ (hb₃.same (by rw [hs₅]) (by rw [hs₅]))
  · exact wp_ret_of_stable h₄ (hK _)

theorem DutiesRule.tickDuties [E.Sequential] (h : DutiesRule E J K) (hJ : J s w) (hs : Broadcasting s) :
    wp E (tickDuties s) K w :=
  h.tickDuties_of_stable (fun _ _ _ _ hm => absurd hm (World.Sequential.no_move _ _)) hJ hs

/-- The rest of a broadcasting tick, where the hourly save has a specification of its own. -/
theorem DutiesRule.tickBroadcasting (h : DutiesRule E J K) (hweaken : ∀ {s w}, J s w → K s w)
    (htime : wp E (handleTimeSave s) J w)
    (hbattery : ∀ {s w}, J s w → Broadcasting s → wp E (handleBatteryCheck s) J w)
    (huvlo : ∀ {s w}, J s w → Broadcasting s → wp E (handleUvloShutdown s) (fun r => J r.2) w)
    (hnokeys : ∀ {s w}, J s w → Broadcasting s → wp E (handleNokeysShutdown s) (fun r => J r.2) w)
    (hK : ∀ s w w', K s w → E.move w w' → K s w') (hs : Broadcasting s) : wp E (tickBroadcasting s) K w := by
  refine wp_seq (wp_mode htime handleTimeSave_calls) ?_
  rintro s₁ w₁ ⟨h₁, t, -, hs₁⟩
  have hb₁ : Broadcasting s₁ := hs.same (by rw [hs₁]) (by rw [hs₁])
  refine wp_seq (wp_mode (hbattery h₁ hb₁) (handleBatteryCheck_calls trivial trivial)) ?_
  rintro s₂ w₂ ⟨h₂, hstate, hsettings⟩
  have hb₂ : Broadcasting s₂ := hb₁.same hstate hsettings
  refine wp_seq (wp_mode (huvlo h₂ hb₂) (handleUvloShutdown_calls trivial trivial)) ?_
  rintro r w₃ ⟨h₃, n, b, hr⟩
  rcases hr with rfl | rfl
  · refine wp_seq (wp_mode (hnokeys h₃ (hb₂.same rfl rfl)) handleNokeysShutdown_calls) ?_
    rintro r w₄ ⟨h₄, hr⟩
    rcases hr with rfl | rfl
    · exact h.tickDuties_of_stable hK h₄ (hb₂.same rfl rfl)
    · exact wp_ret_of_stable (hweaken h₄) (hK _)
  · exact wp_ret_of_stable (hweaken h₃) (hK _)

namespace TickRule

theorem tickBroadcasting (h : TickRule E J K) (hK : ∀ s w w', K s w → E.move w w' → K s w') (hJ : J s w)
    (hs : Broadcasting s) : wp E (tickBroadcasting s) K w :=
  h.toDutiesRule.tickBroadcasting h.weaken (h.timeSave hJ hs) h.batteryCheck h.uvlo h.nokeys hK hs

theorem tick (h : TickRule E J K) (hK : ∀ s w w', K s w → E.move w w' → K s w') (hJ : J s w)
    (hs : s.state ≠ .initializing) : wp E (tick s) K w := by
  by_cases hend : s.state = .shuttingDown ∨ s.state = .firmwareUpload
  · rw [tick_of_ended hend]
    exact wp_ret_of_stable (h.weaken hJ) (hK _)
  rw [tick_of_running hend]
  refine wp_seq (wp_mode (h.sleep hJ) (tickSleep_calls Policy.any_sound)) ?_
  rintro s₁ w₁ ⟨h₁, n, -, hs₁⟩
  have hstate : s₁.state = s.state := by rw [hs₁]
  rw [wp_ite]
  rw [← hstate] at hs hend
  exact ⟨fun hmode => h.exit h₁ hmode,
    fun hmode => h.tickBroadcasting hK h₁ (broadcasting_of_running hs hend hmode)⟩

/-- What the handlers keep, a round of the main loop keeps. -/
theorem mainLoop [E.Sequential] (h : TickRule E J K) (hJ : J s w) (hs : s.state ≠ .initializing) :
    wp E (mainLoop s) K w := by
  refine wp_seq (wp_mode (h.sync hJ) syncGattState_calls) ?_
  rintro s₁ w₁ ⟨h₁, f, hs₁⟩
  exact h.tick (fun _ _ _ _ hm => absurd hm (World.Sequential.no_move _ _)) h₁ (by rw [hs₁]; exact hs)

end TickRule

end

/-! ## A machine that was started -/

section

variable {s : StateMachine} {u : Unit}

theorem started_rule : TickRule (calls (.any True True)) (fun s _ => s.state ≠ .initializing)
    (fun s _ => s.state ≠ .initializing) where
  weaken h := h
  sync h := wp_mono (fun _ _ ⟨f, hs⟩ => hs ▸ h) syncGattState_calls
  sleep h := wp_mono (fun _ _ ⟨n, _, hs⟩ => hs ▸ h) (tickSleep_calls Policy.any_sound)
  exit h _ := wp_mono (fun _ _ hs => hs.started h)
    (handleSettingsModeExit_calls Policy.any_sound trivial trivial fun _ => trivial)
  timeSave h _ := wp_mono (fun _ _ hs => hs.sameBattery.started h) handleTimeSave_calls
  batteryCheck h _ := wp_mono (fun _ _ hs => hs.1 ▸ h) (handleBatteryCheck_calls trivial trivial)
  uvlo h _ := by
    refine wp_mono ?_ (handleUvloShutdown_calls trivial trivial)
    rintro r _ ⟨n, b, rfl | rfl⟩
    · exact h
    · exact (by nofun)
  nokeys h _ := by
    refine wp_mono ?_ handleNokeysShutdown_calls
    rintro r _ (rfl | rfl)
    · exact h
    · exact (by nofun)
  uptime h _ := by simpa using h
  entry h _ := wp_mono (fun _ _ hs => hs.started h) (handleSettingsModeEntry_calls trivial trivial)
  burst h _ := wp_mono (fun _ _ hs => hs.sameBattery.started h) handleMaxPowerBurst_calls
  rotation h _ := wp_mono (fun _ _ hs => hs.1.started h) (handleKeyRotation_calls Policy.any_sound trivial)
  button h _ := by
    refine wp_mono ?_ (handleButtonLongpress_calls Policy.any_sound trivial trivial)
    rintro r _ (rfl | rfl)
    · exact h
    · exact (by nofun)
  accelerometer h _ := wp_mono (fun _ _ hs => hs.sameBattery.started h) handleAccelerometer_calls
  broadcast h _ := wp_mono (fun _ _ hs => hs.1.started h) (tickBroadcast_calls trivial)

theorem mainLoop_started (h : s.state ≠ .initializing) :
    wp (calls (.any True True)) (mainLoop s) (fun s' _ => s'.state ≠ .initializing) u :=
  started_rule.mainLoop h h

theorem initializeMachine_started :
    wp (calls (.any True True)) (initializeMachine s) (fun s' _ => s'.state ≠ .initializing) u := by
  refine wp_mono ?_ (initializeMachine_calls Policy.any_sound trivial trivial)
  rintro s' _ (h | h)
  · rw [h]
    nofun
  · rw [h]
    nofun

/-- A round of a machine that has shut down copies the flags and does nothing else. -/
theorem mainLoop_shutDown (hs : s.state = .shuttingDown) :
    wp (calls (.any True True)) (mainLoop s) (fun s' _ => s'.state = .shuttingDown) u := by
  refine wp_seq syncGattState_calls ?_
  rintro s₁ _ ⟨f, hs₁⟩
  have hdown : s₁.state = .shuttingDown := by rw [hs₁]; exact hs
  rw [tick_of_ended (.inl hdown), wp_pure]
  exact hdown

/-- Reached from `initialize` in any number of ticks, whatever the calls answer. -/
def Reachable (s : StateMachine) : Prop :=
  ∃ u, Boundary (calls (.any True True)) (initializeMachine {}) mainLoop (fun _ => True) s u

theorem Reachable.started (h : Reachable s) : s.state ≠ .initializing := by
  obtain ⟨u, h⟩ := h
  exact boundary_inv (fun _ _ => initializeMachine_started) (fun _ _ h => mainLoop_started h) h

theorem reaches_of_answers {α : Type} {p : Main α} {a : α} {cfg : BeaconConfig} {now : UInt32}
    (h : p.play (fun _ c => some (answers cfg now 3000 c, ())) () = some (a, u)) :
    Reaches (calls (.any True True)) (p, ()) (.ret a, u) := by
  refine reaches_of_play (fun w c x hx => ?_) h
  cases hx
  exact answers_of_config (fun _ => trivial) c _

/-- A start at rest, played. -/
theorem Reachable.of_play {cfg : BeaconConfig}
    (h : ((initializeMachine {}).play (fun _ c => some (answers cfg 0 3000 c, ())) ()) = some (s, u)) :
    Reachable s := ⟨u, .start trivial (reaches_of_answers h)⟩

/-- A tick at rest, played. -/
theorem Reachable.tick_of_play {s' : StateMachine} {cfg : BeaconConfig} {now : UInt32} (hs : Reachable s)
    (h : ((mainLoop s).play (fun _ c => some (answers cfg now 3000 c, ())) ()) = some (s', u)) :
    Reachable s' := by
  obtain ⟨u₀, hs⟩ := hs
  exact ⟨u, .iter hs (reaches_of_answers h)⟩

end

end Everytag
