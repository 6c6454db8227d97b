import Everytag.Radio
import Everytag.Tick

/-!
# Alternation

With both protocols on, the last handler of a broadcasting tick starts the AirTag or puts the other payload on
air.  The battery check and the rotation before it refresh or restart the payload that was there, so a tick that
ends in broadcasting swaps the two booleans once (`mainLoop_swaps`); and the booleans say what is on air
(`Shown`).  From the first tick after a start or a settings window on, the payloads take turns
(`strict_alternation`).
-/

namespace Everytag

open Interaction StateMachine

/-- Both protocols are on. -/
structure BothOn (cfg : BeaconConfig) : Prop where
  airtag : cfg.flagAirtag = true
  fmdn : cfg.flagFmdn = true

/-- Nothing promised, for configurations with both protocols. -/
def Policy.bothOn : Policy := { Policy.any True True with config := BothOn }

theorem Policy.bothOn_sound : Policy.bothOn.Sound :=
  ⟨fun _ _ => trivial, fun _ _ => trivial, fun _ _ _ _ => trivial⟩

@[simp] theorem Policy.bothOn_radio : Policy.bothOn.radio := trivial

@[simp] theorem Policy.bothOn_mode : Policy.bothOn.mode := trivial

@[simp] theorem Policy.bothOn_reading : Policy.bothOn.reading := trivial

@[simp] theorem Policy.bothOn_sleep (ms : UInt32) : Policy.bothOn.sleep ms := trivial

@[simp] theorem Policy.bothOn_index (i : UInt8) : Policy.bothOn.index i := trivial

/-- The uptime read last; it does not go back. -/
@[simp] def clockNext (t : UInt32) : (c : Call) → c.Ans → UInt32 → Prop
  | .uptimeSeconds, now, t' => t ≤ now ∧ t' = now
  | _, _, t' => t' = t

/-- The clock of a device with both protocols on. -/
def clocked : World Call Call.Ans UInt32 where
  allowed _ _ := True
  step t c a t' := Answers .bothOn c a ∧ clockNext t c a t'
  move _ _ := False

section

variable {s s' : StateMachine} {t t' : UInt32} {u : Unit}

instance : clocked.Sequential := ⟨fun _ _ h => h⟩

@[simp] theorem clocked_allowed (c : Call) : clocked.allowed t c ↔ True := Iff.rfl

@[simp] theorem clocked_step (c : Call) (a : c.Ans) :
    clocked.step t c a t' ↔ Answers .bothOn c a ∧ clockNext t c a t' := Iff.rfl

theorem wp_clocked {α : Type} {p : Main α} {Q : α → Prop} (hp : wp (calls .bothOn) p (fun a _ => Q a) ()) :
    wp clocked p (fun a _ => Q a) t :=
  wp_mono (fun _ _ h => h.1) (wp_frame (E := clocked) hp (fun _ => True) (fun _ _ _ _ => trivial)
    (fun _ _ _ _ => ⟨trivial, fun _ _ h => ⟨h.1, trivial⟩⟩) trivial)

/-! ## Handlers that keep the protocol -/

/-- The same mode, and the same protocol to be shown. -/
@[mk_iff sameProtocol_iff]
structure SameProtocol (s s' : StateMachine) : Prop where
  state : s'.state = s.state
  settings : s'.broadcastingSettings = s.broadcastingSettings
  airtag : s'.broadcastingAirtag = s.broadcastingAirtag
  fmdn : s'.broadcastingFmdn = s.broadcastingFmdn

theorem handleBatteryCheck_sameProtocol :
    wp (calls .bothOn) (handleBatteryCheck s) (fun s' _ => SameProtocol s s') u := by
  simp [handleBatteryCheck, updateBattery, updateStatus, broadcast_calls, sameProtocol_iff]

theorem handleKeyRotation_sameProtocol :
    wp (calls .bothOn) (handleKeyRotation s) (fun s' _ => SameProtocol s s') u := by
  simp [handleKeyRotation, setMacFromCurrentKey, broadcast_calls, sameProtocol_iff]

/-! ## A tick -/

/-- The other protocol, or the AirTag if there was none. -/
structure Swapped (s s' : StateMachine) : Prop where
  airtag : s'.broadcastingAirtag = !s.broadcastingAirtag
  fmdn : s'.broadcastingFmdn = s.broadcastingAirtag

theorem broadcast_swapped (h : Swapped s s') : wp (calls .bothOn) (broadcast s') (fun s'' _ => Swapped s s'') u :=
  broadcast_calls trivial fun _ => ⟨h.1, h.2⟩

/-- In an update as well as in a start. -/
theorem tickBroadcast_swaps : wp (calls .bothOn) (tickBroadcast s) (fun s' _ => Swapped s s') u := by
  have hA (cfg : BeaconConfig) (h : Policy.bothOn.config cfg) : cfg.flagAirtag = true := h.airtag
  have hF (cfg : BeaconConfig) (h : Policy.bothOn.config cfg) : cfg.flagFmdn = true := h.fmdn
  by_cases hshown : s.broadcastingAirtag = true
  · have hnext : Swapped s { s with broadcastingAirtag := false, broadcastingFmdn := true } := by
      constructor <;> simp [hshown]
    simp +contextual [tickBroadcast, handleAirtagFmdnAlternation, hshown, hA, hF, broadcast_swapped hnext]
  · rw [Bool.not_eq_true] at hshown
    have hnext : Swapped s { s with broadcastingAirtag := true, broadcastingFmdn := false } := by
      constructor <;> simp [hshown]
    cases hfmdn : s.broadcastingFmdn <;>
      simp +contextual [tickBroadcast, handleInitialBroadcast, handleAirtagFmdnAlternation, hshown, hfmdn, hA, hF,
        broadcast_swapped hnext]

/-- A settings window that is due opens. -/
theorem handleSettingsModeEntry_due (hdue : s.timers.settingsMode + kIntervalSettings ≤ t) :
    wp clocked (handleSettingsModeEntry s) (fun s' _ => s'.state = .settingsMode) t := by
  have hlate (now : UInt32) (h : t ≤ now) : ¬ now < s.timers.settingsMode + kIntervalSettings :=
    UInt32.not_lt.2 (UInt32.le_trans hdue h)
  simp +contextual [handleSettingsModeEntry, useSettingsMac, hlate]

theorem tickDuties_swaps :
    wp clocked (tickDuties s) (fun s' _ => s'.state = .broadcasting → Swapped s s') t := by
  refine wp_call _ trivial ?_
  rintro now _ ⟨-, hle, rfl⟩
  rw [wp_ite]
  constructor
  · intro hdue
    refine wp_mono ?_ (handleSettingsModeEntry_due hdue)
    intro s' _ hset hstate
    exact absurd (hset.symm.trans hstate) (by decide)
  · intro _
    refine wp_seq (wp_clocked handleMaxPowerBurst_calls) ?_
    rintro s₁ _ ⟨t, -, rfl⟩
    refine wp_seq (wp_clocked handleKeyRotation_sameProtocol) ?_
    intro s₂ _ h₂
    refine wp_seq (wp_clocked (handleButtonLongpress_calls Policy.bothOn_sound trivial trivial)) ?_
    rintro r _ (rfl | rfl)
    · refine wp_seq (wp_clocked handleAccelerometer_calls) ?_
      rintro s₃ _ ⟨t, -, rfl⟩
      refine wp_mono ?_ (wp_clocked tickBroadcast_swaps)
      rintro s₄ _ h₄ -
      exact ⟨h₄.airtag.trans (congrArg _ h₂.airtag), h₄.fmdn.trans h₂.airtag⟩
    · exact (wp_pure _ _ _ _).2 (by simp)

theorem mainLoop_swaps (hs : Broadcasting s) :
    wp clocked (mainLoop s) (fun s' _ => s'.state = .broadcasting → Swapped s s') t := by
  refine wp_seq (wp_clocked syncGattState_calls) ?_
  rintro s₁ _ ⟨f, rfl⟩
  rw [tick_of_running (by simp [hs.state])]
  refine wp_seq (wp_clocked (tickSleep_calls Policy.bothOn_sound)) ?_
  rintro s₂ _ ⟨n, -, rfl⟩
  rw [if_neg (by simp [hs.state, hs.settings])]
  refine wp_seq (wp_clocked handleTimeSave_calls) ?_
  rintro s₃ _ ⟨t, -, rfl⟩
  refine wp_seq (wp_clocked handleBatteryCheck_sameProtocol) ?_
  intro s₄ _ h₄
  refine wp_seq (wp_clocked (handleUvloShutdown_calls trivial trivial)) ?_
  rintro r _ ⟨m, b, rfl | rfl⟩
  · refine wp_seq (wp_clocked handleNokeysShutdown_calls) ?_
    rintro r _ (rfl | rfl)
    · refine wp_mono ?_ tickDuties_swaps
      intro s₅ _ h₅ hstate
      have hswap := h₅ hstate
      exact ⟨hswap.airtag.trans (congrArg _ h₄.airtag), hswap.fmdn.trans h₄.airtag⟩
    · exact (wp_pure _ _ _ _).2 (by simp)
  · exact (wp_pure _ _ _ _).2 (by simp)

/-- No protocol is shown. -/
@[mk_iff neither_iff]
structure Neither (s : StateMachine) : Prop where
  airtag : s.broadcastingAirtag = false
  fmdn : s.broadcastingFmdn = false

theorem initializeMachine_neither :
    wp (calls .bothOn) (initializeMachine s) (fun s' _ => s'.state = .broadcasting → Neither s') u := by
  have hstart (u : Unit) :
      wp (calls .bothOn) (startUp s) (fun s' _ => s'.state = .broadcasting → Neither s') u := by
    refine wp_mono ?_ (startUp_started Policy.bothOn_sound trivial trivial)
    rintro _ _ ⟨addr, v, rfl⟩ -
    exact ⟨rfl, rfl⟩
  simp [initializeMachine, hstart]

/-- Without an upload the protocols start afresh; with one, nothing follows. -/
theorem handleSettingsModeExit_neither (hs : s.state = .settingsMode) :
    wp (calls .bothOn) (handleSettingsModeExit s) (fun s' _ => s'.state = .broadcasting → Neither s') u := by
  have hleave (u : Unit) :
      wp (calls .bothOn) (leaveSettings s) (fun s' _ => s'.state = .broadcasting → Neither s') u := by
    simp [leaveSettings, restoreMac, ibeaconFallback, neither_iff]
  have hupload (u : Unit) :
      wp (calls .bothOn) (firmwareUpload s) (fun s' _ => s'.state = .broadcasting → Neither s') u := by
    refine wp_mono ?_ (firmwareUpload_only Policy.bothOn_sound trivial trivial trivial)
    rintro _ _ rfl hstate
    cases hstate
  simp [handleSettingsModeExit, hleave, hupload, hs]

/-- The way back from settings mode. -/
theorem mainLoop_leaves (hs : s.state = .settingsMode) :
    wp (calls .bothOn) (mainLoop s) (fun s' _ => s'.state = .broadcasting → Neither s') u := by
  refine wp_seq syncGattState_calls ?_
  rintro s₁ _ ⟨f, rfl⟩
  rw [tick_of_running (by simp [hs])]
  refine wp_seq (tickSleep_calls Policy.bothOn_sound) ?_
  rintro s₂ _ ⟨n, -, rfl⟩
  rw [if_pos (.inl hs)]
  exact handleSettingsModeExit_neither hs

end

/-! ## What is on air -/

/-- A radio beside the clock. -/
structure ClockedRadio where
  radio : Radio
  latest : UInt32 := 0

/-- A radio with a fixed configuration, and a clock that does not go back. -/
def clockedRadio : World Call Call.Ans ClockedRadio where
  allowed _ _ := True
  step w c a w' := (radio True).step w.radio c a w'.radio ∧ clockNext w.latest c a w'.latest
  move _ _ := False

/-- A device that is off, with the configuration `cfg`. -/
def ClockedRadio.Boots (cfg : BeaconConfig) (w : ClockedRadio) : Prop := w.radio.Off ∧ w.radio.cfg = cfg

/-- `n` ticks in a row that end in broadcasting, since the start or the last settings window. -/
inductive Alternating (cfg : BeaconConfig) : Nat → StateMachine → ClockedRadio → Prop
  | start {s : StateMachine} {w₀ w : ClockedRadio} : w₀.Boots cfg →
      Reaches clockedRadio (initializeMachine {}, w₀) (.ret s, w) → s.state = .broadcasting →
      Alternating cfg 0 s w
  | exit {s s' : StateMachine} {w w' : ClockedRadio} :
      Boundary clockedRadio (initializeMachine {}) mainLoop (·.Boots cfg) s w → s.state = .settingsMode →
      Reaches clockedRadio (mainLoop s, w) (.ret s', w') → s'.state = .broadcasting → Alternating cfg 0 s' w'
  | tick {n : Nat} {s s' : StateMachine} {w w' : ClockedRadio} : Alternating cfg n s w →
      Reaches clockedRadio (mainLoop s, w) (.ret s', w') → s'.state = .broadcasting →
      Alternating cfg (n + 1) s' w'

section

variable {cfg : BeaconConfig} {s s' : StateMachine} {w w' : ClockedRadio} {n : Nat}

theorem Alternating.boundary (h : Alternating cfg n s w) :
    Boundary clockedRadio (initializeMachine {}) mainLoop (·.Boots cfg) s w := by
  induction h with
  | start hw hr _ => exact .start hw hr
  | exit hb _ hr _ => exact .iter hb hr
  | tick _ hr _ ih => exact .iter ih hr

theorem clockedRadio_follows_radio : clockedRadio.Follows (radio True) (fun w r => r = w.radio) where
  step := by
    rintro w r c a w' rfl ⟨hs, -⟩
    exact ⟨w'.radio, hs, rfl⟩
  move h hm := hm.elim

/-- Both protocols stay on. -/
theorem BothOn.step {r r' : Radio} {c : Call} {a : c.Ans} (h : BothOn r.cfg) (hs : (radio True).step r c a r') :
    Answers .bothOn c a ∧ BothOn r'.cfg := by
  obtain ⟨cfg', hcfg, ha, hs⟩ := hs
  obtain rfl : cfg' = r.cfg := by simpa using hcfg
  cases c with
  | config =>
    cases hs
    exact ⟨ha ▸ h, h⟩
  | setTurnedOn v =>
    cases hs
    exact ⟨trivial, h.1, h.2⟩
  | reboot | powerOff => cases hs
  | _ =>
    cases hs
    exact ⟨trivial, h⟩

theorem clockedRadio_follows_clocked :
    clockedRadio.Follows clocked (fun w t => BothOn w.radio.cfg ∧ t = w.latest) where
  step := by
    rintro w t c a w' ⟨hboth, rfl⟩ ⟨hs, hclock⟩
    obtain ⟨ha, hboth'⟩ := hboth.step hs
    exact ⟨w'.latest, ⟨ha, hclock⟩, hboth', rfl⟩
  move h hm := hm.elim

theorem boundary_bothOn (hboth : BothOn cfg)
    (h : Boundary clockedRadio (initializeMachine {}) mainLoop (·.Boots cfg) s w) : BothOn w.radio.cfg := by
  refine boundary_keeps (I := fun w : ClockedRadio => BothOn w.radio.cfg) ?_ ?_ ?_ h
  · rintro w ⟨-, rfl⟩
    exact hboth
  · exact fun _ _ _ hm => hm.elim
  · exact fun _ _ _ _ h hs => (h.step hs.1).2

/-- What a program returns by the clock, it returns here. -/
theorem value_of_clocked {p : Main StateMachine} {Q : StateMachine → Prop} (hboth : BothOn w.radio.cfg)
    (hp : wp clocked p (fun s _ => Q s) w.latest) (h : Reaches clockedRadio (p, w) (.ret s, w')) : Q s := by
  obtain ⟨t, ht, -⟩ := clockedRadio_follows_clocked.reaches h ⟨hboth, rfl⟩
  exact wp_value (wp_reaches hp ht)

theorem boundary_shown (h : Boundary clockedRadio (initializeMachine {}) mainLoop (·.Boots cfg) s w)
    (hs : s.state = .broadcasting) : Shown True s w.radio := by
  obtain ⟨r, hr, rfl⟩ : ∃ r, Boundary (radio True) (initializeMachine {}) mainLoop Radio.Off s r ∧ r = w.radio :=
    clockedRadio_follows_radio.boundary (fun w hw => ⟨w.radio, hw.1, rfl⟩) h
  rcases boundary_inv (fun _ hw => initializeMachine_radio hw) (fun _ _ h => mainLoop_radio h) hr with h | h
  · exact h
  · exact absurd (h.state.symm.trans hs) (by decide)

theorem Alternating.state (h : Alternating cfg n s w) : s.state = .broadcasting := by
  cases h <;> assumption

theorem Shows.of_airtag {flags anything fmdn : Bool} {m : OnAir} (h : Shows flags anything true fmdn m) :
    m = .airtag := by
  cases h
  rfl

theorem Shows.of_fmdn {flags anything airtag : Bool} {m : OnAir} (h : Shows flags anything airtag true m) :
    m = .fmdn := by
  cases h
  rfl

/-- The booleans after `n` ticks. -/
structure Turn (n : Nat) (s : StateMachine) : Prop where
  airtag : s.broadcastingAirtag = decide (n % 2 = 1)
  fmdn : s.broadcastingFmdn = (decide (0 < n) && decide (n % 2 = 0))

theorem Turn.next (h : Turn n s) (hswap : Swapped s s') : Turn (n + 1) s' := by
  constructor
  · rw [hswap.airtag, h.airtag, ← decide_not]
    exact decide_eq_decide.2 (by omega)
  · rw [hswap.fmdn, h.airtag, ← Bool.decide_and]
    exact decide_eq_decide.2 (by omega)

theorem Alternating.turn (hboth : BothOn cfg) (h : Alternating cfg n s w) : Turn n s := by
  induction h with
  | start hw hr hs =>
    have h := value_of_clocked (hw.2 ▸ hboth) (wp_clocked initializeMachine_neither) hr hs
    exact ⟨h.airtag, h.fmdn⟩
  | exit hb hset hr hs =>
    have h := value_of_clocked (boundary_bothOn hboth hb) (wp_clocked (mainLoop_leaves hset)) hr hs
    exact ⟨h.airtag, h.fmdn⟩
  | tick h hr hs ih =>
    have hshown := boundary_shown h.boundary h.state
    exact ih.next (value_of_clocked (boundary_bothOn hboth h.boundary)
      (mainLoop_swaps ⟨h.state, hshown.settings⟩) hr hs)

/-- After the `i`-th tick, counted from 0, the AirTag is on air if `i` is even and FMDN if it is odd. -/
theorem strict_alternation {i : Nat} (hairtag : cfg.flagAirtag = true) (hfmdn : cfg.flagFmdn = true)
    (h : Alternating cfg (i + 1) s w) : w.radio.onAir = if i % 2 = 0 then .airtag else .fmdn := by
  have hboth : BothOn cfg := ⟨hairtag, hfmdn⟩
  have hshown := (boundary_shown h.boundary h.state).onAir
  have hturn := h.turn hboth
  by_cases heven : i % 2 = 0
  · have hA : s.broadcastingAirtag = true := by
      rw [hturn.airtag]
      exact decide_eq_true (by omega)
    rw [hA] at hshown
    rw [if_pos heven, hshown.of_airtag]
  · have hF : s.broadcastingFmdn = true := by
      rw [hturn.fmdn, ← Bool.decide_and]
      exact decide_eq_true (by omega)
    rw [hF] at hshown
    rw [if_neg heven, hshown.of_fmdn]

end

/-- A device at rest, at the uptime `now`. -/
def ClockedRadio.serve (now : UInt32) (w : ClockedRadio) (c : Call) : Option (c.Ans × ClockedRadio) :=
  if w.latest ≤ now then
    (w.radio.serve now c).map fun x => (x.1, ⟨x.2, if c = .uptimeSeconds then now else w.latest⟩)
  else none

theorem clockedRadio_step_serve {now : UInt32} (w : ClockedRadio) (c : Call) (x : c.Ans × ClockedRadio)
    (hx : w.serve now c = some x) : clockedRadio.step w c x.1 x.2 := by
  obtain ⟨hle, hx⟩ := Option.ite_none_right_eq_some.1 hx
  obtain ⟨y, hy, rfl⟩ := Option.map_eq_some_iff.1 hx
  refine ⟨radio_step_serve w.radio c y hy, ?_⟩
  obtain ⟨r, -, rfl⟩ := Option.map_eq_some_iff.1 hy
  cases c with
  | uptimeSeconds => exact ⟨hle, rfl⟩
  | _ => rfl

/-- The first two ticks of a device with both protocols: FMDN is on air after the second. -/
theorem strict_alternation_second : ∃ s w, Alternating { oneKey with flagFmdn := true } 2 s w ∧
    w.radio.onAir = .fmdn := by
  let off : ClockedRadio := { radio :=
    ⟨false, .none, false, { oneKey with flagFmdn := true }, .replicate 6 0, .replicate 6 0, .replicate 28 0⟩ }
  obtain ⟨x₀, h₀, x₁, h₁, x₂, h₂, hs₀, hs₁, hs₂⟩ :
      ∃ x₀ ∈ (initializeMachine {}).play (ClockedRadio.serve 0) off,
      ∃ x₁ ∈ (mainLoop x₀.1).play (ClockedRadio.serve 1) x₀.2,
      ∃ x₂ ∈ (mainLoop x₁.1).play (ClockedRadio.serve 3) x₁.2,
      x₀.1.state = .broadcasting ∧ x₁.1.state = .broadcasting ∧ x₂.1.state = .broadcasting := by decide
  have hrun : Alternating { oneKey with flagFmdn := true } 2 x₂.1 x₂.2 :=
    .tick (.tick (.start ⟨⟨rfl, rfl, rfl⟩, rfl⟩ (reaches_of_play clockedRadio_step_serve h₀) hs₀)
      (reaches_of_play clockedRadio_step_serve h₁) hs₁) (reaches_of_play clockedRadio_step_serve h₂) hs₂
  exact ⟨x₂.1, x₂.2, hrun, strict_alternation rfl rfl hrun⟩

end Everytag
