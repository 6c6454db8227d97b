import Everytag.Tick
import Everytag.Watchdog

/-!
# How old the saved time gets

Only sleeps and blinks take time, and a device can be cut off in the middle of one.  `ageing` measures the time
since the last `store_time`, and what of it passes after the button was last seen pressed.  The hourly save is
looked after at the head of every broadcasting tick; from there on a tick, a settings visit with its waits and
the wait of an upload add seconds to the hour, and nothing else does.
-/

namespace Everytag

open Interaction StateMachine

/-- Milliseconds that a call takes; the device sleeps before it powers off. -/
@[simp] def Call.lasts : Call → Nat
  | .powerOff => 500
  | .sleepMs ms => ms.toNat
  | .blinkLed count fast => blinkDelay count fast
  | _ => 0

/-- Milliseconds since the start. -/
structure Age where
  time : Nat := 0
  /-- the time of the last save -/
  saved : Nat := 0
  /-- the button, as it was seen last -/
  pressed : Bool := false
  /-- how long it has been pressed since the last save -/
  held : Nat := 0
  on : Bool := true
deriving DecidableEq, Repr

namespace Age

@[simp] def pass (w : Age) (ms : Nat) : Age :=
  { w with time := w.time + ms, held := if w.pressed then w.held + ms else w.held }

@[simp] def save (w : Age) : Age := { w with saved := w.time, held := 0 }

@[simp] def off (w : Age) : Age := { w with on := false }

/-- What a call leaves.  `reboot` saves at the seconds of eight rounds, and waits for another one. -/
@[simp] def Done (w : Age) : (c : Call) → c.Ans → Age → Prop
  | .uptimeSeconds, now, w' => now.toNat = w.time / 1000 ∧ w' = w
  | .buttonPressed, pressed, w' => w' = { w with pressed := pressed }
  | .storeTime, _, w' => w' = w.save
  | .powerOff, _, w' => w' = (w.pass 500).off
  | .reboot, _, w' => ∃ k < 8, ∃ ms ≤ 2000, w' = ((w.pass (1000 * k)).save.pass ms).off
  | c, _, w' => w' = w.pass c.lasts

/-- The power can be cut at any time. -/
def Cut (w : Age) (c : Call) (w' : Age) : Prop := ∃ ms ≤ c.lasts, w' = (w.pass ms).off

/-- An hour and seventeen seconds, and what the button adds. -/
def Fresh (w : Age) : Prop := w.time ≤ w.saved + 3617000 + w.held

theorem Fresh.of_pass {w : Age} {ms n : Nat} (h : (w.pass n).Fresh) (hms : ms ≤ n) : (w.pass ms).Fresh := by
  simp only [Fresh, pass] at h ⊢
  split at h <;> split <;> omega

end Age

/-- Configurations are valid, and the uptime stays clear of the end of its range. -/
def ageing : World Call Call.Ans Age where
  allowed w c := w.on = true → (w.pass c.lasts).Fresh
  step w c a w' := w.on = true ∧ Answers .valid c a ∧ w'.time / 1000 < 4294960096 ∧
    (w.Done c a w' ∨ w.Cut c w')
  move _ _ := False

instance : ageing.Sequential := ⟨fun _ _ h => h⟩

section

variable {s s' : StateMachine} {w w' : Age} {u : UInt32} {n : Nat}

/-- With the last hourly save at `u`: the time is saved then or later, and that was `n` milliseconds ago or
less, not counting the button. -/
structure Aged (n : Nat) (u : UInt32) (w : Age) : Prop where
  hourly : w.on = true → 1000 * u.toNat ≤ w.saved
  saved_le : w.on = true → w.saved ≤ w.time
  bound : w.on = true → w.time ≤ w.saved + n + w.held
  clear : w.on = true → w.time / 1000 < 4294960096

theorem Aged.mono {m : Nat} (h : Aged n u w) (hm : n ≤ m) : Aged m u w :=
  { h with bound := fun hon => by have := h.bound hon; omega }

theorem Aged.of_off (h : w.on = false) : Aged n u w := by
  refine ⟨fun hon => ?_, fun hon => ?_, fun hon => ?_, fun hon => ?_⟩ <;> rw [h] at hon <;> cases hon

theorem Aged.allowed {c : Call} (h : Aged n u w) (hn : n + c.lasts ≤ 3617000) : ageing.allowed w c := by
  intro hon
  have hb := h.bound hon
  simp only [Age.Fresh, Age.pass]
  split <;> omega

theorem Aged.allowed_moment {c : Call} (h : Aged n u w) (hc : c.lasts = 0) (hn : n ≤ 3617000) :
    ageing.allowed w c :=
  h.allowed (by rw [hc]; exact hn)

theorem Aged.pass {ms : Nat} (h : Aged n u w) (hclear : (w.time + ms) / 1000 < 4294960096) :
    Aged (n + ms) u (w.pass ms) := by
  refine ⟨h.hourly, fun hon => Nat.le_add_right_of_le (h.saved_le hon), fun hon => ?_, fun _ => hclear⟩
  have hb := h.bound hon
  simp only [Age.pass]
  split <;> omega

/-- Time with the button pressed does not count. -/
theorem Aged.hold {ms : Nat} (h : Aged n u w) (hp : w.pressed = true)
    (hclear : (w.time + ms) / 1000 < 4294960096) : Aged n u (w.pass ms) := by
  refine ⟨h.hourly, fun hon => Nat.le_add_right_of_le (h.saved_le hon), fun hon => ?_, fun _ => hclear⟩
  have hb := h.bound hon
  simp only [Age.pass, hp, if_true]
  omega

theorem Aged.step {c : Call} {a : c.Ans} (h : Aged n u w) (hs : ageing.step w c a w') :
    Aged (n + c.lasts) u w' := by
  obtain ⟨hon, -, hclear, hdone | ⟨ms, -, rfl⟩⟩ := hs
  · cases c with
    | uptimeSeconds =>
      obtain ⟨-, rfl⟩ := hdone
      exact h
    | buttonPressed =>
      cases hdone
      exact ⟨h.hourly, h.saved_le, h.bound, h.clear⟩
    | storeTime =>
      cases hdone
      exact ⟨fun hon => (h.hourly hon).trans (h.saved_le hon), fun _ => le_refl _,
        fun _ => by simp only [Age.save]; omega, h.clear⟩
    | powerOff =>
      cases hdone
      exact .of_off rfl
    | reboot =>
      obtain ⟨k, -, ms, -, rfl⟩ := hdone
      exact .of_off rfl
    | _ =>
      cases hdone
      exact h.pass hclear
  · exact .of_off rfl

/-- A call is completed, or it is the last one. -/
theorem done_of_step {c : Call} {a : c.Ans} (hs : ageing.step w c a w') : w.Done c a w' ∨ w'.on = false := by
  refine hs.2.2.2.imp_right ?_
  rintro ⟨ms, -, rfl⟩
  rfl

theorem wp_spend {α : Type} {c : Call} {m : Nat} {p : c.Ans → Main α} {Q : α → Age → Prop} (hc : c.lasts = m)
    (h : Aged n u w) (hn : n + m ≤ 3617000)
    (hp : ∀ a w', Answers .valid c a → Aged (n + m) u w' → wp ageing (p a) Q w') :
    wp ageing (issue c >>= p) Q w := by
  subst hc
  refine wp_call _ (h.allowed hn) ?_
  intro a w' hs
  exact hp a w' hs.2.1 (h.step hs)

/-- A call that takes no time. -/
theorem wp_moment {α : Type} {c : Call} {p : c.Ans → Main α} {Q : α → Age → Prop} (hc : c.lasts = 0)
    (h : Aged n u w) (hn : n ≤ 3617000)
    (hp : ∀ a w', Answers .valid c a → Aged n u w' → wp ageing (p a) Q w') : wp ageing (issue c >>= p) Q w :=
  wp_spend hc h hn hp

/-- A call that does not return. -/
theorem wp_end {α : Type} {c : Call} {p : c.Ans → Main α} {Q : α → Age → Prop}
    (hc : c = .powerOff ∨ c = .reboot) (h : Aged n u w) (hn : n + 500 ≤ 3617000)
    (hp : ∀ a w', w'.on = false → wp ageing (p a) Q w') : wp ageing (issue c >>= p) Q w := by
  have hlasts : c.lasts ≤ 500 := by rcases hc with rfl | rfl <;> decide
  refine wp_call _ (h.allowed (by omega)) ?_
  intro a w' hs
  refine hp a w' ((done_of_step hs).elim (fun hdone => ?_) id)
  rcases hc with rfl | rfl
  · cases hdone
    rfl
  · obtain ⟨k, -, ms, -, rfl⟩ := hdone
    rfl

/-- Programs that take no time. -/
abbrev momentary : World Call Call.Ans Unit := free (fun c => c.lasts = 0) fun _ _ => True

theorem wp_momentary {α : Type} {p : Main α} {Q : α → Prop} (hp : wp momentary p (fun a _ => Q a) ())
    (h : Aged n u w) (hn : n ≤ 3617000) : wp ageing p (fun a w' => Q a ∧ Aged n u w') w := by
  refine wp_frame (E := ageing) hp (Aged n u) (fun _ _ _ h => h.elim) (fun w₁ c hc h₁ => ?_) h
  have hstill : n + c.lasts = n := congrArg (n + ·) hc
  refine ⟨h₁.allowed (by omega), fun a w₂ hs => ⟨trivial, ?_⟩⟩
  exact hstill ▸ h₁.step hs

/-- Without power nothing happens any more. -/
theorem wp_off {α : Type} {p : Main α} {Q : α → Age → Prop} (h : w.on = false)
    (hQ : ∀ a w', w'.on = false → Q a w') : wp ageing p Q w := by
  refine wp_mono hQ (wp_invariant (E := ageing) (fun w => w.on = false) (fun _ _ _ h => h.elim)
    (fun w c h => ⟨fun hon => ?_, fun a w' hs => ?_⟩) p h)
  · rw [h] at hon
    cases hon
  · rw [hs.1] at h
    cases h

/-- A reading is the time in seconds. -/
theorem wp_seconds {α : Type} {p : UInt32 → Main α} {Q : α → Age → Prop} (h : Aged n u w) (hn : n ≤ 3617000)
    (hQ : ∀ a w', w'.on = false → Q a w')
    (hp : ∀ now, w.on = true → now.toNat = w.time / 1000 → wp ageing (p now) Q w) :
    wp ageing (issue .uptimeSeconds >>= p) Q w := by
  refine wp_call _ (h.allowed_moment rfl hn) ?_
  intro now w' hs
  rcases done_of_step hs with hdone | hoff
  · obtain ⟨hnow, rfl⟩ := hdone
    exact hp now hs.1 hnow
  · exact wp_off hoff hQ

/-- The answer is how the button was seen. -/
theorem wp_button {α : Type} {p : Bool → Main α} {Q : α → Age → Prop} (h : Aged n u w) (hn : n ≤ 3617000)
    (hQ : ∀ a w', w'.on = false → Q a w')
    (hp : ∀ pressed w', Aged n u w' → w'.pressed = pressed → wp ageing (p pressed) Q w') :
    wp ageing (issue .buttonPressed >>= p) Q w := by
  refine wp_call _ (h.allowed_moment rfl hn) ?_
  intro pressed w' hs
  rcases done_of_step hs with hdone | hoff
  · cases hdone
    exact hp pressed _ ⟨h.hourly, h.saved_le, h.bound, h.clear⟩ rfl
  · exact wp_off hoff hQ

/-- A sleep with the button pressed. -/
theorem wp_hold {α : Type} {ms : UInt32} {p : Main α} {Q : α → Age → Prop} (h : Aged n u w) (hn : n ≤ 3617000)
    (hpressed : w.pressed = true) (hp : ∀ w', Aged n u w' → wp ageing p Q w') :
    wp ageing (do issue (.sleepMs ms); p) Q w := by
  refine wp_call _ (fun hon => ?_) ?_
  · have hb := h.bound hon
    simp only [Age.Fresh, Age.pass, hpressed, if_true, Call.lasts]
    omega
  · intro _ w' hs
    refine hp w' ((done_of_step hs).elim (fun hdone => ?_) .of_off)
    cases hdone
    exact h.hold hpressed hs.2.2.1

theorem waitButtonRelease_aged {ms : UInt32} (h : Aged n u w) (hn : n ≤ 3617000) :
    wp ageing (waitButtonRelease ms) (fun _ => Aged n u) w := by
  refine wp_loop ageing (Aged n u) h ?_
  intro w₁ h₁
  refine ⟨h₁.allowed_moment rfl hn, fun pressed w₂ hs => ?_⟩
  have hstep : Aged n u w₂ ∧ (w₂.pressed = pressed ∨ w₂.on = false) := by
    refine (done_of_step hs).elim (fun hdone => ?_) fun hoff => ⟨.of_off hoff, .inr hoff⟩
    cases hdone
    exact ⟨⟨h₁.hourly, h₁.saved_le, h₁.bound, h₁.clear⟩, .inl rfl⟩
  obtain ⟨h₂, hseen⟩ := hstep
  refine ⟨fun htrue => ?_, fun _ => (wp_pure _ _ _ _).2 h₂⟩
  rcases hseen with hpressed | hoff
  · refine wp_hold h₂ hn (hpressed.trans htrue) ?_
    intro w₃ h₃
    exact wp_mono (fun _ _ h => h.2) (wp_momentary (Q := fun _ => True) (by simp) h₃ hn)
  · exact wp_off hoff fun _ _ h => .of_off h

structure Age.Still (w w' : Age) : Prop where
  on : w'.on = w.on
  time : w'.time = w.time
  saved : w'.saved = w.saved
  held : w'.held = w.held

/-- Where no time passes and nothing is saved, all stays as it is. -/
theorem wp_still_on {α : Type} {p : Main α} {Q : α → Prop}
    (hp : wp (free (fun c => c.lasts = 0 ∧ c ≠ .storeTime) fun _ _ => True) p (fun a _ => Q a) ())
    (h : Aged n u w) (hn : n ≤ 3617000) :
    wp ageing p (fun a w' => Q a ∧ Aged n u w' ∧ (w'.on = false ∨ w.Still w')) w := by
  refine wp_frame (E := ageing) hp (fun w' => Aged n u w' ∧ (w'.on = false ∨ w.Still w'))
    (fun _ _ _ h => h.elim)
    (fun w₁ c hc h₁ => ⟨h₁.1.allowed_moment hc.1 hn, fun a w₂ hs => ⟨trivial, ?_, ?_⟩⟩)
    ⟨h, .inr ⟨rfl, rfl, rfl, rfl⟩⟩
  · have h₂ := h₁.1.step hs
    rwa [hc.1] at h₂
  · have hsame := h₁.2.resolve_left (by rw [hs.1]; decide)
    refine (done_of_step hs).elim (fun hdone => ?_) .inl
    cases c with
    | uptimeSeconds =>
      obtain ⟨-, rfl⟩ := hdone
      exact .inr hsame
    | buttonPressed =>
      cases hdone
      exact .inr ⟨hsame.on, hsame.time, hsame.saved, hsame.held⟩
    | storeTime => exact absurd rfl hc.2
    | reboot =>
      obtain ⟨k, -, ms, -, rfl⟩ := hdone
      exact .inl rfl
    | powerOff => cases hc.1
    | _ =>
      cases hdone
      rw [hc.1]
      refine .inr ⟨hsame.on, hsame.time, hsame.saved, ?_⟩
      simpa using hsame.held

/-! ## The hourly save -/

theorem handleTimeSave_aged (h : Aged 3617000 s.timers.timeSave w) :
    wp ageing (handleTimeSave s) (fun s' w' => Aged 3600000 s'.timers.timeSave w') w := by
  refine wp_seconds h (by decide) (fun _ _ hoff => .of_off hoff) ?_
  intro now hon hnow
  rw [wp_ite]
  refine ⟨fun hdue => ?_, fun hdue => (wp_pure _ _ _ _).2 ?_⟩
  · refine wp_call _ (h.allowed_moment rfl (by decide)) ?_
    intro _ w₂ hs₂
    refine (wp_pure _ _ _ _).2 ((done_of_step hs₂).elim (fun hsave => ?_) .of_off)
    cases hsave
    refine ⟨fun _ => ?_, fun _ => le_refl _, fun _ => ?_, h.clear⟩
    · rw [hnow]
      exact Nat.mul_div_le w.time 1000
    · simp only [Age.save]
      omega
  · -- the hour since the last save is not over
    have hclear := h.clear hon
    have hhourly := h.hourly hon
    have hsaved := h.saved_le hon
    have hlt : w.time / 1000 < s.timers.timeSave.toNat + 3600 := by
      rw [UInt32.le_iff_toNat_le, UInt32.toNat_add, hnow] at hdue
      have hinterval : kIntervalTimeSave.toNat = 3600 := rfl
      omega
    exact ⟨h.hourly, h.saved_le, fun _ => by omega, h.clear⟩

/-! ## Between two rounds -/

/-- The settings window is open: its end is ahead, and not far. -/
structure Windowed (s : StateMachine) (w : Age) : Prop where
  state : s.state = .settingsMode
  settings : s.broadcastingSettings = true
  before : w.on = true → w.time < 1000 * s.timers.endSettings.toNat
  near : w.on = true → 1000 * s.timers.endSettings.toNat ≤ w.saved + 3602000 + w.held

/-- A device that is on broadcasts, or is in a settings visit. -/
def Current (s : StateMachine) (w : Age) : Prop :=
  w.on = false ∨ Aged 3609000 s.timers.timeSave w ∧ (Broadcasting s ∨ Windowed s w)

theorem Current.of_off (h : w.on = false) : Current s w := .inl h

theorem Current.of_aged (h : Aged n s.timers.timeSave w) (hn : n ≤ 3609000) (hs : Broadcasting s) : Current s w :=
  .inr ⟨h.mono hn, .inl hs⟩

theorem Current.aged (h : Current s w) : Aged 3609000 s.timers.timeSave w := by
  rcases h with hoff | ⟨h, -⟩
  · exact .of_off hoff
  · exact h

/-- A broadcasting tick in between: the device broadcasts, as long as it is on. -/
def Resting (n : Nat) (s : StateMachine) (w : Age) : Prop :=
  Aged n s.timers.timeSave w ∧ (w.on = true → Broadcasting s)

theorem Resting.of_off (h : w.on = false) : Resting n s w := by
  refine ⟨.of_off h, fun hon => ?_⟩
  rw [h] at hon
  cases hon

theorem Resting.current (h : Resting n s w) (hn : n ≤ 3609000) : Current s w := by
  cases hon : w.on with
  | false => exact .of_off hon
  | true => exact .of_aged h.1 hn (h.2 hon)

/-- A function that takes no time, and keeps the hourly timer and the mode. -/
theorem wp_resting {α : Type} {p : Main α} {f : α → StateMachine} (h : Aged n s.timers.timeSave w)
    (hn : n ≤ 3617000) (hs : Broadcasting s)
    (hp : wp momentary p (fun a _ => (f a).timers.timeSave = s.timers.timeSave) ())
    (hmode : wp (calls (.any True True)) p
      (fun a _ => (f a).state = s.state ∧ (f a).broadcastingSettings = s.broadcastingSettings) ()) :
    wp ageing p (fun a w' => Resting n (f a) w') w := by
  refine wp_mono ?_ (wp_mode (wp_momentary hp h hn) hmode)
  rintro a w' ⟨⟨htimer, hage⟩, hstate, hsettings⟩
  exact ⟨htimer ▸ hage, fun _ => hs.same hstate hsettings⟩

theorem wp_current {α : Type} {p : Main α} {f : α → StateMachine} (h : Current s w) (hs : Broadcasting s)
    (hp : wp momentary p (fun a _ => (f a).timers.timeSave = s.timers.timeSave) ())
    (hmode : wp (calls (.any True True)) p
      (fun a _ => (f a).state = s.state ∧ (f a).broadcastingSettings = s.broadcastingSettings) ()) :
    wp ageing p (fun a w' => Current (f a) w') w :=
  wp_mono (fun _ _ hw => hw.current (le_refl _)) (wp_resting h.aged (by decide) hs hp hmode)

/-! ## Leaving settings mode -/

theorem leaveSettings_current (h : Aged 3609000 s.timers.timeSave w) : wp ageing (leaveSettings s) Current w := by
  refine wp_moment rfl h (by decide) ?_
  intro _ w₁ _ h₁
  refine wp_moment rfl h₁ (by decide) ?_
  intro _ w₂ _ h₂
  refine wp_moment rfl h₂ (by decide) ?_
  intro _ w₃ _ h₃
  refine wp_seq (wp_momentary (Q := fun _ => True) (by simp [restoreMac]) h₃ (by decide)) ?_
  rintro _ w₄ ⟨-, h₄⟩
  refine wp_moment rfl h₄ (by decide) ?_
  intro _ w₅ _ h₅
  refine wp_moment rfl h₅ (by decide) ?_
  intro cfg w₆ _ h₆
  refine wp_moment rfl h₆ (by decide) ?_
  intro _ w₇ _ h₇
  rw [wp_ite]
  refine ⟨fun _ => ?_, fun _ => ?_⟩
  · refine wp_end (.inr rfl) h₇ (by decide) ?_
    intro _ w₈ hoff
    exact (wp_pure _ _ _ _).2 (.of_off hoff)
  · refine wp_seq (wp_momentary (Q := fun _ => True) (by simp [ibeaconFallback]) h₇ (by decide)) ?_
    rintro _ w₈ ⟨-, h₈⟩
    exact (wp_pure _ _ _ _).2 (.inr ⟨h₈, .inl ⟨rfl, rfl⟩⟩)

/-- Every round of the wait saves the time. -/
theorem uploadWait_aged (k : Nat) (h : Aged 3609000 u w) :
    wp ageing (uploadWait k) (fun _ => Aged 3609000 u) w := by
  induction k generalizing w with
  | zero => exact (wp_pure _ _ _ _).2 h
  | succ k ih =>
    refine wp_spend (m := 4000) rfl h (by decide) ?_
    intro _ w₁ _ h₁
    refine wp_call _ (h₁.allowed_moment rfl (by decide)) ?_
    intro _ w₂ hs
    have h₂ : Aged 0 u w₂ := by
      rcases done_of_step hs with hsave | hoff
      · cases hsave
        refine ⟨fun hon => (h₁.hourly hon).trans (h₁.saved_le hon), fun _ => le_refl _, fun _ => ?_, h₁.clear⟩
        simp only [Age.save, Nat.add_zero, le_refl]
      · exact .of_off hoff
    refine wp_moment rfl h₂ (by decide) ?_
    intro _ w₃ _ h₃
    exact ih (h₃.mono (by decide))

theorem firmwareUpload_current (h : Aged 3609000 u w) : wp ageing (firmwareUpload s) Current w := by
  refine wp_moment rfl h (by decide) ?_
  intro _ w₁ _ h₁
  refine wp_moment rfl h₁ (by decide) ?_
  intro _ w₂ _ h₂
  refine wp_moment rfl h₂ (by decide) ?_
  intro _ w₃ _ h₃
  refine wp_moment rfl h₃ (by decide) ?_
  intro _ w₄ _ h₄
  refine wp_seq (uploadWait_aged 15 h₄) ?_
  intro _ w₅ h₅
  refine wp_moment rfl h₅ (by decide) ?_
  intro _ w₆ _ h₆
  refine wp_end (.inr rfl) h₆ (by decide) ?_
  intro _ w₇ hoff
  exact (wp_pure _ _ _ _).2 (.of_off hoff)

/-- A visit of two seconds, and waits of two and of four. -/
theorem handleSettingsModeExit_current (h : Aged 3603000 s.timers.timeSave w) (hstate : s.state = .settingsMode)
    (hsettings : s.broadcastingSettings = true)
    (hnear : w.on = true → 1000 * s.timers.endSettings.toNat ≤ w.saved + 3602000 + w.held) :
    wp ageing (handleSettingsModeExit s) Current w := by
  have hdecide {w : Age} (h : Aged 3609000 s.timers.timeSave w) :
      wp ageing (if s.pauseUpload then firmwareUpload s else leaveSettings s) Current w := by
    rw [wp_ite]
    exact ⟨fun _ => firmwareUpload_current h, fun _ => leaveSettings_current h⟩
  have hwait {m : Nat} {ms : UInt32} {w : Age} {p : Main StateMachine} (h : Aged m s.timers.timeSave w)
      (hm : m + ms.toNat ≤ 3609000)
      (hp : ∀ w', Aged (m + ms.toNat) s.timers.timeSave w' → wp ageing p Current w') :
      wp ageing (do issue (.sleepMs ms); issue .wdtFeed; p) Current w := by
    refine wp_spend (m := ms.toNat) rfl h (by omega) ?_
    intro _ w₁ _ h₁
    exact wp_moment rfl h₁ (by omega) fun _ w₂ _ h₂ => hp w₂ h₂
  refine wp_seconds h (by decide) (fun _ _ hoff => .of_off hoff) ?_
  intro now hon hnow
  rw [wp_ite]
  refine ⟨fun hlt => (wp_pure _ _ _ _).2 ?_, fun _ => ?_⟩
  · have hbefore : w.time < 1000 * s.timers.endSettings.toNat := by
      rw [UInt32.lt_iff_toNat_lt, hnow] at hlt
      omega
    exact .inr ⟨h.mono (by decide), .inr ⟨hstate, hsettings, fun _ => hbefore, hnear⟩⟩
  · dsimp only
    split <;> split
    · exact hwait h (by decide) fun w₁ h₁ => hwait h₁ (by decide) fun w₂ h₂ => hdecide h₂
    · exact hwait h (by decide) fun w₁ h₁ => hdecide (h₁.mono (by decide))
    · exact hwait h (by decide) fun w₁ h₁ => hdecide (h₁.mono (by decide))
    · exact hdecide (h.mono (by decide))

/-! ## Entering, and the button -/

theorem handleSettingsModeEntry_current (h : Aged 3600000 s.timers.timeSave w) (hs : Broadcasting s) :
    wp ageing (handleSettingsModeEntry s) Current w := by
  refine wp_seconds h (by decide) (fun _ _ hoff => .of_off hoff) ?_
  intro now hon hnow
  rw [wp_ite]
  refine ⟨fun _ => (wp_pure _ _ _ _).2 (.of_aged h (by decide) hs), fun _ => ?_⟩
  have hend : (now + kSettingsWait).toNat = w.time / 1000 + 2 := by
    have hclear := h.clear hon
    have hwait : kSettingsWait.toNat = 2 := rfl
    rw [UInt32.toNat_add, hnow, hwait]
    omega
  refine wp_mono ?_ (wp_still_on (Q := fun s' => s'.state = .settingsMode ∧ s'.broadcastingSettings = true ∧
    s'.timers.endSettings = now + kSettingsWait ∧ s'.timers.timeSave = s.timers.timeSave)
    (by simp [useSettingsMac]) h (by decide))
  rintro s' w' ⟨⟨hstate, hsettings, htimer, hsave⟩, h', hoff | hsame⟩
  · exact .of_off hoff
  · refine .inr ⟨hsave ▸ h'.mono (by decide), .inr ⟨hstate, hsettings, fun _ => ?_, fun _ => ?_⟩⟩
    · rw [htimer, hend, hsame.time]
      omega
    · have hb := h.bound hon
      rw [htimer, hend, hsame.saved, hsame.held]
      omega

/-- The second after which the button is looked at again counts for the button. -/
theorem handleButtonLongpress_current (h : Current s w) (hs : Broadcasting s) :
    wp ageing (handleButtonLongpress s) (fun r => Current r.2) w := by
  refine wp_button h.aged (by decide) (fun _ _ hoff => .of_off hoff) ?_
  intro pressed w₁ h₁ hpressed
  rw [wp_ite]
  refine ⟨fun _ => (wp_pure _ _ _ _).2 (.of_aged h₁ (le_refl _) hs), fun hyes => ?_⟩
  refine wp_hold h₁ (by decide) (by simpa [hpressed] using hyes) ?_
  intro w₂ h₂
  refine wp_button h₂ (by decide) (fun _ _ hoff => .of_off hoff) ?_
  intro pressed' w₃ h₃ _
  rw [wp_ite]
  refine ⟨fun _ => (wp_pure _ _ _ _).2 (.of_aged h₃ (le_refl _) hs), fun _ => ?_⟩
  refine wp_moment rfl h₃ (by decide) ?_
  intro _ w₄ _ h₄
  refine wp_spend (m := 650) rfl h₄ (by decide) ?_
  intro _ w₅ _ h₅
  refine wp_seq (waitButtonRelease_aged h₅ (by decide)) ?_
  intro _ w₆ h₆
  refine wp_moment rfl h₆ (by decide) ?_
  intro _ w₇ _ h₇
  refine wp_moment rfl h₇ (by decide) ?_
  intro _ w₈ _ h₈
  refine wp_spend (m := 500) rfl h₈ (by decide) ?_
  intro _ w₉ _ h₉
  refine wp_moment rfl h₉ (by decide) ?_
  intro _ w₁₀ _ h₁₀
  refine wp_moment rfl h₁₀ (by decide) ?_
  intro _ w₁₁ _ h₁₁
  refine wp_moment rfl h₁₁ (by decide) ?_
  intro _ w₁₂ _ h₁₂
  refine wp_moment rfl h₁₂ (by decide) ?_
  intro _ w₁₃ _ h₁₃
  refine wp_end (.inl rfl) h₁₃ (by decide) ?_
  intro _ w₁₄ hoff
  exact (wp_pure _ _ _ _).2 (.of_off hoff)

/-! ## Shutting down -/

theorem handleUvloShutdown_resting (h : Resting 3600000 s w) (hs : Broadcasting s) :
    wp ageing (handleUvloShutdown s) (fun r => Resting 3600000 r.2) w := by
  rw [handleUvloShutdown, wp_ite]
  refine ⟨fun _ => (wp_pure _ _ _ _).2 ⟨h.1, fun _ => hs.same rfl rfl⟩, fun _ => ?_⟩
  refine wp_moment rfl h.1 (by decide) ?_
  intro charging w₁ _ h₁
  dsimp only
  generalize hlock : (if charging = true then { s with chargeLockCounter := kChargeLockDuration } else s) = s₁
  have hs₁ : s₁.timers.timeSave = s.timers.timeSave ∧ Broadcasting s₁ := by
    subst hlock
    split
    · exact ⟨rfl, hs.same rfl rfl⟩
    · exact ⟨rfl, hs⟩
  have hkeep {b : UInt8} : wp ageing (pure (false, { s₁ with badPower := b }) : Main (Bool × StateMachine))
      (fun r => Resting 3600000 r.2) w₁ :=
    (wp_pure _ _ _ _).2 ⟨hs₁.1 ▸ h₁, fun _ => hs₁.2.same rfl rfl⟩
  rw [wp_ite, wp_ite]
  refine ⟨fun _ => ⟨fun _ => ?_, fun _ => hkeep⟩, fun _ => hkeep⟩
  refine wp_moment rfl h₁ (by decide) ?_
  intro _ w₂ _ h₂
  refine wp_moment rfl h₂ (by decide) ?_
  intro _ w₃ _ h₃
  refine wp_moment rfl h₃ (by decide) ?_
  intro _ w₄ _ h₄
  refine wp_moment rfl h₄ (by decide) ?_
  intro _ w₅ _ h₅
  refine wp_end (.inl rfl) h₅ (by decide) ?_
  intro _ w₆ hoff
  exact (wp_pure _ _ _ _).2 (.of_off hoff)

theorem handleNokeysShutdown_resting (h : Resting 3600000 s w) (hs : Broadcasting s) :
    wp ageing (handleNokeysShutdown s) (fun r => Resting 3600000 r.2) w := by
  have hkeep {w' : Age} (h' : Aged 3600000 s.timers.timeSave w') :
      wp ageing (pure (false, s) : Main (Bool × StateMachine)) (fun r => Resting 3600000 r.2) w' :=
    (wp_pure _ _ _ _).2 ⟨h', fun _ => hs⟩
  refine wp_moment rfl h.1 (by decide) ?_
  intro now w₁ _ h₁
  refine wp_moment rfl h₁ (by decide) ?_
  intro cfg w₂ _ h₂
  rw [wp_ite]
  refine ⟨fun _ => ?_, fun _ => hkeep h₂⟩
  refine wp_moment rfl h₂ (by decide) ?_
  intro charging w₃ _ h₃
  rw [wp_ite]
  refine ⟨fun _ => ?_, fun _ => hkeep h₃⟩
  refine wp_spend (m := 650) rfl h₃ (by decide) ?_
  intro _ w₄ _ h₄
  refine wp_moment rfl h₄ (by decide) ?_
  intro _ w₅ _ h₅
  refine wp_end (.inl rfl) h₅ (by decide) ?_
  intro _ w₆ hoff
  exact (wp_pure _ _ _ _).2 (.of_off hoff)

/-! ## Runs -/

theorem broadcast_momentary {v : Unit} : wp momentary (broadcast s)
    (fun s' _ => s'.timers.timeSave = s.timers.timeSave) v := by
  simp [broadcast]

/-- What a handler does at its end. -/
theorem momentary_then {s₁ : StateMachine} (hs : s₁.timers.timeSave = s.timers.timeSave) (v : Unit) :
    wp momentary (broadcast s₁) (fun s' _ => s'.timers.timeSave = s.timers.timeSave) v :=
  wp_mono (fun _ _ h => h.trans hs) broadcast_momentary

theorem current_rule : DutiesRule ageing (Resting 3600000) Current where
  uptime h hs := wp_mono (fun _ _ hw => ⟨hw.2, fun _ => hs⟩)
    (wp_momentary (Q := fun _ => True) (by simp) h.1 (by decide))
  entry h hs := handleSettingsModeEntry_current h.1 hs
  burst h hs := wp_resting (f := id) h.1 (by decide) hs (by simp [handleMaxPowerBurst])
    (by simp [handleMaxPowerBurst, Policy.any])
  rotation h hs := wp_current (f := id) (h.current (by decide)) hs
    (by simp [handleKeyRotation, setMacFromCurrentKey, momentary_then]) handleKeyRotation_modes
  button h hs := handleButtonLongpress_current h hs
  accelerometer h hs := wp_current (f := id) h hs (by simp [handleAccelerometer])
    (by simp [handleAccelerometer, Policy.any])
  broadcast h hs := wp_current (f := id) h hs
    (by simp [tickBroadcast, handleInitialBroadcast, handleAirtagFmdnAlternation, momentary_then])
    (by simp [tickBroadcast, handleInitialBroadcast, handleAirtagFmdnAlternation, broadcast_calls, Policy.any])

theorem tickBroadcasting_current (h : Aged 3617000 s.timers.timeSave w) (hs : Broadcasting s) :
    wp ageing (tickBroadcasting s) Current w := by
  have hsave : wp ageing (handleTimeSave s) (fun s' w' => Resting 3600000 s' w') w := by
    refine wp_mono ?_ (wp_mode (handleTimeSave_aged h) handleTimeSave_calls)
    rintro s' w' ⟨h', t, -, hs'⟩
    exact ⟨h', fun _ => hs.same (by rw [hs']) (by rw [hs'])⟩
  refine current_rule.tickBroadcasting (fun h => h.current (by decide)) hsave (fun h hs => ?_)
    handleUvloShutdown_resting handleNokeysShutdown_resting (fun _ _ _ _ hm => hm.elim) hs
  exact wp_resting (f := id) h.1 (by decide) hs
    (by simp [handleBatteryCheck, updateBattery, updateStatus, momentary_then])
    (handleBatteryCheck_calls trivial trivial)

/-- The rest of `tickSleep` after the sleep. -/
theorem tickSleep_rest {v : Unit} : wp (free (fun c => c.lasts = 0 ∧ c ≠ .storeTime) fun _ _ => True)
    (do issue .wdtFeed
        if s.chargeLockCounter > 0 then
          let cfg ← issue .config
          return { s with chargeLockCounter := s.chargeLockCounter - cfg.multPeriod.toNat }
        else return s)
    (fun s' _ => s'.timers = s.timers ∧ s'.state = s.state ∧
      s'.broadcastingSettings = s.broadcastingSettings) v := by
  simp

/-- A broadcasting tick sleeps for eight seconds or less. -/
theorem tickSleep_resting (h : Aged 3609000 s.timers.timeSave w) (hs : Broadcasting s) :
    wp ageing (tickSleep s) (fun s' w' => Aged 3617000 s'.timers.timeSave w' ∧ Broadcasting s') w := by
  rw [tickSleep, if_neg (by rw [hs.settings]; decide)]
  refine wp_moment rfl h (by decide) ?_
  intro cfg w₁ hcfg h₁
  have hms : (1000 * cfg.multPeriod.toUInt32).toNat ≤ 8000 := tickSleep_ms hcfg
  refine wp_spend (m := (1000 * cfg.multPeriod.toUInt32).toNat) rfl h₁ (by omega) ?_
  intro _ w₂ _ h₂
  refine wp_mono ?_ (wp_still_on tickSleep_rest (h₂.mono (by omega)) (le_refl 3617000))
  rintro s' w' ⟨⟨htimers, hstate, hsettings⟩, h', -⟩
  exact ⟨htimers ▸ h', hs.same hstate hsettings⟩

/-- A second of a settings visit. -/
theorem tickSleep_windowed (h : Aged 3609000 s.timers.timeSave w) (hw : Windowed s w) : wp ageing (tickSleep s)
    (fun s' w' => Aged 3603000 s'.timers.timeSave w' ∧ s'.state = .settingsMode ∧
      s'.broadcastingSettings = true ∧
      (w'.on = true → 1000 * s'.timers.endSettings.toNat ≤ w'.saved + 3602000 + w'.held)) w := by
  have hyoung : Aged 3602000 s.timers.timeSave w :=
    { h with bound := fun hon => by have h₁ := hw.before hon; have h₂ := hw.near hon; omega }
  rw [tickSleep, if_pos hw.settings]
  refine wp_call _ (h.allowed (by decide)) ?_
  intro _ w₁ hs
  have h₁ : Aged 3603000 s.timers.timeSave w₁ := hyoung.step hs
  have hnear : w₁.on = true → 1000 * s.timers.endSettings.toNat ≤ w₁.saved + 3602000 + w₁.held := by
    intro hon
    have hend := hw.near hs.1
    rcases done_of_step hs with hdone | hoff
    · cases hdone
      simp only [Age.pass]
      split <;> omega
    · rw [hoff] at hon
      cases hon
  refine wp_mono ?_ (wp_still_on tickSleep_rest h₁ (by decide))
  rintro s' w' ⟨⟨htimers, hstate, hsettings⟩, h', hsame⟩
  refine ⟨htimers ▸ h', hstate.trans hw.state, hsettings.trans hw.settings, fun hon => ?_⟩
  rcases hsame with hoff | hsame
  · rw [hoff] at hon
    cases hon
  · rw [htimers, hsame.saved, hsame.held]
    exact hnear (hsame.on ▸ hon)

theorem tick_current (h : Current s w) : wp ageing (tick s) Current w := by
  rcases h with hoff | ⟨h, hs | hw⟩
  · exact wp_off hoff fun _ _ hoff => .of_off hoff
  · rw [tick_of_running (by rw [hs.state]; decide)]
    refine wp_seq (tickSleep_resting h hs) ?_
    rintro s₁ w₁ ⟨h₁, hs₁⟩
    rw [if_neg (by rw [hs₁.state, hs₁.settings]; decide)]
    exact tickBroadcasting_current h₁ hs₁
  · rw [tick_of_running (by rw [hw.state]; decide)]
    refine wp_seq (tickSleep_windowed h hw) ?_
    rintro s₁ w₁ ⟨h₁, hstate, hsettings, hnear⟩
    rw [if_pos (.inl hstate)]
    exact handleSettingsModeExit_current h₁ hstate hsettings hnear

theorem mainLoop_current (h : Current s w) : wp ageing (mainLoop s) Current w := by
  rcases h with hoff | ⟨h, hmode⟩
  · exact wp_off hoff fun _ _ hoff => .of_off hoff
  refine wp_seq (R := Current) ?_ fun s₁ w₁ h₁ => tick_current h₁
  have hsync : wp (free (fun c => c.lasts = 0 ∧ c ≠ .storeTime) fun _ _ => True) (syncGattState s)
      (fun s' _ => s'.timers = s.timers ∧ s'.state = s.state ∧
        s'.broadcastingSettings = s.broadcastingSettings) () := by
    simp [syncGattState]
  refine wp_mono ?_ (wp_still_on hsync h (by decide))
  rintro s' w' ⟨⟨htimers, hstate, hsettings⟩, h', hsame⟩
  rcases hsame with hoff | hsame
  · exact .of_off hoff
  refine .inr ⟨htimers ▸ h', ?_⟩
  rcases hmode with hs | hw
  · exact .inl (hs.same hstate hsettings)
  · refine .inr ⟨hstate.trans hw.state, hsettings.trans hw.settings, fun hon => ?_, fun hon => ?_⟩
    · rw [htimers, hsame.time]
      exact hw.before (hsame.on ▸ hon)
    · rw [htimers, hsame.saved, hsame.held]
      exact hw.near (hsame.on ▸ hon)

/-! ## Startup -/

theorem wakePeripherals_aged (h : Aged n 0 w) (hn : n ≤ 3000000) :
    wp ageing wakePeripherals (fun _ => Aged (n + 10) 0) w := by
  have hinit (v : Unit) (Q : Unit → Unit → Prop) (hQ : Q () ()) : wp momentary (accelInitRetry 3) Q v :=
    wp_mono (fun _ _ _ => hQ) (accelInitRetry_free 3 rfl)
  refine wp_moment rfl h (by omega) ?_
  intro _ w₁ _ h₁
  refine wp_spend (m := 10) rfl h₁ (by omega) ?_
  intro _ w₂ _ h₂
  exact wp_mono (fun _ _ hw => hw.2) (wp_momentary (Q := fun _ => True) (by simp [hinit]) h₂ (by omega))

theorem startRadio_aged (h : Aged n 0 w) (hn : n ≤ 3000000) :
    wp ageing (startRadio s) (fun _ => Aged (n + 1800) 0) w := by
  refine wp_moment rfl h (by omega) ?_
  intro _ w₁ _ h₁
  refine wp_moment rfl h₁ (by omega) ?_
  intro cfg w₂ _ h₂
  refine wp_moment rfl h₂ (by omega) ?_
  intro _ w₃ _ h₃
  refine wp_moment rfl h₃ (by omega) ?_
  intro _ w₄ _ h₄
  refine wp_spend (m := 1800) rfl h₄ (by omega) ?_
  intro _ w₅ _ h₅
  exact wp_mono (fun _ _ hw => hw.2)
    (wp_momentary (Q := fun _ => True) (by simp [ibeaconFallback]) h₅ (by omega))

theorem startUp_current (h : Aged n 0 w) (hn : n ≤ 2000000) : wp ageing (startUp {}) Current w := by
  refine wp_seq (wakePeripherals_aged h (by omega)) ?_
  intro _ w₁ h₁
  refine wp_seq (wp_momentary (Q := fun s' => s'.timers = {}) (by simp [prepareKeys, setMacFromCurrentKey]) h₁
    (by omega)) ?_
  rintro s₂ w₂ ⟨hs₂, h₂⟩
  refine wp_seq (wp_momentary (Q := fun _ => True) (by simp [setInitialMac]) h₂ (by omega)) ?_
  rintro _ w₃ ⟨-, h₃⟩
  refine wp_seq (wp_momentary (Q := fun s' => s'.timers = {} ∧ s'.broadcastingSettings = false)
    (by simp [updateBattery, hs₂]) h₃ (by omega)) ?_
  rintro s₄ w₄ ⟨hs₄, h₄⟩
  refine wp_seq (wp_momentary (Q := fun s' => s'.timers = {} ∧ s'.broadcastingSettings = false)
    (by simp [updateStatus, hs₄]) h₄ (by omega)) ?_
  rintro s₅ w₅ ⟨hs₅, h₅⟩
  refine wp_seq (startRadio_aged h₅ (by omega)) ?_
  intro _ w₆ h₆
  refine wp_seq (waitButtonRelease_aged h₆ (by omega)) ?_
  intro _ w₇ h₇
  refine (wp_pure _ _ _ _).2 (.inr ⟨?_, .inl ⟨rfl, hs₅.2⟩⟩)
  rw [hs₅.1]
  exact h₇.mono (by omega)

theorem initializeMachine_current : wp ageing (initializeMachine {}) Current {} := by
  have h₀ : Aged 0 0 ({} : Age) :=
    ⟨fun _ => le_refl _, fun _ => le_refl _, fun _ => le_refl _, fun _ => by decide⟩
  refine wp_moment rfl h₀ (by decide) ?_
  intro _ w₁ _ h₁
  refine wp_spend (m := 450) rfl h₁ (by decide) ?_
  intro _ w₂ _ h₂
  refine wp_moment rfl h₂ (by decide) ?_
  intro pressed w₃ _ h₃
  refine wp_moment rfl h₃ (by decide) ?_
  intro _ w₄ _ h₄
  rw [wp_ite]
  refine ⟨fun _ => ?_, fun _ => ?_⟩
  · refine wp_moment rfl h₄ (by decide) ?_
    intro _ w₅ _ h₅
    refine wp_moment rfl h₅ (by decide) ?_
    intro _ w₆ _ h₆
    exact startUp_current h₆ (by decide)
  · refine wp_moment rfl h₄ (by decide) ?_
    intro cfg w₅ _ h₅
    rw [wp_ite]
    refine ⟨fun _ => ?_, fun _ => startUp_current h₅ (by decide)⟩
    refine wp_spend (m := 500) rfl h₅ (by decide) ?_
    intro _ w₆ _ h₆
    refine wp_end (.inl rfl) h₆ (by decide) ?_
    intro _ w₇ hoff
    exact (wp_pure _ _ _ _).2 (.of_off hoff)

theorem Age.Fresh.step {c : Call} {a : c.Ans} (hsaved : w.saved ≤ w.time) (h : w.Fresh) (hc : ageing.allowed w c)
    (hs : ageing.step w c a w') : w'.saved ≤ w'.time ∧ w'.Fresh := by
  have hpass : (w.pass c.lasts).Fresh := hc hs.1
  have hle (ms : Nat) : w.saved ≤ w.time + ms := Nat.le_add_right_of_le hsaved
  rcases hs.2.2.2 with hdone | ⟨ms, hms, rfl⟩
  · cases c with
    | uptimeSeconds =>
      obtain ⟨-, rfl⟩ := hdone
      exact ⟨hsaved, h⟩
    | buttonPressed =>
      cases hdone
      exact ⟨hsaved, h⟩
    | storeTime =>
      cases hdone
      exact ⟨le_refl _, by simp only [Age.Fresh, Age.save]; omega⟩
    | reboot =>
      obtain ⟨k, -, ms, hms, rfl⟩ := hdone
      refine ⟨Nat.le_add_right _ _, ?_⟩
      simp only [Age.Fresh, Age.off, Age.pass, Age.save]
      omega
    | _ =>
      cases hdone
      exact ⟨hle _, hpass⟩
  · exact ⟨hle ms, hpass.of_pass hms⟩

/-- At every moment of a run the time was saved within an hour and seventeen seconds, not counting the button. -/
theorem fresh_of_during {p : Main StateMachine} (h : During ageing (initializeMachine {}) mainLoop (· = {}) p w) :
    w.saved ≤ w.time ∧ w.Fresh ∧ w.time / 1000 < 4294960096 := by
  refine during_keeps_of_allowed (E := ageing)
    (J := fun w => w.saved ≤ w.time ∧ w.Fresh ∧ w.time / 1000 < 4294960096)
    (fun w hw => hw ▸ initializeMachine_current) (fun s w h => mainLoop_current h) (fun w hw => ?_)
    (fun _ _ _ h => h.elim) (fun w c a w' hw hc hs => ?_) h
  · rw [hw]
    exact ⟨le_refl _, Nat.zero_le _, by decide⟩
  · obtain ⟨hsaved, hfresh⟩ := Age.Fresh.step hw.1 hw.2.1 hc hs
    exact ⟨hsaved, hfresh, hs.2.2.1⟩

end

end Everytag
