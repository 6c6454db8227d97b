import Everytag.Duties
import Everytag.TimeSaved
import Everytag.Watchdog

/-!
# How long a client can connect

Every call takes some time, a sleep at least what it is asked for, and the uptime is the time in whole seconds.
`visiting` adds up the sleeps while the connectable advertisement is on, those inside of `blink_led`, `power_off`
and `reboot` included, and allows eight seconds of them to a settings visit and sixty to a firmware upload, with
nine more for the `reboot` that ends it.  The flags of the clients are whatever they like to be: they buy the waits
at the end of a visit, and nothing else.  A visit is young (`Young`) until a tick finds the end of its window in
the past.
-/

namespace Everytag

open Interaction StateMachine

structure Visit where
  /-- milliseconds -/
  time : Nat := 0
  upload : Bool := false
  /-- the sleeps since the connectable advertisement was started, while it is on -/
  slept : Option Nat := none
  /-- in `power_off` or `reboot`, which do not return -/
  stopping : Bool := false
deriving DecidableEq, Repr

namespace Visit

def stop (w : Visit) : Visit := { w with stopping := true }

/-- A sleep that ends at `t`. -/
def rest (w : Visit) (ms t : Nat) : Visit := { w with time := t, slept := w.slept.map (· + ms) }

/-- The sleeps of a visit. -/
def limit (w : Visit) : Nat :=
  match w.upload, w.stopping with
  | false, _ => 8000
  | true, false => 60000
  | true, true => 69000

def Room (w : Visit) (ms : Nat) : Prop := ∀ v, w.slept = some v → v + ms ≤ w.limit

end Visit

/-- The two functions that do not return. -/
def resting : World HardwareCall HardwareCall.Ans Visit where
  allowed w c := w.Room c.lasts
  step w c _ w' := ∃ t, w.time + c.lasts ≤ t ∧ w' = w.rest c.lasts t
  move _ _ := False

instance : resting.Sequential := ⟨fun _ _ h => h⟩

namespace Visit

def Allows (w : Visit) : Call → Prop
  | .powerOff => ∀ b, wp resting (ZephyrHardware.powerOff b) (fun _ _ => True) w.stop
  | .reboot => wp resting ZephyrHardware.reboot (fun _ _ => True) w.stop
  | .sleepMs ms => w.Room ms.toNat
  | .blinkLed count fast => w.Room (blinkDelay count fast)
  | _ => True

/-- What a call leaves; of `power_off` and `reboot`, what any part of them leaves. -/
@[simp] def Next (w : Visit) : (c : Call) → c.Ans → Visit → Prop
  | .enableDfu, _, w' => ∃ t, w.time ≤ t ∧ w' = { w with time := t, upload := true }
  | .startSettingsAdv, _, w' => ∃ t, w.time ≤ t ∧ w' = { w with time := t, slept := some 0 }
  | .stopSettingsAdv, _, w' => ∃ t, w.time ≤ t ∧ w' = { w with time := t, slept := none }
  | .powerOff, _, w' => ∃ b q, Reaches resting (ZephyrHardware.powerOff b, w.stop) (q, w')
  | .reboot, _, w' => ∃ q, Reaches resting (ZephyrHardware.reboot, w.stop) (q, w')
  | .uptimeSeconds, now, w' => ∃ t, w.time ≤ t ∧ t / 1000 < 4294960096 ∧ now.toNat = t / 1000 ∧
    w' = { w with time := t }
  | .sleepMs ms, _, w' => ∃ t, w.time + ms.toNat ≤ t ∧ w' = w.rest ms.toNat t
  | .blinkLed count fast, _, w' => ∃ t, w.time + blinkDelay count fast ≤ t ∧ w' = w.rest (blinkDelay count fast) t
  | _, _, w' => ∃ t, w.time ≤ t ∧ w' = { w with time := t }

end Visit

def visiting : World Call Call.Ans Visit where
  allowed w c := w.Allows c
  step w c a w' := w.stopping = false ∧ w.Next c a w'
  move _ _ := False

instance : visiting.Sequential := ⟨fun _ _ h => h⟩

section

variable {s s' : StateMachine} {w w' : Visit}

@[simp] theorem visiting_step (c : Call) (a : c.Ans) :
    visiting.step w c a w' ↔ w.stopping = false ∧ w.Next c a w' := Iff.rfl

theorem Visit.eight_le_limit (w : Visit) : 8000 ≤ w.limit := by
  unfold limit
  split <;> decide

theorem Visit.limit_of_upload (h : w.upload = true) : w.limit = if w.stopping then 69000 else 60000 := by
  rw [limit, h]
  cases w.stopping <;> rfl

theorem Visit.sixty_le_limit (h : w.upload = true) : 60000 ≤ w.limit := by
  rw [limit_of_upload h]
  split <;> decide

theorem Visit.limit_le (hupload : w.upload = true → w'.upload = true)
    (hstopping : w.stopping = true → w'.stopping = true) : w.limit ≤ w'.limit := by
  cases hu : w.upload with
  | false =>
    rw [limit, hu]
    exact w'.eight_le_limit
  | true =>
    rw [limit_of_upload hu, limit_of_upload (hupload hu)]
    cases hs : w.stopping with
    | false =>
      rw [if_neg Bool.false_ne_true]
      exact Visit.limit_of_upload (hupload hu) ▸ Visit.sixty_le_limit (hupload hu)
    | true => rw [hstopping hs]

/-! ## Rests -/

/-- A part of `power_off` or `reboot` starts and stops no advertisement. -/
theorem Visit.rested {p q : Hardware Unit} (h : Reaches resting (p, w) (q, w')) :
    w.time ≤ w'.time ∧ w'.upload = w.upload ∧ (w.slept = none → w'.slept = none) := by
  refine reaches_keeps (E := resting)
    (I := fun w' => w.time ≤ w'.time ∧ w'.upload = w.upload ∧ (w.slept = none → w'.slept = none))
    (fun _ _ _ hm => hm.elim) (fun w₁ c a w₂ h₁ hs => ?_) h ⟨le_refl _, rfl, fun h => h⟩
  obtain ⟨t, ht, rfl⟩ := hs
  refine ⟨?_, h₁.2.1, fun hw => ?_⟩
  · exact le_trans h₁.1 (Nat.le_of_add_right_le ht)
  · show w₁.slept.map _ = none
    rw [h₁.2.2 hw]
    rfl

/-- With the advertisement off there is room for any of them. -/
theorem wp_resting_none (p : Hardware Unit) (hw : w.slept = none) :
    wp resting p (fun _ _ => True) w := by
  refine wp_mono (fun _ _ _ => trivial)
    (wp_invariant (E := resting) (fun w => w.slept = none) (fun _ _ _ hm => hm.elim) (fun w₁ c h₁ => ⟨?_, ?_⟩) p hw)
  · intro v hv
    rw [h₁] at hv
    cases hv
  · rintro a w₂ ⟨t, -, rfl⟩
    show w₁.slept.map _ = none
    rw [h₁]
    rfl

/-- A call at which the sleeps come to `m + c.lasts`. -/
theorem wp_rest {α : Type} {m : Nat} {c : HardwareCall} {k : c.Ans → Hardware α} {Q : α → Visit → Prop}
    (hupload : w.upload = true) (hstop : w.stopping = true) (hslept : w.slept = some m)
    (hm : m + c.lasts ≤ 69000)
    (hk : ∀ a w', w'.upload = true → w'.stopping = true → w'.slept = some (m + c.lasts) → wp resting (k a) Q w') :
    wp resting (Prog.issue c >>= k) Q w := by
  refine wp_call _ (fun v hv => ?_) ?_
  · obtain rfl : m = v := Option.some.inj (hslept.symm.trans hv)
    rwa [Visit.limit_of_upload hupload, if_pos hstop]
  · rintro a w' ⟨t, -, rfl⟩
    refine hk a _ hupload hstop ?_
    show w.slept.map _ = _
    rw [hslept]
    rfl

/-- The nine seconds of `reboot`, at the end of an upload. -/
theorem reboot_rests {m : Nat} (hupload : w.upload = true) (hstop : w.stopping = true) (hslept : w.slept = some m)
    (hm : m ≤ 60000) : wp resting ZephyrHardware.reboot (fun _ _ => True) w := by
  have hrounds (n : Nat) {m : Nat} {w : Visit} (hupload : w.upload = true) (hstop : w.stopping = true)
      (hslept : w.slept = some m) (hm : m + 1000 * n ≤ 69000) :
      wp resting (ZephyrHardware.rebootRounds n)
        (fun _ w' => w'.upload = true ∧ w'.stopping = true ∧ w'.slept = some (m + 1000 * n)) w := by
    induction n generalizing m w with
    | zero => exact (wp_pure _ _ _ _).2 ⟨hupload, hstop, hslept⟩
    | succ n ih =>
      rw [Nat.mul_succ, Nat.add_comm (1000 * n), ← Nat.add_assoc] at hm ⊢
      have hroom : m + 1000 ≤ 69000 := Nat.le_of_add_right_le hm
      refine wp_rest hupload hstop hslept (Nat.le_of_add_right_le hroom) ?_
      intro _ w₁ hupload₁ hstop₁ hslept₁
      refine wp_rest hupload₁ hstop₁ hslept₁ hroom ?_
      intro _ w₂ hupload₂ hstop₂ hslept₂
      exact ih hupload₂ hstop₂ hslept₂ hm
  refine wp_seq (hrounds 8 hupload hstop hslept (by omega)) ?_
  rintro _ w₁ ⟨hupload₁, hstop₁, hslept₁⟩
  have hlast : m + 1000 * 8 + 1000 ≤ 69000 := by omega
  refine wp_rest hupload₁ hstop₁ hslept₁ hlast ?_
  intro _ w₂ hupload₂ hstop₂ hslept₂
  refine (wp_issue _ _ _ _).2 ⟨fun v hv => ?_, fun _ _ _ => trivial⟩
  obtain rfl := Option.some.inj (hslept₂.symm.trans hv)
  rwa [Visit.limit_of_upload hupload₂, if_pos hstop₂]

/-! ## Outside of a visit -/

/-- Calls that neither start the connectable advertisement nor an upload. -/
def Call.Closed (c : Call) : Prop := c ≠ .startSettingsAdv ∧ c ≠ .enableDfu

theorem Visit.Next.closed {c : Call} {a : c.Ans} (h : w.Next c a w') (hc : c.Closed) (hw : w.slept = none) :
    w.time ≤ w'.time ∧ w'.slept = none ∧ w'.upload = w.upload := by
  cases c with
  | startSettingsAdv => exact absurd rfl hc.1
  | enableDfu => exact absurd rfl hc.2
  | powerOff =>
    obtain ⟨b, q, hr⟩ := h
    obtain ⟨htime, hupload, hslept⟩ := Visit.rested hr
    exact ⟨htime, hslept hw, hupload⟩
  | reboot =>
    obtain ⟨q, hr⟩ := h
    obtain ⟨htime, hupload, hslept⟩ := Visit.rested hr
    exact ⟨htime, hslept hw, hupload⟩
  | uptimeSeconds =>
    obtain ⟨t, ht, -, -, rfl⟩ := h
    exact ⟨ht, hw, rfl⟩
  | sleepMs | blinkLed =>
    obtain ⟨t, ht, rfl⟩ := h
    exact ⟨Nat.le_of_add_right_le ht, by rw [rest, hw]; rfl, rfl⟩
  | stopSettingsAdv =>
    obtain ⟨t, ht, rfl⟩ := h
    exact ⟨ht, rfl, rfl⟩
  | _ =>
    obtain ⟨t, ht, rfl⟩ := h
    exact ⟨ht, hw, rfl⟩

theorem Visit.allows_of_none (c : Call) (hw : w.slept = none) : w.Allows c := by
  have hroom (ms : Nat) : w.Room ms := by
    intro v hv
    rw [hw] at hv
    cases hv
  cases c with
  | powerOff => exact fun b => wp_resting_none _ hw
  | reboot => exact wp_resting_none _ hw
  | sleepMs | blinkLed => exact hroom _
  | _ => trivial

/-- With the advertisement off, any sleep is allowed. -/
theorem wp_unvisited {α : Type} {p : Main α} {Q : α → Prop}
    (hp : wp (free Call.Closed fun _ _ => True) p (fun a _ => Q a) ()) (hw : w.slept = none) :
    wp visiting p (fun a w' => Q a ∧ w.time ≤ w'.time ∧ w'.slept = none ∧ w'.upload = w.upload) w := by
  refine wp_frame (E := visiting) hp (fun w' => w.time ≤ w'.time ∧ w'.slept = none ∧ w'.upload = w.upload)
    (fun _ _ _ h => h.elim) (fun w₁ c hc h₁ => ?_) ⟨le_refl _, hw, rfl⟩
  refine ⟨Visit.allows_of_none c h₁.2.1, fun a w₂ hs => ⟨trivial, ?_⟩⟩
  obtain ⟨htime, hslept, hupload⟩ := Visit.Next.closed hs.2 hc h₁.2.1
  exact ⟨le_trans h₁.1 htime, hslept, hupload.trans h₁.2.2⟩

/-- A call that takes time, without a sleep of its own. -/
def Call.Passes : Call → Prop
  | .startSettingsAdv | .stopSettingsAdv | .enableDfu | .powerOff | .reboot | .sleepMs _ | .blinkLed .. => False
  | _ => True

theorem Visit.Next.passes {c : Call} {a : c.Ans} (h : w.Next c a w') (hc : c.Passes) :
    w.time ≤ w'.time ∧ w'.slept = w.slept ∧ w'.upload = w.upload := by
  cases c with
  | startSettingsAdv | stopSettingsAdv | enableDfu | powerOff | reboot | sleepMs | blinkLed => exact hc.elim
  | uptimeSeconds =>
    obtain ⟨t, ht, -, -, rfl⟩ := h
    exact ⟨ht, rfl, rfl⟩
  | _ =>
    obtain ⟨t, ht, rfl⟩ := h
    exact ⟨ht, rfl, rfl⟩

theorem Visit.allows_of_passes {c : Call} (hc : c.Passes) : w.Allows c := by
  cases c with
  | powerOff | reboot | sleepMs | blinkLed => exact hc.elim
  | _ => trivial

theorem wp_pass {α : Type} {c : Call} {p : c.Ans → Main α} {Q : α → Visit → Prop} (hc : c.Passes)
    (hp : ∀ a w', w.time ≤ w'.time → w'.slept = w.slept → w'.upload = w.upload → wp visiting (p a) Q w') :
    wp visiting (issue c >>= p) Q w := by
  refine wp_call _ (Visit.allows_of_passes hc) ?_
  intro a w' hs
  obtain ⟨htime, hslept, hupload⟩ := Visit.Next.passes hs.2 hc
  exact hp a w' htime hslept hupload

/-! ## The end of a visit -/

/-- The visit has slept for `n` milliseconds or less, if there is one. -/
def Slept (n : Nat) (w : Visit) : Prop := w.upload = false ∧ ∀ v, w.slept = some v → v ≤ n

/-- A wait at the end of a visit. -/
theorem wp_wait {α : Type} {n : Nat} {ms : UInt32} {p : Main α} {Q : α → Visit → Prop} (h : Slept n w)
    (hn : n + ms.toNat ≤ 8000) (hp : ∀ w', Slept (n + ms.toNat) w' → wp visiting p Q w') :
    wp visiting (do issue (.sleepMs ms); issue .wdtFeed; p) Q w := by
  refine wp_call _ (fun v hv => ?_) ?_
  · have hsum : v + ms.toNat ≤ n + ms.toNat := Nat.add_le_add_right (h.2 v hv) _
    exact le_trans (hsum.trans hn) w.eight_le_limit
  · rintro _ w₁ ⟨-, t, -, rfl⟩
    refine wp_pass trivial ?_
    intro _ w₂ _ hslept hupload
    refine hp w₂ ⟨hupload.trans h.1, fun v hv => ?_⟩
    obtain ⟨v', hv', rfl⟩ := Option.map_eq_some_iff.1 (hslept.symm.trans hv)
    exact Nat.add_le_add_right (h.2 v' hv') _

/-- The sixty seconds of an upload. -/
theorem uploadWait_upload (n : Nat) {m : Nat} (hw : w.upload = true) (hslept : w.slept = some m)
    (hm : m + 4000 * n ≤ 60000) :
    wp visiting (uploadWait n) (fun _ w' => w'.upload = true ∧ w'.slept = some (m + 4000 * n)) w := by
  induction n generalizing m w with
  | zero => exact (wp_pure _ _ _ _).2 ⟨hw, hslept⟩
  | succ n ih =>
    rw [Nat.mul_succ, Nat.add_comm (4000 * n), ← Nat.add_assoc] at hm ⊢
    refine wp_call _ (fun v hv => ?_) ?_
    · obtain rfl : m = v := Option.some.inj (hslept.symm.trans hv)
      have hroom : m + 4000 ≤ 60000 := Nat.le_of_add_right_le hm
      exact le_trans hroom (Visit.sixty_le_limit hw)
    · rintro _ w₁ ⟨-, t, -, rfl⟩
      refine wp_pass trivial ?_
      intro _ w₂ _ hslept₂ hupload₂
      refine wp_pass trivial ?_
      intro _ w₃ _ hslept₃ hupload₃
      have hmore : w₃.slept = some (m + 4000) := by
        rw [hslept₃, hslept₂, Visit.rest, hslept]
        rfl
      exact ih ((hupload₃.trans hupload₂).trans hw) hmore hm

theorem firmwareUpload_upload (s : StateMachine) :
    wp visiting (firmwareUpload s) (fun s' _ => s'.state = .firmwareUpload) w := by
  refine wp_call _ trivial ?_
  rintro _ w₁ ⟨-, t₁, -, rfl⟩
  refine wp_pass trivial ?_
  intro _ w₂ _ _ hupload₂
  refine wp_call _ trivial ?_
  rintro _ w₃ ⟨-, t₃, -, rfl⟩
  refine wp_call _ trivial ?_
  rintro _ w₄ ⟨-, t₄, -, rfl⟩
  refine wp_seq (uploadWait_upload 15 hupload₂ rfl (by decide)) ?_
  rintro _ w₅ ⟨hupload₅, hslept₅⟩
  refine wp_pass trivial ?_
  intro _ w₆ _ hslept₆ hupload₆
  refine wp_call _ ?_ ?_
  · exact reboot_rests (hupload₆.trans hupload₅) rfl (hslept₆.trans hslept₅) (by decide)
  · intro _ w₇ _
    exact (wp_pure _ _ _ _).2 rfl

/-- On the way back to broadcasting the advertisement is stopped first. -/
theorem leaveSettings_closes (hw : w.upload = false) :
    wp visiting (leaveSettings s) (fun _ w' => w'.upload = false ∧ w'.slept = none) w := by
  refine wp_pass trivial ?_
  intro _ w₁ _ _ hupload₁
  refine wp_call _ trivial ?_
  rintro _ w₂ ⟨-, t₂, -, rfl⟩
  refine wp_mono (fun _ w' h => ⟨h.2.2.2.trans (hupload₁.trans hw), h.2.2.1⟩)
    (wp_unvisited (Q := fun _ => True) ?_ rfl)
  simp [restoreMac, ibeaconFallback, Call.Closed]

/-! ## Visits -/

/-- `k` ticks into a visit, with the window as it was set at the beginning. -/
structure Visiting (k : Nat) (s : StateMachine) (w : Visit) : Prop where
  state : s.state = .settingsMode
  settings : s.broadcastingSettings = true
  upload : w.upload = false
  slept : w.slept = some (1000 * k)
  window : 1000 * s.timers.endSettings.toNat + 1000 * k ≤ w.time + 2000

/-- Between two ticks no visit is older than one tick. -/
def Young (s : StateMachine) (w : Visit) : Prop :=
  s.state = .firmwareUpload ∨ w.upload = false ∧ (w.slept = none ∨ ∃ k ≤ 1, Visiting k s w)

/-- A reading that is before the end of the window leaves the machine as it is; any other ends the visit, after
waits of two and of four seconds. -/
theorem handleSettingsModeExit_young (hw : Slept 2000 w)
    (hstay : ∀ t, w.time ≤ t → t / 1000 < s.timers.endSettings.toNat → Young s { w with time := t }) :
    wp visiting (handleSettingsModeExit s) Young w := by
  have hdecide {w : Visit} (hw : w.upload = false) :
      wp visiting (if s.pauseUpload then firmwareUpload s else leaveSettings s) Young w := by
    rw [wp_ite]
    exact ⟨fun _ => wp_mono (fun _ _ h => .inl h) (firmwareUpload_upload s),
      fun _ => wp_mono (fun _ _ h => .inr ⟨h.1, .inl h.2⟩) (leaveSettings_closes hw)⟩
  refine wp_call _ trivial ?_
  rintro now w₁ ⟨-, t, ht, -, hnow, rfl⟩
  rw [wp_ite]
  refine ⟨fun hlt => ?_, fun _ => ?_⟩
  · rw [UInt32.lt_iff_toNat_lt, hnow] at hlt
    exact (wp_pure _ _ _ _).2 (hstay t ht hlt)
  have h₁ : Slept 2000 { w with time := t } := hw
  dsimp only
  split <;> split
  · exact wp_wait h₁ (by decide) fun w₂ h₂ => wp_wait h₂ (by decide) fun w₃ h₃ => hdecide h₃.1
  · exact wp_wait h₁ (by decide) fun w₂ h₂ => hdecide h₂.1
  · exact wp_wait h₁ (by decide) fun w₂ h₂ => hdecide h₂.1
  · exact hdecide h₁.1

/-- A tick of a visit is a second. -/
theorem tickSleep_visiting {k : Nat} (h : Visiting k s w) (hk : k ≤ 1) :
    wp visiting (tickSleep s) (fun s' w' => Visiting (k + 1) s' w') w := by
  have hwindow := h.window
  rw [tickSleep, if_pos h.settings]
  refine wp_call _ (fun v hv => ?_) ?_
  · obtain rfl : 1000 * k = v := Option.some.inj (h.slept.symm.trans hv)
    have hroom : 1000 * k + 1000 ≤ 8000 := by omega
    exact le_trans hroom w.eight_le_limit
  · rintro _ w₁ ⟨-, t, ht, rfl⟩
    have ht' : w.time + 1000 ≤ t := ht
    have hnext (n : Int) (w₂ : Visit) (htime : t ≤ w₂.time) (hslept : w₂.slept = w.slept.map (· + 1000))
        (hupload : w₂.upload = w.upload) : Visiting (k + 1) { s with chargeLockCounter := n } w₂ := by
      refine ⟨h.state, h.settings, hupload.trans h.upload, by rw [hslept, h.slept]; rfl, ?_⟩
      show 1000 * s.timers.endSettings.toNat + 1000 * (k + 1) ≤ w₂.time + 2000
      rw [Nat.mul_succ, ← Nat.add_assoc]
      omega
    refine wp_pass trivial ?_
    intro _ w₂ htime hslept hupload
    rw [wp_ite]
    refine ⟨fun _ => ?_, fun _ => (wp_pure _ _ _ _).2 (hnext s.chargeLockCounter w₂ htime hslept hupload)⟩
    refine wp_pass trivial ?_
    intro cfg w₃ htime₃ hslept₃ hupload₃
    exact (wp_pure _ _ _ _).2 (hnext _ w₃ (le_trans htime htime₃) (hslept₃.trans hslept) (hupload₃.trans hupload))

/-- Two seconds after its beginning a visit is over. -/
theorem exit_of_visiting {k : Nat} (h : Visiting k s w) (hk : k ≤ 2) :
    wp visiting (handleSettingsModeExit s) Young w := by
  refine handleSettingsModeExit_young ⟨h.upload, fun v hv => ?_⟩ fun t ht hlt => .inr ⟨h.upload, .inr ?_⟩
  · obtain rfl : 1000 * k = v := Option.some.inj (h.slept.symm.trans hv)
    omega
  · have hwindow := h.window
    refine ⟨k, by omega, h.state, h.settings, h.upload, h.slept, ?_⟩
    show 1000 * s.timers.endSettings.toNat + 1000 * k ≤ t + 2000
    omega

theorem exit_of_closed (hupload : w.upload = false) (hw : w.slept = none) :
    wp visiting (handleSettingsModeExit s) Young w := by
  refine handleSettingsModeExit_young ⟨hupload, fun v hv => ?_⟩ fun t _ _ => .inr ⟨hupload, .inl hw⟩
  rw [hw] at hv
  cases hv

/-! ## Entering -/

/-- The window is two seconds, from a reading that has passed when the advertisement starts. -/
theorem handleSettingsModeEntry_young (hupload : w.upload = false) (hw : w.slept = none) :
    wp visiting (handleSettingsModeEntry s) Young w := by
  refine wp_call _ trivial ?_
  rintro now w₁ ⟨-, t, ht, hbound, hnow, rfl⟩
  rw [wp_ite]
  refine ⟨fun _ => (wp_pure _ _ _ _).2 (.inr ⟨hupload, .inl hw⟩), fun _ => ?_⟩
  have hend : (now + kSettingsWait).toNat = t / 1000 + 2 := by
    rw [UInt32.toNat_add, hnow]
    exact Nat.mod_eq_of_lt (by rw [show kSettingsWait.toNat = 2 from rfl]; omega)
  refine wp_pass trivial ?_
  intro _ w₁ ht₁ hslept₁ hupload₁
  refine wp_pass trivial ?_
  intro _ w₂ ht₂ hslept₂ hupload₂
  refine wp_pass trivial ?_
  intro _ w₃ ht₃ hslept₃ hupload₃
  have hnone : w₃.slept = none := ((hslept₃.trans hslept₂).trans hslept₁).trans hw
  refine wp_seq (wp_unvisited (Q := fun _ => True) (by simp [useSettingsMac, Call.Closed]) hnone) ?_
  rintro _ w₄ ⟨-, ht₄, -, hupload₄⟩
  refine wp_pass trivial ?_
  intro _ w₅ ht₅ _ hupload₅
  refine wp_pass trivial ?_
  intro _ w₆ ht₆ _ hupload₆
  refine wp_call _ trivial ?_
  rintro _ w₇ ⟨-, t₇, ht₇, rfl⟩
  refine (wp_pure _ _ _ _).2 (.inr ⟨?_, .inr ⟨0, by decide, rfl, rfl, ?_, rfl, ?_⟩⟩)
  · rw [hupload₆, hupload₅, hupload₄, hupload₃, hupload₂, hupload₁]
    exact hupload
  · rw [hupload₆, hupload₅, hupload₄, hupload₃, hupload₂, hupload₁]
    exact hupload
  · show 1000 * (now + kSettingsWait).toNat + 1000 * 0 ≤ t₇ + 2000
    have ht₁' : t ≤ w₁.time := ht₁
    rw [hend]
    omega

/-! ## Runs -/

/-- A broadcasting machine is in no visit. -/
def Shut (_ : StateMachine) (w : Visit) : Prop := w.upload = false ∧ w.slept = none

theorem Shut.young (h : Shut s w) : Young s w := .inr ⟨h.1, .inl h.2⟩

theorem Young.shut (h : Young s w) (hb : s.state = .broadcasting) : Shut s w := by
  rcases h with hup | ⟨hupload, hslept | ⟨k, -, hv⟩⟩
  · exact absurd (hb.symm.trans hup) (by decide)
  · exact ⟨hupload, hslept⟩
  · exact absurd (hb.symm.trans hv.state) (by decide)

theorem wp_shut {α : Type} {p : Main α} {f : α → StateMachine} (h : Shut s w)
    (hp : wp (free Call.Closed fun _ _ => True) p (fun _ _ => True) ()) :
    wp visiting p (fun a w' => Shut (f a) w') w :=
  wp_mono (fun _ _ hw => ⟨hw.2.2.2.trans h.1, hw.2.2.1⟩) (wp_unvisited hp h.2)

theorem shut_rule : DutiesRule visiting Shut Young where
  uptime h _ := wp_shut (f := fun _ => _) h (by simp [Call.Closed])
  entry h _ := handleSettingsModeEntry_young h.1 h.2
  burst h _ := wp_shut (f := id) h (by simp [handleMaxPowerBurst, Call.Closed])
  rotation h _ := wp_mono (fun _ _ h => h.young) (wp_shut (f := id) h
    (by simp [handleKeyRotation, setMacFromCurrentKey, broadcast, Call.Closed]))
  button h hb := by
    have hwait (v : Unit) (Q : Unit → Unit → Prop) (hQ : Q () v) :
        wp (free Call.Closed fun _ _ => True) (waitButtonRelease 500) Q v :=
      waitButtonRelease_free (by simp [Call.Closed]) (by simp [Call.Closed]) (by simp [Call.Closed]) hQ
    exact wp_mono (fun _ _ h => h.young) (wp_shut (f := Prod.snd) (h.shut hb.state)
      (by simp [handleButtonLongpress, hwait, Call.Closed]))
  accelerometer h hb := wp_mono (fun _ _ h => h.young) (wp_shut (f := id) (h.shut hb.state)
    (by simp [handleAccelerometer, Call.Closed]))
  broadcast h hb := wp_mono (fun _ _ h => h.young) (wp_shut (f := id) (h.shut hb.state)
    (by simp [tickBroadcast, handleInitialBroadcast, handleAirtagFmdnAlternation, broadcast, Call.Closed]))

theorem tickBroadcasting_young (h : Shut s w) (hs : Broadcasting s) : wp visiting (tickBroadcasting s) Young w :=
  shut_rule.tickBroadcasting (fun h => h.young) (wp_shut (f := id) h (by simp [handleTimeSave, Call.Closed]))
    (fun h _ => wp_shut (f := id) h
      (by simp [handleBatteryCheck, updateBattery, updateStatus, broadcast, Call.Closed]))
    (fun h _ => wp_shut (f := Prod.snd) h (by simp [handleUvloShutdown, Call.Closed]))
    (fun h _ => wp_shut (f := Prod.snd) h (by simp [handleNokeysShutdown, Call.Closed]))
    (fun _ _ _ _ hm => hm.elim) hs

theorem syncGattState_young (h : Young s w) :
    wp visiting (syncGattState s) (fun s' w' => Young s' w' ∧ s'.state = s.state) w := by
  refine wp_pass trivial ?_
  intro f w' htime hslept hupload
  refine (wp_pure _ _ _ _).2 ⟨?_, rfl⟩
  rcases h with hup | ⟨hshut, hnone | ⟨k, hk, hv⟩⟩
  · exact .inl hup
  · exact .inr ⟨hupload.trans hshut, .inl (hslept.trans hnone)⟩
  · exact .inr ⟨hupload.trans hshut, .inr ⟨k, hk, hv.state, hv.settings, hupload.trans hv.upload,
      hslept.trans hv.slept, le_trans hv.window (Nat.add_le_add_right htime _)⟩⟩

theorem tick_young (h : Young s w) (hs : s.state ≠ .initializing) : wp visiting (tick s) Young w := by
  by_cases hend : s.state = .shuttingDown ∨ s.state = .firmwareUpload
  · rw [tick_of_ended hend]
    exact (wp_pure _ _ _ _).2 h
  rw [tick_of_running hend]
  rcases h with hup | ⟨hupload, hnone | ⟨k, hk, hv⟩⟩
  · exact absurd (.inr hup) hend
  · have hsleep : wp (free Call.Closed fun _ _ => True) (tickSleep s)
        (fun s' _ => s'.state = s.state ∧ s'.broadcastingSettings = s.broadcastingSettings) () := by
      simp [tickSleep, Call.Closed]
    refine wp_seq (wp_unvisited hsleep hnone) ?_
    rintro s₁ w₁ ⟨⟨hstate, -⟩, -, hslept, hupload₁⟩
    rw [← hstate] at hs hend
    rw [wp_ite]
    exact ⟨fun _ => exit_of_closed (hupload₁.trans hupload) hslept,
      fun hmode => tickBroadcasting_young ⟨hupload₁.trans hupload, hslept⟩
        (broadcasting_of_running hs hend hmode)⟩
  · refine wp_seq (tickSleep_visiting hv hk) ?_
    intro s₁ w₁ h₁
    rw [if_pos (.inl h₁.state)]
    exact exit_of_visiting h₁ (Nat.succ_le_succ hk)

/-- What a round relies on, and what it leaves. -/
def Visited (s : StateMachine) (w : Visit) : Prop := Young s w ∧ s.state ≠ .initializing

theorem mainLoop_visited (h : Visited s w) : wp visiting (mainLoop s) Visited w := by
  refine wp_mode ?_ (mainLoop_started h.2)
  refine wp_seq (syncGattState_young h.1) ?_
  rintro s₁ w₁ ⟨h₁, hstate⟩
  exact tick_young h₁ (hstate ▸ h.2)

/-- A start needs neither the connectable advertisement nor an upload. -/
theorem initializeMachine_visited : wp visiting (initializeMachine {}) Visited {} := by
  let P : Policy := { Policy.any True False with mode := False }
  have hP : P.Sound := ⟨fun _ _ => trivial, fun _ _ => trivial, fun _ _ _ _ => trivial⟩
  have hclosed {c : Call} (hc : c.Within P) : c.Closed :=
    ⟨fun h => hc.mode (by rw [h]; rfl), fun h => hc.dfu h⟩
  have hinit : wp visiting (initializeMachine {}) (fun _ w => w.upload = false ∧ w.slept = none) {} := by
    refine wp_mono (fun _ _ h => h.2) (wp_frame (E := visiting) (initializeMachine_calls hP trivial trivial)
      (fun w => w.upload = false ∧ w.slept = none) (fun _ _ _ h => h.elim) (fun w c hc h => ?_) ⟨rfl, rfl⟩)
    refine ⟨Visit.allows_of_none c h.2, fun a w' hs => ⟨answers_of_config (fun _ => trivial) c a, ?_⟩⟩
    obtain ⟨-, hslept, hupload⟩ := Visit.Next.closed hs.2 (hclosed hc) h.2
    exact ⟨hupload.trans h.1, hslept⟩
  exact wp_mono (fun s' w' h => ⟨.inr ⟨h.1.1, .inl h.1.2⟩, h.2⟩) (wp_mode hinit initializeMachine_started)

/-- The sleeps of the visit, if there is one, are within its limit. -/
def Visit.Within (w : Visit) : Prop := ∀ v, w.slept = some v → v ≤ w.limit

theorem Visit.Within.rest {ms t : Nat} (hroom : w.Room ms) : (w.rest ms t).Within := by
  intro v hv
  obtain ⟨v', hv', rfl⟩ := Option.map_eq_some_iff.1 hv
  exact hroom v' hv'

/-- What `power_off` or `reboot` may sleep, as far as it gets. -/
theorem Visit.Within.stop {p q : Hardware Unit} (h : w.Within) (hp : wp resting p (fun _ _ => True) w.stop)
    (hr : Reaches resting (p, w.stop) (q, w')) : w'.Within := by
  have hstop : w.stop.Within := fun v hv => le_trans (h v hv) (Visit.limit_le (fun h => h) fun _ => rfl)
  refine reaches_keeps_of_allowed (E := resting) (fun _ _ _ hm => hm.elim) ?_ hp hr hstop
  rintro w₁ c a _ - hroom ⟨t, -, rfl⟩
  exact Visit.Within.rest hroom

theorem Visit.Next.within {c : Call} {a : c.Ans} (h : w.Next c a w') (hc : w.Allows c) (hw : w.Within) :
    w'.Within := by
  cases c with
  | enableDfu =>
    obtain ⟨t, -, rfl⟩ := h
    exact fun v hv => le_trans (hw v hv) (Visit.limit_le (fun _ => rfl) fun h => h)
  | startSettingsAdv =>
    obtain ⟨t, -, rfl⟩ := h
    intro v hv
    obtain rfl : 0 = v := Option.some.inj hv
    exact Nat.zero_le _
  | stopSettingsAdv =>
    obtain ⟨t, -, rfl⟩ := h
    nofun
  | powerOff =>
    obtain ⟨b, q, hr⟩ := h
    exact hw.stop (hc b) hr
  | reboot =>
    obtain ⟨q, hr⟩ := h
    exact hw.stop hc hr
  | uptimeSeconds =>
    obtain ⟨t, -, -, -, rfl⟩ := h
    exact hw
  | sleepMs | blinkLed =>
    obtain ⟨t, -, rfl⟩ := h
    exact Visit.Within.rest hc
  | _ =>
    obtain ⟨t, -, rfl⟩ := h
    exact hw

end

/-- Whatever its clients do, a device that is up can be connected to for eight seconds of sleep at a time, or for
sixty in a firmware upload and nine more while it reboots; and unless it has begun an upload, a round of the main
loop never ends later than one second into a settings visit without having ended it. -/
theorem settings_visit_bounded :
    (∀ (p : Main StateMachine) (w : Visit), During visiting (initializeMachine {}) mainLoop (· = {}) p w →
      ∀ v, w.slept = some v → v ≤ w.limit) ∧
    ∀ (s : StateMachine) (w : Visit), Boundary visiting (initializeMachine {}) mainLoop (· = {}) s w →
      ∀ v, w.slept = some v → s.state = .firmwareUpload ∨ s.state = .settingsMode ∧ v ≤ 1000 := by
  have hstart (w : Visit) (hw : w = {}) : wp visiting (initializeMachine {}) Visited w :=
    hw ▸ initializeMachine_visited
  refine ⟨fun p w h => ?_, fun s w h v hv => ?_⟩
  · refine during_keeps_of_allowed (E := visiting) (J := Visit.Within) hstart
      (fun s w => mainLoop_visited) (fun w hw => ?_) (fun _ _ _ h => h.elim) (fun w c a w' hw hc hs => ?_) h
    · rw [hw]
      nofun
    · exact Visit.Next.within hs.2 hc hw
  · have hyoung : Young s w := (boundary_inv hstart (fun s w => mainLoop_visited) h).1
    rcases hyoung with hup | ⟨-, hnone | ⟨k, hk, hvisit⟩⟩
    · exact .inl hup
    · rw [hnone] at hv
      cases hv
    · obtain rfl : 1000 * k = v := Option.some.inj (hvisit.slept.symm.trans hv)
      exact .inr ⟨hvisit.state, Nat.mul_le_mul_left 1000 hk⟩

/-- A rest of no more than it is asked for. -/
def Visit.doze (w : Visit) (c : HardwareCall) : Option (c.Ans × Visit) :=
  some (match c with
    | .configureWake | .accelPowerdown => (0 : Int)
    | .wdtDisable | .storeTime | .sysPoweroff | .sysReboot | .sleepMs _ => (),
    w.rest c.lasts (w.time + c.lasts))

/-- A device at rest, which takes no time but for its sleeps, at the uptime `now` or later. -/
def Visit.serve (now : Nat) (flags : GattFlags) (w : Visit) (c : Call) : Option (c.Ans × Visit) :=
  if w.stopping then none
  else match c with
    | .powerOff => none
    | .reboot => (ZephyrHardware.reboot.play Visit.doze w.stop).map fun x => ((), x.2)
    | .enableDfu => some ((), { w with upload := true })
    | .startSettingsAdv => some ((), { w with slept := some 0 })
    | .stopSettingsAdv => some ((), { w with slept := none })
    | .uptimeSeconds =>
      if max w.time (1000 * now) / 1000 < 4294960096 then
        some (UInt32.ofNat (max w.time (1000 * now) / 1000), { w with time := max w.time (1000 * now) })
      else none
    | .glueSyncGattState => some (flags, w)
    | .sleepMs ms => some ((), w.rest ms.toNat (w.time + ms.toNat))
    | .blinkLed count fast => some ((), w.rest (blinkDelay count fast) (w.time + blinkDelay count fast))
    | c => some (answers { turnedOn := true } 0 3000 c, w)

theorem visiting_step_serve {now : Nat} {flags : GattFlags} (w : Visit) (c : Call) (x : c.Ans × Visit)
    (hx : w.serve now flags c = some x) : visiting.step w c x.1 x.2 := by
  unfold Visit.serve at hx
  split at hx
  · cases hx
  refine ⟨by simpa using ‹¬ w.stopping = true›, ?_⟩
  cases c with
  | powerOff => cases hx
  | reboot =>
    obtain ⟨⟨_, w'⟩, hplay, rfl⟩ := Option.map_eq_some_iff.1 hx
    refine ⟨_, reaches_of_play (fun w c x hx => ?_) hplay⟩
    cases hx
    exact ⟨_, le_refl _, rfl⟩
  | uptimeSeconds =>
    dsimp only at hx
    split at hx
    · cases hx
      refine ⟨_, le_max_left _ _, ‹_›, ?_, rfl⟩
      exact Nat.mod_eq_of_lt (lt_trans ‹_› (by decide))
    · cases hx
  | _ =>
    cases hx
    exact ⟨_, le_refl _, rfl⟩

/-- A minute after the start the settings window opens, and it is open one tick later.  A client that is there
asks for an upload then, and can stay for sixty-nine seconds. -/
theorem settings_visit_bounded_minute :
    (∃ (s : StateMachine) (w : Visit), Boundary visiting (initializeMachine {}) mainLoop (· = {}) s w ∧
      w.slept = some 1000 ∧ (s.state = .firmwareUpload ∨ s.state = .settingsMode ∧ 1000 ≤ 1000)) ∧
    ∃ (p : Main StateMachine) (w : Visit), During visiting (initializeMachine {}) mainLoop (· = {}) p w ∧
      w.slept = some 69000 ∧ 69000 ≤ w.limit := by
  let quiet : GattFlags := ⟨false, false, false, false⟩
  let asking : GattFlags := ⟨true, true, true, false⟩
  obtain ⟨⟨s₀, w₀⟩, h₀, ⟨s₁, w₁⟩, h₁, ⟨s₂, w₂⟩, h₂, ⟨s₃, w₃⟩, h₃, hslept⟩ :
      ∃ x₀ ∈ (initializeMachine {}).play (Visit.serve 0 quiet) {},
      ∃ x₁ ∈ (mainLoop x₀.1).play (Visit.serve 60 quiet) x₀.2,
      ∃ x₂ ∈ (mainLoop x₁.1).play (Visit.serve 0 quiet) x₁.2,
      ∃ x₃ ∈ (mainLoop x₂.1).play (Visit.serve 0 asking) x₂.2,
        x₂.2.slept = some 1000 ∧ x₃.2.slept = some 69000 := by decide +kernel
  have hrun : Boundary visiting (initializeMachine {}) mainLoop (· = {}) s₂ w₂ :=
    .iter (.iter (.start rfl (reaches_of_play visiting_step_serve h₀)) (reaches_of_play visiting_step_serve h₁))
      (reaches_of_play visiting_step_serve h₂)
  have hupload : During visiting (initializeMachine {}) mainLoop (· = {}) (.ret s₃) w₃ :=
    .iter hrun (reaches_of_play visiting_step_serve h₃)
  exact ⟨⟨s₂, w₂, hrun, hslept.1, settings_visit_bounded.2 s₂ w₂ hrun 1000 hslept.1⟩,
    .ret s₃, w₃, hupload, hslept.2, settings_visit_bounded.1 _ w₃ hupload 69000 hslept.2⟩

end Everytag
