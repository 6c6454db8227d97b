import Everytag.Tick
import Everytag.Validity

/-!
# No periodic duty is starved

A broadcasting tick reads the uptime anew for each of its duties, and several of them end it early.  A
`Duty` has a timer that keeps the uptime at which it was done last, and an interval; the battery and the status
bytes go by the same timer (`Duty.timer`).  `Progress` lists the timers a tick has seen to so far; the others are
as they were.  At the end of a tick that is still broadcasting all six are on the list.
-/

namespace Everytag

open Interaction StateMachine

inductive Duty
  | timeSave | batteryCheck | status | settingsMode | maxPower | airtagSwitch | accelRead
deriving DecidableEq, Repr

namespace Duty

/-- The duty whose timer it goes by. -/
def timer : Duty → Duty
  | status => batteryCheck
  | d => d

/-- When the duty was done last. -/
def last (s : StateMachine) : Duty → UInt32
  | timeSave => s.timers.timeSave
  | batteryCheck | status => s.timers.batteryCheck
  | settingsMode => s.timers.settingsMode
  | maxPower => s.timers.maxPower
  | airtagSwitch => s.timers.airtagSwitch
  | accelRead => s.timers.accelRead

def interval (cfg : BeaconConfig) : Duty → UInt32
  | timeSave => kIntervalTimeSave
  | batteryCheck | status => kIntervalBatteryCheck
  | settingsMode => kIntervalSettings
  | maxPower => kIntervalMaxPower
  | airtagSwitch => cfg.changeInterval.toUInt32
  | accelRead => kIntervalAccelerometer

/-- The configuration asks for the duty. -/
def Applies (cfg : BeaconConfig) : Duty → Prop
  | timeSave | batteryCheck | status | settingsMode => True
  | maxPower => cfg.txPower ≠ 2 ∧ cfg.flagFmdn = true ∧ cfg.flagAirtag = true
  | airtagSwitch => cfg.flagAirtag = true ∧ cfg.numKeys > 0
  | accelRead => cfg.accelThreshold > 0

/-- The call that does the duty.  What the battery check reads, it keeps in `last_battery_voltage_`
(`updateBattery_reads`), and the status bytes are made of it. -/
def DoneBy : Duty → Call → Prop
  | timeSave, c => c = .storeTime
  | batteryCheck, c => c = .batteryVoltage
  | status, c => ∃ airtagStatus fmdnStatus, c = .setStatusBytes airtagStatus fmdnStatus
  | settingsMode, c => c = .startSettingsAdv
  | maxPower, c => c = .setTxPower 2
  | airtagSwitch, c => ∃ key, c = .prepareAirtag key
  | accelRead, c => c = .accelRead

/-- No interval is zero or above that of the slowest rotation. -/
theorem interval_bounds {cfg : BeaconConfig} (h : cfg.Valid) (d : Duty) :
    0 < (d.interval cfg).toNat ∧ (d.interval cfg).toNat ≤ 7200 := by
  cases d with
  | airtagSwitch =>
    obtain ⟨-, hlo, hhi⟩ := h.changeInterval
    have hlo' : 32 ≤ cfg.changeInterval.toNat := UInt16.le_iff_toNat_le.1 hlo
    have hhi' : cfg.changeInterval.toNat ≤ 7200 := UInt16.le_iff_toNat_le.1 hhi
    simp only [interval, UInt16.toNat_toUInt32]
    omega
  | _ =>
    simp only [interval]
    decide

theorem last_timer (s : StateMachine) (d : Duty) : d.timer.last s = d.last s := by
  cases d <;> rfl

theorem interval_timer (cfg : BeaconConfig) (d : Duty) : d.timer.interval cfg = d.interval cfg := by
  cases d <;> rfl

theorem Applies.timer {cfg : BeaconConfig} {d : Duty} (h : d.Applies cfg) : d.timer.Applies cfg := by
  cases d <;> exact h

/-- All but the battery check have their timers to themselves. -/
theorem done_alone {cs : List Call} {d : Duty} {c : Call} (hne : d ≠ .batteryCheck) (hc : c ∈ cs)
    (hd : d.DoneBy c) (e : Duty) (he : e.timer = d) : ∃ c ∈ cs, e.DoneBy c := by
  obtain rfl : e = d := by
    cases e with
    | status => exact absurd he.symm hne
    | _ => exact he
  exact ⟨c, hc, hd⟩

end Duty

/-! ## A tick -/

/-- The first and the latest uptime that a tick has read, and its calls. -/
structure TickLog where
  first : Option UInt32 := none
  latest : UInt32 := 0
  calls : List Call := []
deriving DecidableEq, Repr

namespace TickLog

/-- Uptimes do not decrease, and stay clear of the end of their range. -/
@[simp] def Next (w : TickLog) : (c : Call) → c.Ans → TickLog → Prop
  | .uptimeSeconds, now, w' => w.latest ≤ now ∧ now.toNat < 4294960096 ∧
    w' = ⟨some (w.first.getD now), now, w.calls ++ [.uptimeSeconds]⟩
  | c, _, w' => w' = { w with calls := w.calls ++ [c] }

/-- `w'` comes later in the same tick. -/
structure Later (w w' : TickLog) : Prop where
  first : ∀ u, w.first = some u → w'.first = some u
  latest : w.latest ≤ w'.latest
  calls : ∀ c ∈ w.calls, c ∈ w'.calls

theorem Later.refl (w : TickLog) : w.Later w := ⟨fun _ h => h, UInt32.le_refl _, fun _ h => h⟩

theorem Later.trans {w₁ w₂ w₃ : TickLog} (h : w₁.Later w₂) (h' : w₂.Later w₃) : w₁.Later w₃ :=
  ⟨fun u hu => h'.1 u (h.1 u hu), UInt32.le_trans h.2 h'.2, fun c hc => h'.3 c (h.3 c hc)⟩

theorem Next.later {w w' : TickLog} {c : Call} {a : c.Ans} (h : w.Next c a w') : w.Later w' := by
  cases c with
  | uptimeSeconds =>
    obtain ⟨hle, -, rfl⟩ := h
    exact ⟨fun u hu => by simp [hu], hle, fun c hc => List.mem_append_left _ hc⟩
  | _ =>
    cases h
    exact ⟨fun _ hu => hu, UInt32.le_refl _, fun c hc => List.mem_append_left _ hc⟩

theorem Next.mem {w w' : TickLog} {c : Call} {a : c.Ans} (h : w.Next c a w') : c ∈ w'.calls := by
  cases c with
  | uptimeSeconds =>
    obtain ⟨-, -, rfl⟩ := h
    exact List.mem_append_right _ List.mem_cons_self
  | _ =>
    cases h
    exact List.mem_append_right _ List.mem_cons_self

end TickLog

/-- A tick with the configuration `cfg`. -/
def ticking (cfg : BeaconConfig) : World Call Call.Ans TickLog where
  allowed _ _ := True
  step w c a w' := Steady cfg c a ∧ w.Next c a w'
  move _ _ := False

section

variable {cfg : BeaconConfig} {s s' s₀ : StateMachine} {w w' : TickLog} {u : UInt32}

instance : (ticking cfg).Sequential := ⟨fun _ _ h => h⟩

@[simp] theorem ticking_allowed (c : Call) : (ticking cfg).allowed w c ↔ True := Iff.rfl

@[simp] theorem ticking_step (c : Call) (a : c.Ans) :
    (ticking cfg).step w c a w' ↔ Steady cfg c a ∧ w.Next c a w' := Iff.rfl

/-- What a program returns in every world it returns here, and the log grows. -/
theorem wp_ticking {α : Type} {p : Main α} {Q : α → Prop}
    (hp : wp (calls (.any True True)) p (fun a _ => Q a) ()) :
    wp (ticking cfg) p (fun a w' => Q a ∧ w.Later w') w := by
  refine wp_frame (E := ticking cfg) hp w.Later (fun _ _ _ h => h.elim) (fun w₁ c _ h₁ => ?_) (.refl w)
  refine ⟨trivial, fun a w₂ hs => ⟨answers_of_config (fun _ => trivial) c a, ?_⟩⟩
  exact h₁.trans hs.2.later

theorem wp_later {α : Type} {c : Call} {k : c.Ans → Main α} {Q : α → TickLog → Prop}
    (hk : ∀ a w', Steady cfg c a → w.Later w' → c ∈ w'.calls → wp (ticking cfg) (k a) Q w') :
    wp (ticking cfg) (issue c >>= k) Q w := by
  refine wp_call _ trivial ?_
  intro a w' hs
  exact hk a w' hs.1 hs.2.later hs.2.mem

theorem wp_now {α : Type} {k : UInt32 → Main α} {Q : α → TickLog → Prop}
    (hk : ∀ now w', w.Later w' → w.latest ≤ now → now.toNat < 4294960096 → w'.latest = now →
      w'.first = some (w.first.getD now) → wp (ticking cfg) (k now) Q w') :
    wp (ticking cfg) (issue .uptimeSeconds >>= k) Q w := by
  refine wp_call _ trivial ?_
  intro now w' hs
  exact hk now w' hs.2.later hs.2.1 hs.2.2.1 (by rw [hs.2.2.2]) (by rw [hs.2.2.2])

/-- A configuration like `cfg`, whose other fields are those of `cfg`. -/
theorem wp_cfg {α : Type} {k : BeaconConfig → Main α} {Q : α → TickLog → Prop}
    (hk : ∀ on w', w.Later w' → wp (ticking cfg) (k { cfg with turnedOn := on }) Q w') :
    wp (ticking cfg) (issue .config >>= k) Q w := by
  apply wp_later
  rintro _ w' ⟨on, rfl⟩ hw -
  exact hk on w' hw

theorem last_of_timers (h : s'.timers = s.timers) (d : Duty) : d.last s' = d.last s := by
  cases d <;> simp only [Duty.last, h]

/-- The duty is not due at `u`, or it was done since. -/
def Served (cfg : BeaconConfig) (u : UInt32) (s₀ s : StateMachine) (w : TickLog) (d : Duty) : Prop :=
  d.Applies cfg →
    d.last s = d.last s₀ ∧ u < d.last s₀ + d.interval cfg ∨
    u ≤ d.last s ∧ (d.last s).toNat < 4294960096 ∧ ∃ c ∈ w.calls, d.DoneBy c

/-- The tick that began in `s₀`, with the first uptime `u`, has seen to the duties with the timers `ds`. -/
structure Progress (cfg : BeaconConfig) (u : UInt32) (s₀ : StateMachine) (ds : List Duty)
    (s : StateMachine) (w : TickLog) : Prop where
  first : w.first = some u
  latest : u ≤ w.latest
  served : ∀ d : Duty, d.timer ∈ ds → Served cfg u s₀ s w d
  pending : ∀ d : Duty, d.timer ∉ ds → d.last s = d.last s₀

/-- What one handler does for the duties with its timer, and that it leaves the other timers alone. -/
structure Serves (cfg : BeaconConfig) (d : Duty) (s : StateMachine) (w : TickLog) (s' : StateMachine)
    (w' : TickLog) : Prop where
  later : w.Later w'
  others : ∀ e : Duty, e.timer ≠ d → e.last s' = e.last s
  served : ∀ e : Duty, e.timer = d → e.Applies cfg → ∃ now, w.latest ≤ now ∧
    (e.last s' = e.last s ∧ now < e.last s + e.interval cfg ∨
      e.last s' = now ∧ now.toNat < 4294960096 ∧ ∃ c ∈ w'.calls, e.DoneBy c)

theorem Serves.skip {d : Duty} {now : UInt32} (hw : w.Later w') (hs : s'.timers = s.timers)
    (hle : w.latest ≤ now) (hlt : d.Applies cfg → now < d.last s + d.interval cfg) :
    Serves cfg d s w s' w' := by
  refine ⟨hw, fun e _ => last_of_timers hs e, fun e he ha => ⟨now, hle, .inl ⟨last_of_timers hs e, ?_⟩⟩⟩
  rw [← e.last_timer, ← e.interval_timer, he]
  exact hlt (he ▸ ha.timer)

theorem Serves.act {d : Duty} {now : UInt32} (hw : w.Later w') (hs : ∀ e : Duty, e.timer ≠ d → e.last s' = e.last s)
    (hle : w.latest ≤ now) (hlt : now.toNat < 4294960096) (hnow : d.last s' = now)
    (hdone : ∀ e : Duty, e.timer = d → ∃ c ∈ w'.calls, e.DoneBy c) : Serves cfg d s w s' w' := by
  refine ⟨hw, hs, fun e he _ => ⟨now, hle, .inr ⟨?_, hlt, hdone e he⟩⟩⟩
  rw [← e.last_timer, he, hnow]

/-- A handler that goes on after its duty is done. -/
theorem Serves.later_log {d : Duty} {w₂ : TickLog} (h : Serves cfg d s w s' w') (hw : w'.Later w₂) :
    Serves cfg d s w s' w₂ := by
  refine ⟨h.later.trans hw, h.others, fun e he ha => ?_⟩
  obtain ⟨now, hle, hskip | ⟨hnow, hlt, c, hc, hd⟩⟩ := h.served e he ha
  · exact ⟨now, hle, .inl hskip⟩
  · exact ⟨now, hle, .inr ⟨hnow, hlt, c, hw.calls c hc, hd⟩⟩

theorem Served.later {d : Duty} (h : Served cfg u s₀ s w d) (hs : d.last s' = d.last s) (hw : w.Later w') :
    Served cfg u s₀ s' w' d := by
  intro ha
  rcases h ha with ⟨hsame, hlt⟩ | ⟨hle, hlt, c, hc, hd⟩
  · exact .inl ⟨hs.trans hsame, hlt⟩
  · exact .inr ⟨hs ▸ hle, hs ▸ hlt, c, hw.calls c hc, hd⟩

/-- A handler that has no duty. -/
theorem Progress.later {ds : List Duty} (h : Progress cfg u s₀ ds s w) (hs : s'.timers = s.timers)
    (hw : w.Later w') : Progress cfg u s₀ ds s' w' := by
  exact ⟨hw.first u h.first, UInt32.le_trans h.latest hw.latest,
    fun d hd => (h.served d hd).later (last_of_timers hs d) hw,
    fun d hd => (last_of_timers hs d).trans (h.pending d hd)⟩

theorem Progress.serve {ds : List Duty} {d : Duty} (h : Progress cfg u s₀ ds s w) (hd : d ∉ ds)
    (hs : Serves cfg d s w s' w') : Progress cfg u s₀ (d :: ds) s' w' := by
  refine ⟨hs.later.first u h.first, UInt32.le_trans h.latest hs.later.latest, fun e he => ?_, fun e he => ?_⟩
  · rcases List.mem_cons.1 he with hed | he
    · intro ha
      obtain ⟨now, hnow, ⟨hsame, hlt⟩ | ⟨hnew, hlt, hcall⟩⟩ := hs.served e hed ha
      · rw [h.pending e (hed ▸ hd)] at hsame hlt
        exact .inl ⟨hsame, UInt32.lt_of_le_of_lt (UInt32.le_trans h.latest hnow) hlt⟩
      · exact .inr ⟨hnew ▸ UInt32.le_trans h.latest hnow, hnew ▸ hlt, hcall⟩
    · exact (h.served e he).later (hs.others e fun hed => hd (hed ▸ he)) hs.later
  · rw [List.mem_cons, not_or] at he
    exact (hs.others e he.1).trans (h.pending e he.2)

/-! ## The handlers -/

/-- The first reading of the tick is that of the hourly save. -/
theorem handleTimeSave_begins (hw : w.first = none) : wp (ticking cfg) (handleTimeSave s)
    (fun s' w' => (∃ u, Progress cfg u s [.timeSave] s' w') ∧ s'.state = s.state) w := by
  apply wp_now
  intro now w₁ _ _ hlt hnow hfirst
  have h₁ : Progress cfg now s [] s w₁ := by
    refine ⟨?_, UInt32.le_of_eq hnow.symm, by simp, fun _ _ => rfl⟩
    rw [hfirst, hw, Option.getD_none]
  rw [wp_ite]
  refine ⟨fun hdue => ?_, fun hnot => ?_⟩
  · apply wp_later
    intro _ w₂ _ hw₂ hc
    refine (wp_pure _ _ _ _).2 ⟨⟨now, h₁.serve (by simp) ?_⟩, rfl⟩
    refine .act hw₂ (fun e he => ?_) (UInt32.le_of_eq hnow) hlt rfl (Duty.done_alone (by nofun) hc rfl)
    cases e <;> first | rfl | exact absurd rfl he
  · refine (wp_pure _ _ _ _).2 ⟨⟨now, h₁.serve (by simp) ?_⟩, rfl⟩
    exact .skip (.refl _) rfl (UInt32.le_of_eq hnow) fun _ => UInt32.not_le.1 hnot

theorem updateBattery_reads : wp (ticking cfg) (updateBattery s)
    (fun s' w' => (∃ v, s' = { s with lastBatteryVoltage := v }) ∧ w.Later w' ∧ .batteryVoltage ∈ w'.calls)
    w := by
  apply wp_later
  intro _ w₁ _ hw₁ _
  apply wp_later
  intro v w₂ _ hw₂ hc
  exact (wp_pure _ _ _ _).2 ⟨⟨_, rfl⟩, hw₁.trans hw₂, hc⟩

theorem updateStatus_sets : wp (ticking cfg) (updateStatus s)
    (fun s' w' => s' = { s with whatInStatus := s.whatInStatus.next } ∧ w.Later w' ∧
      ∃ airtagStatus fmdnStatus, .setStatusBytes airtagStatus fmdnStatus ∈ w'.calls) w := by
  apply wp_later
  intro _ w₁ _ hw₁ _
  apply wp_later
  intro _ w₂ _ hw₂ _
  apply wp_later
  intro _ w₃ _ hw₃ _
  apply wp_later
  intro _ w₄ _ hw₄ hc
  exact (wp_pure _ _ _ _).2 ⟨rfl, ((hw₁.trans hw₂).trans hw₃).trans hw₄, _, _, hc⟩

theorem handleBatteryCheck_serves : wp (ticking cfg) (handleBatteryCheck s)
    (fun s' w' => Serves cfg .batteryCheck s w s' w' ∧ s'.state = s.state) w := by
  apply wp_now
  intro now w₁ hw₁ hle hlt _ _
  refine wp_ite.2 ⟨fun hnot => ?_, fun hdue => ?_⟩
  · exact (wp_pure _ _ _ _).2 ⟨.skip hw₁ rfl hle fun _ => hnot, rfl⟩
  · refine wp_seq updateBattery_reads ?_
    rintro _ w₂ ⟨⟨v, rfl⟩, hw₂, hc⟩
    refine wp_seq updateStatus_sets ?_
    rintro _ w₃ ⟨rfl, hw₃, airtagStatus, fmdnStatus, hset⟩
    apply wp_cfg
    intro on w₄ hw₄
    have hdone (e : Duty) (he : e.timer = .batteryCheck) : ∃ c ∈ w₄.calls, e.DoneBy c := by
      cases e with
      | batteryCheck => exact ⟨_, (hw₃.trans hw₄).calls _ hc, rfl⟩
      | status => exact ⟨_, hw₄.calls _ hset, airtagStatus, fmdnStatus, rfl⟩
      | _ => cases he
    have h₄ (b : Bool) : Serves cfg .batteryCheck s w
        { s with timers := { s.timers with batteryCheck := now }, lastBatteryVoltage := v,
                 whatInStatus := s.whatInStatus.next, broadcastingAnything := b } w₄ := by
      refine .act (((hw₁.trans hw₂).trans hw₃).trans hw₄) (fun e he => ?_) hle hlt rfl hdone
      cases e <;> first | rfl | exact absurd rfl he
    refine wp_ite.2 ⟨fun _ => ?_, fun _ => ?_⟩
    · refine wp_mono ?_ (wp_ticking (broadcast_only trivial))
      rintro _ w₅ ⟨⟨b, rfl⟩, hw₅⟩
      exact ⟨(h₄ b).later_log hw₅, rfl⟩
    · exact (wp_pure _ _ _ _).2 ⟨h₄ _, rfl⟩

theorem handleAccelerometer_serves : wp (ticking cfg) (handleAccelerometer s)
    (fun s' w' => Serves cfg .accelRead s w s' w' ∧ s'.state = s.state) w := by
  apply wp_now
  intro now w₁ hw₁ hle hlt _ _
  apply wp_cfg
  intro on w₂ hw₂
  refine wp_ite.2 ⟨fun hoff => ?_, fun _ => wp_ite.2 ⟨fun hnot => ?_, fun _ => ?_⟩⟩
  · have hnot : ¬ Duty.accelRead.Applies cfg := UInt16.not_lt.2 hoff
    exact (wp_pure _ _ _ _).2 ⟨.skip (hw₁.trans hw₂) rfl hle fun ha => absurd ha hnot, rfl⟩
  · exact (wp_pure _ _ _ _).2 ⟨.skip (hw₁.trans hw₂) rfl hle fun _ => hnot, rfl⟩
  · apply wp_later
    intro _ w₃ _ hw₃ hc
    have h₃ (reset : UInt32) : Serves cfg .accelRead s w
        { s with timers := { s.timers with accelRead := now, accelReset := reset } } w₃ := by
      refine .act ((hw₁.trans hw₂).trans hw₃) (fun e he => ?_) hle hlt rfl (Duty.done_alone (by nofun) hc rfl)
      cases e <;> first | rfl | exact absurd rfl he
    rw [wp_ite]
    refine ⟨fun _ => ?_, fun _ => ?_⟩
    · apply wp_later
      intro _ w₄ _ hw₄ _
      exact (wp_pure _ _ _ _).2 ⟨(h₃ now).later_log hw₄, rfl⟩
    · exact (wp_pure _ _ _ _).2 ⟨h₃ _, rfl⟩

/-- The end of a burst, if there is one. -/
theorem endBurst_later {s : StateMachine} {now : UInt32} (h : Serves cfg .maxPower s₀ w s w')
    (hs : s.state = s₀.state) :
    wp (ticking cfg)
      (if s.timers.endMaxPower > 0 && s.timers.endMaxPower ≤ now then do
        let cfg ← issue .config
        issue (.setTxPower cfg.txPower.toNat)
        pure { s with timers := { s.timers with endMaxPower := 0 } }
      else pure s) (fun s' w' => Serves cfg .maxPower s₀ w s' w' ∧ s'.state = s₀.state) w' := by
  by_cases hend : (decide (s.timers.endMaxPower > 0) && decide (s.timers.endMaxPower ≤ now)) = true
  · rw [if_pos hend]
    apply wp_cfg
    intro on w₄ hw₄
    apply wp_later
    intro _ w₅ _ hw₅ _
    have h₅ := (h.later_log hw₄).later_log hw₅
    exact (wp_pure _ _ _ _).2 ⟨⟨h₅.later, h₅.others, h₅.served⟩, hs⟩
  · rw [if_neg hend]
    exact (wp_pure _ _ _ _).2 ⟨h, hs⟩

theorem handleMaxPowerBurst_serves : wp (ticking cfg) (handleMaxPowerBurst s)
    (fun s' w' => Serves cfg .maxPower s w s' w' ∧ s'.state = s.state) w := by
  apply wp_now
  intro now w₁ hw₁ hle hlt _ _
  apply wp_cfg
  intro on w₂ hw₂
  dsimp only
  by_cases hdue : (cfg.txPower != 2 && cfg.flagFmdn && cfg.flagAirtag &&
      decide (s.timers.maxPower + kIntervalMaxPower ≤ now)) = true
  · rw [if_pos hdue]
    apply wp_later
    intro _ w₃ _ hw₃ hc
    have h₃ (reset : UInt32) : Serves cfg .maxPower s w
        { s with timers := { s.timers with maxPower := now, endMaxPower := reset } } w₃ := by
      refine .act ((hw₁.trans hw₂).trans hw₃) (fun e he => ?_) hle hlt rfl (Duty.done_alone (by nofun) hc rfl)
      cases e <;> first | rfl | exact absurd rfl he
    exact endBurst_later (h₃ _) rfl
  · rw [if_neg hdue]
    have hskip : Serves cfg .maxPower s w s w₂ := by
      refine .skip (hw₁.trans hw₂) rfl hle fun ha => ?_
      have hnot : now < s.timers.maxPower + kIntervalMaxPower := by
        simpa [ha.1, ha.2.1, ha.2.2] using hdue
      exact hnot
    exact endBurst_later hskip rfl

theorem setMacFromCurrentKey_calls {P : Policy} (hP : P.Sound) {u : Unit} :
    wp (calls P) (setMacFromCurrentKey s) (fun s' _ => ∃ addr, s' = { s with bleAddr := addr }) u := by
  have hself : ∃ addr, s = { s with bleAddr := addr } := ⟨s.bleAddr, rfl⟩
  simpa [setMacFromCurrentKey] using fun cfg hcfg => ⟨hP.index cfg s.currentKey hcfg, fun _ => hself⟩

theorem handleKeyRotation_serves : wp (ticking cfg) (handleKeyRotation s)
    (fun s' w' => Serves cfg .airtagSwitch s w s' w' ∧ s'.state = s.state) w := by
  apply wp_now
  intro now w₁ hw₁ hle hlt _ _
  apply wp_cfg
  intro on w₂ hw₂
  refine wp_ite.2 ⟨fun hoff => ?_, fun _ => wp_ite.2 ⟨fun hnot => ?_, fun _ => ?_⟩⟩
  · have hnot : ¬ Duty.airtagSwitch.Applies cfg := by
      rintro ⟨hflag, hkeys⟩
      have hne : cfg.numKeys ≠ 0 := UInt8.pos_iff_ne_zero.1 hkeys
      simp [hflag, hne] at hoff
    exact (wp_pure _ _ _ _).2 ⟨.skip (hw₁.trans hw₂) rfl hle fun ha => absurd ha hnot, rfl⟩
  · exact (wp_pure _ _ _ _).2 ⟨.skip (hw₁.trans hw₂) rfl hle fun _ => hnot, rfl⟩
  · apply wp_later
    intro _ w₃ _ hw₃ _
    apply wp_later
    intro _ w₄ _ hw₄ _
    apply wp_later
    intro _ w₅ _ hw₅ _
    apply wp_later
    intro key w₆ _ hw₆ _
    apply wp_later
    intro _ w₇ _ hw₇ hc
    have hw₂₇ : w.Later w₇ :=
      ((((((hw₁.trans hw₂).trans hw₃).trans hw₄).trans hw₅).trans hw₆).trans hw₇)
    refine wp_seq (wp_ticking (setMacFromCurrentKey_calls Policy.any_sound)) ?_
    rintro _ w₈ ⟨⟨addr, rfl⟩, hw₈⟩
    have h₈ (b : Bool) : Serves cfg .airtagSwitch s w
        { s with timers := { s.timers with airtagSwitch := now }, currentKey := rotate s.currentKey cfg.numKeys,
                 keysChanges := s.keysChanges + 1, broadcastingAnything := b, bleAddr := addr } w₈ := by
      refine .act (hw₂₇.trans hw₈) (fun e he => ?_) hle hlt rfl
        (Duty.done_alone (by nofun) (hw₈.calls _ hc) ⟨key, rfl⟩)
      cases e <;> first | rfl | exact absurd rfl he
    apply wp_later
    intro _ w₉ _ hw₉ _
    apply wp_later
    intro _ w₁₀ _ hw₁₀ _
    apply wp_later
    intro _ w₁₁ _ hw₁₁ _
    apply wp_later
    intro _ w₁₂ _ hw₁₂ _
    refine wp_mono ?_ (wp_ticking (broadcast_only trivial))
    rintro _ w₁₃ ⟨⟨b, rfl⟩, hw₁₃⟩
    exact ⟨(h₈ b).later_log ((((hw₉.trans hw₁₀).trans hw₁₁).trans hw₁₂).trans hw₁₃), rfl⟩

/-- Due at a reading of the tick, the settings window opens. -/
theorem handleSettingsModeEntry_enters (hdue : s.timers.settingsMode + kIntervalSettings ≤ w.latest) :
    wp (ticking cfg) (handleSettingsModeEntry s) (fun s' _ => s'.state = .settingsMode) w := by
  apply wp_now
  intro now w₁ hw₁ hle _ _ _
  refine wp_ite.2 ⟨fun hlt => ?_, fun _ => ?_⟩
  · exact absurd hlt (UInt32.not_lt.2 (UInt32.le_trans hdue hle))
  · simp [useSettingsMac]

theorem tickBroadcast_timers {P : Policy} (hr : P.radio) {v : Unit} : wp (calls P) (tickBroadcast s)
    (fun s' _ => s'.timers = s.timers ∧ s'.state = s.state ∧
      s'.broadcastingSettings = s.broadcastingSettings) v := by
  simp [tickBroadcast, handleInitialBroadcast, handleAirtagFmdnAlternation, broadcast_calls, hr]

/-- The tick has seen to every duty. -/
def AllServed (cfg : BeaconConfig) (s₀ s : StateMachine) (w : TickLog) : Prop :=
  ∃ u, w.first = some u ∧ ∀ d, Served cfg u s₀ s w d

theorem tickDuties_served (h : Progress cfg u s₀ [.batteryCheck, .timeSave] s w) :
    wp (ticking cfg) (tickDuties s) (fun s' w' => s'.state = .broadcasting → AllServed cfg s₀ s' w') w := by
  apply wp_now
  intro now w₁ hw₁ hle _ hnow _
  rw [wp_ite]
  refine ⟨fun hdue => ?_, fun hnot => ?_⟩
  · refine wp_mono (fun s' w' hs' hb => ?_) (handleSettingsModeEntry_enters (hnow ▸ hdue))
    rw [hs'] at hb
    cases hb
  have h₁ := h.serve (d := .settingsMode) (by simp)
    (.skip hw₁ rfl hle fun _ => UInt32.not_le.1 hnot)
  refine wp_seq handleMaxPowerBurst_serves ?_
  rintro s₂ w₂ ⟨hs₂, -⟩
  have h₂ := h₁.serve (by simp) hs₂
  refine wp_seq handleKeyRotation_serves ?_
  rintro s₃ w₃ ⟨hs₃, -⟩
  have h₃ := h₂.serve (by simp) hs₃
  refine wp_seq (wp_ticking (handleButtonLongpress_calls Policy.any_sound trivial trivial)) ?_
  rintro r w₄ ⟨hr, hw₄⟩
  rcases hr with rfl | rfl
  · refine wp_seq handleAccelerometer_serves ?_
    rintro s₅ w₅ ⟨hs₅, -⟩
    have h₅ := (h₃.later rfl hw₄).serve (by simp) hs₅
    refine wp_mono ?_ (wp_ticking (tickBroadcast_timers trivial))
    rintro s₆ w₆ ⟨⟨htimers, -, -⟩, hw₆⟩ -
    have h₆ := h₅.later htimers hw₆
    exact ⟨u, h₆.first, fun d => h₆.served d (by cases d <;> simp [Duty.timer])⟩
  · refine (wp_pure _ _ _ _).2 fun hb => ?_
    cases hb

theorem tickBroadcasting_served (hw : w.first = none) : wp (ticking cfg) (tickBroadcasting s)
    (fun s' w' => s'.state = .broadcasting → AllServed cfg s s' w') w := by
  refine wp_seq (handleTimeSave_begins hw) ?_
  rintro s₁ w₁ ⟨⟨u, h₁⟩, -⟩
  refine wp_seq handleBatteryCheck_serves ?_
  rintro s₂ w₂ ⟨hs₂, -⟩
  have h₂ := h₁.serve (by simp) hs₂
  refine wp_seq (wp_ticking (handleUvloShutdown_calls trivial trivial)) ?_
  rintro r w₃ ⟨⟨n, b, hr⟩, hw₃⟩
  rcases hr with rfl | rfl
  · refine wp_seq (wp_ticking handleNokeysShutdown_calls) ?_
    rintro r w₄ ⟨hr, hw₄⟩
    rcases hr with rfl | rfl
    · exact tickDuties_served ((h₂.later rfl hw₃).later rfl hw₄)
    · refine (wp_pure _ _ _ _).2 fun hb => ?_
      cases hb
  · refine (wp_pure _ _ _ _).2 fun hb => ?_
    cases hb

theorem syncGattState_later : wp (ticking cfg) (syncGattState s)
    (fun s' w' => OnlyFlags s s' ∧ w.first = w'.first) w := by
  simp [syncGattState]

theorem tickSleep_later : wp (ticking cfg) (tickSleep s)
    (fun s' w' => OnlyLock s s' ∧ w.first = w'.first) w := by
  simp [tickSleep]

theorem mainLoop_served (hs : s.state = .broadcasting) (hsettings : s.broadcastingSettings = false)
    (hw : w.first = none) : wp (ticking cfg) (mainLoop s)
    (fun s' w' => s'.state = .broadcasting → AllServed cfg s s' w') w := by
  refine wp_seq syncGattState_later ?_
  rintro s₁ w₁ ⟨⟨f, hs₁⟩, hw₁⟩
  have hstate₁ : s₁.state = .broadcasting := by rw [hs₁]; exact hs
  rw [tick_of_running (by simp [hstate₁])]
  refine wp_seq tickSleep_later ?_
  rintro s₂ w₂ ⟨⟨n, -, hs₂⟩, hw₂⟩
  have hsame : s₂.timers = s.timers ∧ s₂.state = .broadcasting ∧ s₂.broadcastingSettings = false := by
    rw [hs₂, hs₁]
    exact ⟨rfl, hs, hsettings⟩
  rw [if_neg (by simp [hsame])]
  refine wp_mono ?_ (tickBroadcasting_served (hw₂ ▸ hw₁ ▸ hw))
  intro s' w' h hb
  obtain ⟨u, hu, hd⟩ := h hb
  have hlast (d : Duty) : d.last s = d.last s₂ := last_of_timers hsame.1.symm d
  exact ⟨u, hu, fun d => by simpa only [Served, hlast] using hd d⟩

end

/-! ## A broadcasting machine is not in the settings window -/

def Settled (s : StateMachine) : Prop := s.state = .broadcasting → s.broadcastingSettings = false

section

variable {s : StateMachine} {u : Unit}

theorem firmwareUpload_settled : wp (calls (.any True True)) (firmwareUpload s) (fun s' _ => Settled s') u := by
  refine wp_mono ?_ (firmwareUpload_only Policy.any_sound trivial trivial trivial)
  rintro _ _ rfl
  exact (by nofun)

theorem handleSettingsModeExit_settled (h : Settled s) :
    wp (calls (.any True True)) (handleSettingsModeExit s) (fun s' _ => Settled s') u := by
  have hleave (u : Unit) : wp (calls (.any True True)) (leaveSettings s) (fun s' _ => Settled s') u := by
    simp [leaveSettings, restoreMac, ibeaconFallback, Settled, Policy.any]
  have hsleep (ms : UInt32) : (Policy.any True True).sleep ms := trivial
  simp [handleSettingsModeExit, firmwareUpload_settled, hleave, h, hsleep]

theorem Settled.same {s' : StateMachine} (h : Settled s) (hstate : s'.state = s.state)
    (hsettings : s'.broadcastingSettings = s.broadcastingSettings) : Settled s' :=
  fun hb => hsettings.trans (h (hstate ▸ hb))

theorem Settled.entered {s' : StateMachine} (h : s'.state = .settingsMode) : Settled s' :=
  fun hb => absurd (h.symm.trans hb) (by decide)

theorem Settled.ends {r : Bool × StateMachine} (h : Settled s) (hr : Ends s r) : Settled r.2 := by
  rcases hr with rfl | rfl
  · exact h
  · exact (by nofun)

theorem settled_rule : TickRule (calls (.any True True)) (fun s _ => Settled s) (fun s _ => Settled s) where
  weaken h := h
  sync h := wp_mono (fun _ _ ⟨f, hs⟩ => hs ▸ h) syncGattState_calls
  sleep h := wp_mono (fun _ _ ⟨n, _, hs⟩ => hs ▸ h) (tickSleep_calls Policy.any_sound)
  exit h _ := handleSettingsModeExit_settled h
  timeSave h _ := wp_mono (fun _ _ ⟨t, _, hs⟩ => hs ▸ h) handleTimeSave_calls
  batteryCheck h _ := wp_mono (fun _ _ hs => h.same hs.1 hs.2) (handleBatteryCheck_calls trivial trivial)
  uvlo h _ := by
    refine wp_mono ?_ (handleUvloShutdown_calls trivial trivial)
    rintro r _ ⟨n, b, hr⟩
    refine Settled.ends ?_ hr
    exact h.same rfl rfl
  nokeys h _ := wp_mono (fun _ _ hr => h.ends hr) handleNokeysShutdown_calls
  uptime h _ := by simpa using h
  entry h _ := by simp [handleSettingsModeEntry, useSettingsMac, h, Policy.any, Settled.entered]
  burst h _ := wp_mono (fun _ _ ⟨t, _, hs⟩ => hs ▸ h) handleMaxPowerBurst_calls
  rotation h _ := wp_mono (fun _ _ hs => h.same hs.1 hs.2) handleKeyRotation_modes
  button h _ := wp_mono (fun _ _ hr => h.ends hr) (handleButtonLongpress_calls Policy.any_sound trivial trivial)
  accelerometer h _ := wp_mono (fun _ _ ⟨t, _, hs⟩ => hs ▸ h) handleAccelerometer_calls
  broadcast h _ := wp_mono (fun _ _ hs => h.same hs.2.1 hs.2.2) (tickBroadcast_timers trivial)

theorem initializeMachine_settled :
    wp (calls (.any True True)) (initializeMachine {}) (fun s' _ => Settled s') u := by
  have hstart (u : Unit) : wp (calls (.any True True)) (startUp {}) (fun s' _ => Settled s') u := by
    refine wp_mono ?_ (startUp_started Policy.any_sound trivial trivial)
    rintro _ _ ⟨addr, v, rfl⟩ -
    rfl
  have hr : (Policy.any True True).radio := trivial
  have hsleep (ms : UInt32) : (Policy.any True True).sleep ms := trivial
  have hoff : Settled { state := .shuttingDown } := by nofun
  simp [initializeMachine, hstart, hr, hsleep, hoff]

theorem Reachable.settled (h : Reachable s) : Settled s := by
  obtain ⟨u, h⟩ := h
  refine (boundary_inv (I := fun s _ => Settled s ∧ s.state ≠ .initializing) (fun _ _ => ?_)
    (fun _ _ h => ?_) h).1
  · exact wp_mode initializeMachine_settled initializeMachine_started
  · exact wp_mode (settled_rule.mainLoop h.1 h.2) (mainLoop_started h.2)

end

/-! ## No duty is starved -/

/-- At the end of a tick that is still broadcasting, with the first uptime `u`: each duty that the
configuration asks for is due after `u` only, as the code reckons and without wrapping around; and if it
was due at `u`, it has been done. -/
theorem no_duty_starved (cfg : BeaconConfig) (hv : cfg.Valid) {s s' : StateMachine} {w : TickLog}
    (hreach : Reachable s) (hs : s.state = .broadcasting)
    (hr : Reaches (ticking cfg) (mainLoop s, {}) (.ret s', w)) (hs' : s'.state = .broadcasting) :
    ∃ u, w.first = some u ∧ ∀ d : Duty, d.Applies cfg →
      u < d.last s' + d.interval cfg ∧ u.toNat < (d.last s').toNat + (d.interval cfg).toNat ∧
      (d.last s + d.interval cfg ≤ u → ∃ c ∈ w.calls, d.DoneBy c) := by
  have hend := wp_value (wp_reaches (mainLoop_served hs (hreach.settled hs) rfl) hr)
  obtain ⟨u, hu, hserved⟩ := hend hs'
  refine ⟨u, hu, fun d ha => ?_⟩
  obtain ⟨hpos, hle⟩ := d.interval_bounds hv
  rcases hserved d ha with ⟨hsame, hlt⟩ | ⟨hge, hbound, hcall⟩
  · refine ⟨hsame ▸ hlt, ?_, fun hdue => absurd hlt (UInt32.not_lt.2 hdue)⟩
    rw [hsame]
    have := UInt32.lt_iff_toNat_lt.1 hlt
    rw [UInt32.toNat_add] at this
    omega
  · rw [UInt32.le_iff_toNat_le] at hge
    refine ⟨?_, by omega, fun _ => hcall⟩
    rw [UInt32.lt_iff_toNat_lt, UInt32.toNat_add, Nat.mod_eq_of_lt (by omega)]
    omega

/-- A device at rest, at the uptime `now`. -/
def TickLog.serve (cfg : BeaconConfig) (now : UInt32) (w : TickLog) (c : Call) : Option (c.Ans × TickLog) :=
  if w.latest ≤ now then
    some (answers cfg now 3000 c,
      if c = .uptimeSeconds then ⟨some (w.first.getD now), now, w.calls ++ [c]⟩
      else { w with calls := w.calls ++ [c] })
  else none

theorem ticking_step_serve {cfg : BeaconConfig} {now : UInt32} (hnow : now.toNat < 4294960096) (w : TickLog)
    (c : Call) (x : c.Ans × TickLog) (hx : w.serve cfg now c = some x) :
    (ticking cfg).step w c x.1 x.2 := by
  rw [TickLog.serve] at hx
  split at hx
  · cases hx
    refine ⟨steady_answers cfg now 3000 c, ?_⟩
    cases c with
    | uptimeSeconds => exact ⟨‹_›, hnow, rfl⟩
    | _ => simp
  · cases hx

/-- Half a minute after its start, a device reads its accelerometer. -/
theorem no_duty_starved_at_thirty :
    ∃ s s' w, Reachable s ∧ Reaches (ticking { turnedOn := true }) (mainLoop s, {}) (.ret s', w) ∧
      ∃ c ∈ w.calls, Duty.accelRead.DoneBy c := by
  have hv : BeaconConfig.Valid { turnedOn := true } := { BeaconConfig.valid_default with }
  obtain ⟨⟨s, v⟩, hstart, ⟨s', w⟩, htick, hs, hs', hfirst, hdue⟩ :
      ∃ x ∈ (initializeMachine {}).play (fun _ c => some (answers { turnedOn := true } 0 3000 c, ())) (),
      ∃ y ∈ (mainLoop x.1).play (TickLog.serve { turnedOn := true } 30) {},
        x.1.state = .broadcasting ∧ y.1.state = .broadcasting ∧ y.2.first = some 30 ∧
          x.1.timers.accelRead + kIntervalAccelerometer ≤ 30 := by decide
  have hreach : Reachable s := .of_play hstart
  have hr : Reaches (ticking { turnedOn := true }) (mainLoop s, {}) (.ret s', w) :=
    reaches_of_play (ticking_step_serve (by decide)) htick
  obtain ⟨u, hu, hserved⟩ := no_duty_starved { turnedOn := true } hv hreach hs hr hs'
  have hthirty : u = 30 := Option.some.inj (hu.symm.trans hfirst)
  have happlies : Duty.accelRead.Applies { turnedOn := true } := by
    show (800 : UInt16) > 0
    decide
  exact ⟨s, s', w, hreach, hr, (hserved .accelRead happlies).2.2 (hthirty ▸ hdue)⟩

end Everytag
