import Everytag.Firmware

/-!
# Sessions

A `History` lists the events of a run, each with the device that received it.  An authorized session
is one whose last auth write carried the stored code, with no connection event, restart or failed
auth write after it (`AuthorizedSession`).  `allowedChange` is set only in such a session, and
without it a write changes nothing and a read tells nothing (`harmless_of_closed`).
-/

namespace Everytag

open Bytes Interaction BeaconConfig StateMachine

/-- The events of a run, oldest first, each with the device that received it. -/
abbrev History := List (Device × GattEvent)

/-- An auth write with the stored code. -/
def Authenticates (x : Device × GattEvent) : Prop :=
  ∃ t, x.2 = .write .auth t x.1.settings.config.authCode.toList

/-- An auth write with anything else. -/
def FailedAuth (x : Device × GattEvent) : Prop :=
  ∃ t buf, x.2 = .write .auth t buf ∧ buf ≠ x.1.settings.config.authCode.toList

def EndsSession (x : Device × GattEvent) : Prop := x.2.resets ∨ FailedAuth x

/-- Some auth write carried the stored code, and nothing has ended the session since. -/
def AuthorizedSession (past : History) : Prop :=
  ∃ pre x post, past = pre ++ x :: post ∧ Authenticates x ∧ ∀ y ∈ post, ¬ EndsSession y

theorem AuthorizedSession.of_authenticates {past : History} {x : Device × GattEvent}
    (h : Authenticates x) : AuthorizedSession (past ++ [x]) :=
  ⟨past, x, [], rfl, h, fun _ hy => absurd hy List.not_mem_nil⟩

theorem AuthorizedSession.concat {past : History} {x : Device × GattEvent} (h : AuthorizedSession past)
    (hx : ¬ EndsSession x) : AuthorizedSession (past ++ [x]) := by
  obtain ⟨pre, y, post, rfl, hy, hpost⟩ := h
  refine ⟨pre, y, post ++ [x], by simp, hy, fun z hz => ?_⟩
  rcases List.mem_append.1 hz with hz | hz
  · exact hpost z hz
  · rw [List.mem_singleton.1 hz]
    exact hx

namespace Device

variable {d : Device} {e : GattEvent}

/-! ## One event -/

/-- `allowedChange` is set by a matching auth write and cleared by whatever ends a session. -/
theorem allowedChange_step (h : (d.step e).gatt.allowedChange = true) :
    Authenticates (d, e) ∨ d.gatt.allowedChange = true ∧ ¬ EndsSession (d, e) := by
  have hs := step_cases (d := d) (e := e)
  generalize d.step e = d' at hs h
  cases hs with
  | reset _ hg | saved hg =>
    rw [hg.allowedChange] at h
    cases h
  | read hg =>
    exact .inr ⟨hg.allowedChange ▸ h, fun hend => hend.elim id fun ⟨_, _, he, _⟩ => (by cases he)⟩
  | @write ch t buf _ hw =>
    have hopen : ch ≠ .auth → ¬ EndsSession (d, .write ch t buf) :=
      fun hne hend => hend.elim id fun ⟨_, _, he, _⟩ => hne (by cases he; rfl)
    cases hw with
    | refused hne => exact .inr ⟨h, hopen hne⟩
    | opened hch hbuf =>
      subst hch
      exact .inl ⟨t, by rw [← hbuf]⟩
    | closed => cases h
    | upload hu ha => exact .inr ⟨ha, hopen (by rw [hu.1]; decide)⟩
    | accepted hne ha _ => exact .inr ⟨ha, hopen hne⟩

/-- What an event cannot do outside of an authorized session: change the settings by a write, arm a
restart or an upload, or tell the time. -/
structure Harmless (d : Device) (e : GattEvent) : Prop where
  settings : ∀ ch t buf, e = .write ch t buf →
    (d.step e).settings = d.settings ∧ (d.step e).accelThreshold = d.accelThreshold
  needsReset : (d.step e).gatt.needsReset = true → d.gatt.needsReset = true
  pauseUpload : (d.step e).gatt.pauseUpload = true → d.gatt.pauseUpload = true
  clock : ∀ attrRead, d.told attrRead e = []

theorem clock_of_closed (h : d.gatt.allowedChange ≠ true) (attrRead : AttrRead) : d.told attrRead e = [] := by
  cases e with
  | readTime t len offset =>
    simp only [Bool.not_eq_true] at h
    simp only [told, handle, chrcReadTimeOffset, h]
    split <;> rfl
  | _ => rfl

theorem harmless_of_closed (h : d.gatt.allowedChange ≠ true) (e : GattEvent) : d.Harmless e := by
  suffices hs : (∀ ch t buf, e = .write ch t buf →
        (d.step e).settings = d.settings ∧ (d.step e).accelThreshold = d.accelThreshold) ∧
      ((d.step e).gatt.needsReset = true → d.gatt.needsReset = true) ∧
      ((d.step e).gatt.pauseUpload = true → d.gatt.pauseUpload = true) from
    ⟨hs.1, hs.2.1, hs.2.2, clock_of_closed h⟩
  have hs := step_cases (d := d) (e := e)
  generalize d.step e = d' at hs ⊢
  cases hs with
  | reset he hg =>
    refine ⟨fun ch t buf hw => absurd he (by rw [hw]; exact id), ?_, ?_⟩
    · exact fun hr => hg.needsReset ▸ hr
    · exact fun hp => hg.pauseUpload ▸ hp
  | saved hg => exact ⟨by simp, fun hr => hg.needsReset ▸ hr, fun hp => hg.pauseUpload ▸ hp⟩
  | read hg => exact ⟨by simp, fun hr => hg.needsReset ▸ hr, hg.pauseUpload⟩
  | write hw =>
    cases hw with
    | refused | opened => exact ⟨fun _ _ _ _ => ⟨rfl, rfl⟩, id, id⟩
    | closed => exact ⟨fun _ _ _ _ => ⟨rfl, rfl⟩, (by nofun), (by nofun)⟩
    | upload _ ha | accepted _ ha _ => exact absurd ha h

theorem authCode_apply {c : BeaconConfig} {s : Setter} {ch : Chrc} (h : CalledBy ch s) :
    (s.apply c).authCode = c.authCode := by
  refine Setter.apply_keeps (f := BeaconConfig.authCode) ?_
  cases s with
  | authCode => cases ch <;> exact h.elim
  | _ => rfl

theorem keys_apply {c : BeaconConfig} {s : Setter} {ch : Chrc} (h : CalledBy ch s) (hne : ch ≠ .key) :
    (s.apply c).keys = c.keys := by
  refine Setter.apply_keeps (f := BeaconConfig.keys) ?_
  cases s with
  | keyChunk => cases ch <;> first | exact absurd rfl hne | exact h.elim
  | _ => rfl

/-- No event changes the stored code. -/
theorem authCode_step : (d.step e).settings.config.authCode = d.settings.config.authCode :=
  step_keeps (f := BeaconConfig.authCode) fun _ _ _ _ _ _ hs => authCode_apply hs

/-- The event is a chunk that is taken into the ring. -/
def TakesChunk (d : Device) (e : GattEvent) (ring : KeyRing) : Prop :=
  ∃ t buf, e = .write .key t buf ∧
    ChunkFits (d.gatt.keysReceived / 2 : Nat) (14 * (d.gatt.keysReceived % 2)) buf ∧
    ring = (d.settings.config.setKeyChunk (d.gatt.keysReceived / 2 : Nat)
      (14 * (d.gatt.keysReceived % 2)) buf).keys

/-- The ring changes by a chunk in an open session and in no other way. -/
theorem keys_step : (d.step e).settings.config.keys = d.settings.config.keys ∨
    d.gatt.allowedChange = true ∧ d.TakesChunk e (d.step e).settings.config.keys := by
  have hs := step_cases (d := d) (e := e)
  generalize d.step e = d' at hs ⊢
  cases hs with
  | reset | read => exact .inl rfl
  | saved => exact .inl (by rw [SettingsManager.save_config])
  | @write ch t buf _ hw =>
    cases hw with
    | refused | opened | closed | upload => exact .inl rfl
    | accepted _ ha hacc =>
      by_cases hch : ch = .key
      · subst hch
        by_cases hr : buf.length ≠ 14 ∨ 2 * kMaxKeysInMemory ≤ d.gatt.keysReceived
        · left
          simp only [bridge, handleKey_refused hr]
        · simp only [not_or, not_le, not_not] at hr
          exact .inr ⟨ha, t, buf, rfl, chunkFits hr.1 hr.2, (handleKey_snd hr.1 hr.2).1⟩
      · left
        exact bridge_config (P := fun c => c.keys = d.settings.config.keys) rfl
          fun c s hs hc => (keys_apply hs hch).trans hc

/-- An upload is armed only by an authorized write of the reserved status word. -/
theorem pauseUpload_step (h : (d.step e).gatt.pauseUpload = true) : d.gatt.pauseUpload = true ∨
    d.gatt.allowedChange = true ∧ ∃ ch t buf, e = .write ch t buf ∧ UploadRequest ch buf := by
  have hs := step_cases (d := d) (e := e)
  generalize d.step e = d' at hs h
  cases hs with
  | reset _ hg | saved hg => exact .inl (hg.pauseUpload ▸ h)
  | read hg => exact .inl (hg.pauseUpload h)
  | write hw =>
    cases hw with
    | refused | opened => exact .inl h
    | closed => cases h
    | upload hu ha => exact .inr ⟨ha, _, _, _, rfl, hu⟩
    | accepted _ _ hacc => exact .inl (hacc.pauseUpload h)

/-- A pending restart is lost by a failed auth write and by nothing else. -/
theorem needsReset_step (h : d.gatt.needsReset = true) :
    (d.step e).gatt.needsReset = true ↔ ¬ FailedAuth (d, e) := by
  have hs := step_cases (d := d) (e := e)
  generalize d.step e = d' at hs ⊢
  cases hs with
  | reset he hg =>
    rw [hg.needsReset]
    refine ⟨fun _ ⟨_, _, hw, _⟩ => ?_, fun _ => h⟩
    simp only at hw
    rw [hw] at he
    exact he
  | saved hg | read hg =>
    rw [hg.needsReset]
    exact ⟨fun _ ⟨_, _, hw, _⟩ => (by cases hw), fun _ => h⟩
  | @write ch t buf _ hw =>
    have hne : ch ≠ .auth → ¬ FailedAuth (d, .write ch t buf) :=
      fun hch ⟨_, _, he, _⟩ => hch (by cases he; rfl)
    cases hw with
    | refused hch => exact ⟨fun _ => hne hch, fun _ => h⟩
    | opened _ hbuf =>
      refine ⟨fun _ ⟨_, _, he, hb⟩ => ?_, fun _ => h⟩
      cases he
      exact hb hbuf
    | closed hch hbuf =>
      subst hch
      exact ⟨by nofun, fun hf => absurd ⟨t, buf, rfl, hbuf⟩ hf⟩
    | upload hu _ => exact ⟨fun _ => hne (by rw [hu.1]; decide), fun _ => h⟩
    | accepted hch _ hacc => exact ⟨fun _ => hne hch, fun _ => hacc.needsReset h⟩

end Device

/-! ## Runs -/

/-- What calls of the main loop leave alone: the flags, the code and the ring. -/
structure SameSession (d d' : Device) : Prop where
  gatt : d'.gatt = d.gatt
  authCode : d'.settings.config.authCode = d.settings.config.authCode
  keys : d'.settings.config.keys = d.settings.config.keys

/-- A run from `d₀`: events, and calls of the main loop in between. -/
inductive Ran (d₀ : Device) : History → Device → Prop
  | start : Ran d₀ [] d₀
  | event {past : History} {d : Device} (e : GattEvent) : Ran d₀ past d →
      Ran d₀ (past ++ [(d, e)]) (d.step e)
  | call {past : History} {d d' : Device} : Ran d₀ past d → SameSession d d' → Ran d₀ past d'

/-- The history of a run that consists of events alone. -/
def Device.history (d : Device) : List GattEvent → History
  | [] => []
  | e :: es => (d, e) :: (d.step e).history es

theorem Ran.events {d₀ d : Device} {past : History} (h : Ran d₀ past d) (es : List GattEvent) :
    Ran d₀ (past ++ d.history es) (d.run es) := by
  induction es generalizing d past with
  | nil => simpa [Device.history] using h
  | cons e es ih => simpa [Device.history] using ih (h.event e)

theorem ran_history (d : Device) (es : List GattEvent) : Ran d (d.history es) (d.run es) :=
  Ran.start.events es

section Ran

variable {d₀ d : Device} {past : History}

theorem Ran.authorized (h : Ran d₀ past d) (h₀ : d₀.gatt.allowedChange ≠ true)
    (ha : d.gatt.allowedChange = true) : AuthorizedSession past := by
  induction h with
  | start => exact absurd ha h₀
  | event e _ ih =>
    rcases Device.allowedChange_step ha with hauth | ⟨ha, hopen⟩
    · exact .of_authenticates hauth
    · exact (ih ha).concat hopen
  | call _ hs ih => exact ih (hs.gatt ▸ ha)

/-- The ring `ring` is `ring₀` overwritten by chunks of authorized sessions. -/
inductive Overwritten (ring₀ : KeyRing) : History → KeyRing → Prop
  | start : Overwritten ring₀ [] ring₀
  | skip {past : History} {ring : KeyRing} (x : Device × GattEvent) : Overwritten ring₀ past ring →
      Overwritten ring₀ (past ++ [x]) ring
  | chunk {past : History} {d : Device} {e : GattEvent} {ring : KeyRing} :
      Overwritten ring₀ past d.settings.config.keys → AuthorizedSession past → d.TakesChunk e ring →
      Overwritten ring₀ (past ++ [(d, e)]) ring

theorem Ran.overwritten (h : Ran d₀ past d) (h₀ : d₀.gatt.allowedChange ≠ true) :
    Overwritten d₀.settings.config.keys past d.settings.config.keys := by
  induction h with
  | start => exact .start
  | event e hr ih =>
    rcases Device.keys_step (e := e) with hsame | ⟨ha, hchunk⟩
    · rw [hsame]
      exact ih.skip _
    · exact ih.chunk (hr.authorized h₀ ha) hchunk
  | call _ hs ih => exact hs.keys ▸ ih

/-- An authorized client wrote the reserved status word. -/
def UploadRequested (past : History) : Prop :=
  ∃ pre d ch t buf post, past = pre ++ (d, .write ch t buf) :: post ∧ AuthorizedSession pre ∧
    Device.UploadRequest ch buf

theorem UploadRequested.append (h : UploadRequested past) (more : History) :
    UploadRequested (past ++ more) := by
  obtain ⟨pre, d, ch, t, buf, post, rfl, ha, hu⟩ := h
  exact ⟨pre, d, ch, t, buf, post ++ more, by simp, ha, hu⟩

theorem Ran.uploadRequested (h : Ran d₀ past d) (h₀ : d₀.gatt.allowedChange ≠ true)
    (hp₀ : d₀.gatt.pauseUpload ≠ true) (hp : d.gatt.pauseUpload = true) : UploadRequested past := by
  induction h with
  | start => exact absurd hp hp₀
  | event e hr ih =>
    rcases Device.pauseUpload_step hp with hp | ⟨ha, ch, t, buf, rfl, hu⟩
    · exact (ih hp).append _
    · exact ⟨_, _, ch, t, buf, [], rfl, hr.authorized h₀ ha, hu⟩
  | call _ hs ih => exact ih (hs.gatt ▸ hp)

/-- Once an event leaves a restart pending, it stays pending, at every later event and now, exactly
if no failed auth write came later. -/
theorem Ran.needsReset_iff (h : Ran d₀ past d) {pre post : History} {d₁ : Device} {e : GattEvent}
    (hpast : past = pre ++ (d₁, e) :: post) (he : (d₁.step e).gatt.needsReset = true) :
    ((∀ x ∈ post, x.1.gatt.needsReset = true) ∧ d.gatt.needsReset = true) ↔
      ∀ x ∈ post, ¬ FailedAuth x := by
  induction h generalizing post with
  | start => simp at hpast
  | @event past d e' hr ih =>
    rcases post.eq_nil_or_concat with rfl | ⟨post, x, rfl⟩
    · obtain ⟨-, hx⟩ := List.append_inj' hpast rfl
      cases hx
      simp [he]
    · rw [List.concat_eq_append, ← List.cons_append, ← List.append_assoc] at hpast
      obtain ⟨hpre, hx⟩ := List.append_inj' hpast rfl
      cases hx
      have := ih hpre
      simp only [List.concat_eq_append, List.forall_mem_append, List.forall_mem_singleton]
      rw [← this]
      constructor
      · rintro ⟨⟨hall, hd⟩, hstep⟩
        exact ⟨⟨hall, hd⟩, (Device.needsReset_step hd).1 hstep⟩
      · rintro ⟨⟨hall, hd⟩, hf⟩
        exact ⟨⟨hall, hd⟩, (Device.needsReset_step hd).2 hf⟩
  | call _ hs ih => rw [hs.gatt]; exact ih hpast

end Ran

end Everytag
