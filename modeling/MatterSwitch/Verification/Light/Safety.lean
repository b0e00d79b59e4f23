import MatterSwitch.Verification.Light.Refinement

/-! # Off is off

In the build without fading, attribute writes and remembered levels keep the copies of the
power together, the level and its interval in step, and the timer at its longest delay
while the light is off. -/

namespace MatterSwitch

open SliderDriver Transition

/-- The attribute writes among the events. -/
def LightEvent.Write : LightEvent → Prop
  | .power _ => True
  | .dim _ => True
  | .remember _ => False
  | .applyPower _ => False
  | .applyBrightness _ => False

/-- The events that remain once `app_driver_set_default` has returned. -/
def LightEvent.Regular : LightEvent → Prop
  | .power _ => True
  | .dim _ => True
  | .remember _ => True
  | .applyPower _ => False
  | .applyBrightness _ => False

theorem LightEvent.Write.regular {o : LightEvent} (h : o.Write) : o.Regular := by
  cases o with
  | power b => trivial
  | dim v => trivial
  | remember v => exact h.elim
  | applyPower b => exact h.elim
  | applyBrightness v => exact h.elim

namespace Light

theorem validLevel_setPower (cfg : Kconfig) (b : Bool) {l : Light} (h : ValidLevel l.level) :
    ValidLevel (l.setPower cfg b).level := by
  cases b with
  | true => exact h
  | false => exact .inl rfl

/-- In either build the level is always one the dimmer can hold. -/
theorem validLevel_step (cfg : Kconfig) {l : Light} (h : ValidLevel l.level)
    (o : LightEvent) : ValidLevel (l.step cfg o).level := by
  cases o with
  | power b => exact validLevel_setPower cfg b (l := { l with relay := b, onOff := b }) h
  | dim v => exact matterLevel_valid v
  | remember v => exact h
  | applyPower b => exact validLevel_setPower cfg b h
  | applyBrightness v => exact matterLevel_valid v

theorem validLevel_run (cfg : Kconfig) {l : Light} (h : ValidLevel l.level)
    (os : List LightEvent) : ValidLevel (run (step cfg) l os).level :=
  run_invariant (step cfg) (fun l => ValidLevel l.level) (fun _ o hl => validLevel_step cfg hl o)
    h os

/-- The level is one the dimmer can hold and the interval is its delay. -/
structure Timed (l : Light) : Prop where
  level_valid : ValidLevel l.level
  interval_eq : l.interval = firingDelay l.level

theorem Timed.bounds {l : Light} (h : Timed l) : 0 ≤ l.interval ∧ l.interval ≤ maxInterval := by
  rw [h.interval_eq]
  exact firingDelay_bounds h.level_valid

theorem timed_setLevel (l : Light) {level : UInt8} (h : ValidLevel level) :
    Timed (l.setLevel .noFade level) :=
  ⟨h, rfl⟩

theorem timed_setPower (b : Bool) {l : Light} (h : Timed l) : Timed (l.setPower .noFade b) := by
  cases b with
  | true => exact ⟨h.level_valid, h.interval_eq⟩
  | false => exact ⟨.inl rfl, rfl⟩

theorem timed_step {l : Light} (h : Timed l) (o : LightEvent) : Timed (l.step .noFade o) := by
  cases o with
  | power b => exact timed_setPower b ⟨h.level_valid, h.interval_eq⟩
  | dim v => exact timed_setLevel _ (matterLevel_valid v)
  | remember v => exact ⟨h.level_valid, h.interval_eq⟩
  | applyPower b => exact timed_setPower b h
  | applyBrightness v => exact timed_setLevel _ (matterLevel_valid v)

/-- The relay, the driver and the attribute agree on the power. -/
structure Powered (l : Light) : Prop where
  relay_eq : l.relay = l.onOff
  isOn_eq : l.isOn = l.onOff

theorem powered_step (cfg : Kconfig) {l : Light} (h : Powered l) {o : LightEvent}
    (ho : o.Regular) : Powered (l.step cfg o) := by
  cases o with
  | power b => exact ⟨by simp [step], by simp [step]⟩
  | dim v => exact ⟨h.relay_eq, h.isOn_eq⟩
  | remember v => exact ⟨h.relay_eq, h.isOn_eq⟩
  | applyPower b => exact ho.elim
  | applyBrightness v => exact ho.elim

/-- `old_level` is the level of the attribute. -/
def Remembered (l : Light) : Prop := l.oldLevel = l.currentLevel.toUInt16

theorem remembered_step (cfg : Kconfig) {l : Light} (h : Remembered l) {o : LightEvent}
    (ho : o.Write) : Remembered (l.step cfg o) := by
  cases o with
  | power b =>
      rw [Remembered, step, setPower_oldLevel, setPower_currentLevel]
      exact h
  | dim v => rfl
  | remember v => exact ho.elim
  | applyPower b => exact ho.elim
  | applyBrightness v => exact ho.elim

/-- A light that is off has the half-period as its alarm. -/
def Disarmed (l : Light) : Prop := l.isOn = false → (l.handed : ℤ) = maxInterval

theorem disarmed_setPower (b : Bool) (l : Light) : Disarmed (l.setPower .noFade b) := by
  intro h
  rw [setPower_isOn] at h
  have hm : ((UInt64.ofInt maxInterval).toNat : ℤ) = maxInterval :=
    toNat_ofInt_interval (by decide) le_rfl
  rw [setPower_handed, h]
  exact hm

theorem disarmed_step {l : Light} (h : Disarmed l) (o : LightEvent) :
    Disarmed (l.step .noFade o) := by
  cases o with
  | power b => exact disarmed_setPower b _
  | dim v => exact h
  | remember v => exact h
  | applyPower b => exact disarmed_setPower b _
  | applyBrightness v => exact h

/-- What holds of the light whenever `app_driver_set_default` is behind it. -/
structure WellFormed (l : Light) : Prop where
  timed : Timed l
  powered : Powered l
  disarmed : Disarmed l

theorem wellFormed_step {l : Light} (h : WellFormed l) {o : LightEvent} (ho : o.Regular) :
    WellFormed (l.step .noFade o) :=
  ⟨timed_step h.timed o, powered_step .noFade h.powered ho, disarmed_step h.disarmed o⟩

theorem remembered_run (cfg : Kconfig) {l : Light} (h : Remembered l) {os : List LightEvent}
    (ho : ∀ o ∈ os, o.Write) : Remembered (run (step cfg) l os) :=
  run_invariant_of_forall (step cfg) Remembered (fun _ _ hl ho => remembered_step cfg hl ho) h ho

end Light

namespace Device

theorem write_writeEvents (path : AttrPath) (val : AttrVal) :
    ∀ o ∈ writeEvents path val, o.Write := by
  intro o ho
  rw [writeEvents] at ho
  split at ho
  · rw [List.mem_singleton.mp ho]
    trivial
  · split at ho
    · rw [List.mem_singleton.mp ho]
      trivial
    · simp at ho

theorem write_signalEvents (e : Signal) : ∀ o ∈ signalEvents e, o.Write := by
  cases e with
  | matterWrite path val => exact write_writeEvents path val
  | _ => simp [signalEvents]

theorem regular_signalEvents (e : Signal) : ∀ o ∈ signalEvents e, o.Regular :=
  fun o ho => (write_signalEvents e o ho).regular

theorem write_pressEvents (d : Device) : ∀ o ∈ d.pressEvents, o.Write := by
  intro o ho
  rw [pressEvents] at ho
  split at ho
  · rw [List.mem_singleton.mp ho]
    trivial
  · simp at ho

theorem regular_sliderEvents (d : Device) (pc : SliderPc) :
    ∀ o ∈ d.sliderEvents pc, o.Regular := by
  cases pc <;> simp [sliderEvents, LightEvent.Regular]

theorem regular_commandEvents (cfg : Kconfig) (d : Device) (c : Command) :
    ∀ o ∈ d.commandEvents cfg c, o.Regular := by
  cases c with
  | signal e => exact regular_signalEvents e
  | sliderTask inp =>
      intro o ho
      rcases List.mem_append.mp ho with ho | ho
      · exact (write_pressEvents d o ho).regular
      · rw [touchEvents] at ho
        split at ho
        · simp only [List.mem_append, List.mem_cons, List.not_mem_nil, or_false] at ho
          rcases ho with (rfl | rfl) | ho
          · trivial
          · trivial
          · split at ho
            · simp at ho
            · rw [List.mem_singleton.mp ho]
              trivial
        · simp at ho

theorem wellFormed_appDriverSetDefault (d : Device) :
    (d.appDriverSetDefault .noFade 1).1.light.WellFormed := by
  rw [light_appDriverSetDefault]
  refine ⟨⟨matterLevel_valid defaultBrightness, rfl⟩, ⟨rfl, rfl⟩, ?_⟩
  intro h
  exact Bool.noConfusion (h : true = false)

end Device

namespace System

/-- Once `app_driver_set_default` has returned, only regular events remain. -/
theorem regular_events {s : System} (hm : s.main = .returned) (e : Event) :
    ∀ o ∈ s.events e, o.Regular := by
  cases e with
  | signal e => exact Device.regular_signalEvents e
  | sliderTask inp => exact s.dev.regular_sliderEvents s.task
  | appMain => simp [events, hm, Device.mainEvents]

theorem main_step (cfg : Kconfig) {s : System} (hm : s.main = .returned) (e : Event) :
    (s.step cfg e).main = .returned := by
  cases e with
  | signal e => exact hm
  | sliderTask inp => exact hm
  | appMain =>
      rw [step, hm]
      rfl

/-- After an undisturbed `app_driver_set_default(1)`, every interleaving keeps the light
well formed. -/
theorem wellFormed_run_default (d : Device) (task : SliderPc) (es : List Event) :
    (run (step .noFade) ⟨(d.appDriverSetDefault .noFade 1).1, task, .returned⟩ es).dev.light.WellFormed := by
  have h : ∀ s e, s.main = .returned ∧ s.dev.light.WellFormed →
      (step .noFade s e).main = .returned ∧ (step .noFade s e).dev.light.WellFormed := by
    intro s e hs
    obtain ⟨hm, hw⟩ := hs
    exact ⟨main_step .noFade hm e, (refinement .noFade).step_invariant Light.WellFormed
      (fun _ _ hl ho => Light.wellFormed_step hl ho) hw (regular_events hm e)⟩
  exact (run_invariant (step .noFade) (fun s => s.main = .returned ∧ s.dev.light.WellFormed) h
    ⟨rfl, Device.wellFormed_appDriverSetDefault d⟩ es).2

/-- Whatever the interleaving after start-up: the relay, the driver and the attribute agree
on the power; while it is off the timer holds the half-period; the level is off or a
percentage from two on, with the interval that belongs to it; and a callback of another
type, or for another attribute, succeeds and does nothing. -/
theorem off_is_off (d : Device) (task : SliderPc) (es : List Event) :
    let dev := (run (step .noFade) ⟨(d.appDriverSetDefault .noFade 1).1, task, .returned⟩ es).dev
    (dev.relay = dev.slider.mIsOn ∧ dev.slider.mIsOn = dev.onOff) ∧
      (dev.slider.mIsOn = false → (dev.handedCount : ℤ) = maxInterval) ∧
      ((dev.slider.mLevel = 0 ∨ 2 ≤ dev.slider.mLevel.toNat ∧ dev.slider.mLevel.toNat ≤ 100) ∧
        dev.slider.interval =
          (if dev.slider.mLevel = 0 then maxInterval
            else ((8333 * (100 - dev.slider.mLevel.toNat) / 100 : ℕ) : ℤ)) ∧
        0 ≤ dev.slider.interval ∧ dev.slider.interval ≤ maxInterval) ∧
      ∀ type path val,
        type ≠ .preUpdate ∨ path ≠ onOffPath 1 ∧ path ≠ currentLevelPath 1 →
          dev.appAttributeUpdateCb .noFade type path val = (dev, .ok) := by
  intro dev
  have hw : dev.light.WellFormed := wellFormed_run_default d task es
  have hv : ValidLevel dev.slider.mLevel := hw.timed.level_valid
  have hi : dev.slider.interval = firingDelay dev.slider.mLevel := hw.timed.interval_eq
  rw [firingDelay_eq hv] at hi
  refine ⟨⟨hw.powered.relay_eq.trans hw.powered.isOn_eq.symm, hw.powered.isOn_eq⟩,
    hw.disarmed, ⟨hv, hi, hw.timed.bounds⟩, ?_⟩
  intro type path val h
  exact Device.appAttributeUpdateCb_other .noFade val dev h

end System

end MatterSwitch
