import Mathlib.Logic.Relation
import MatterSwitch.Verification.Slider.Gate

/-! # Sequences of driver calls

Whatever the tasks do, the driver only ever sees a sequence of calls, of its methods and of
its two interrupt handlers. What each call keeps holds after every sequence. -/

namespace MatterSwitch.SliderDriver

open Transition

/-- One call by a task. Brightness comes as a percentage. -/
inductive Method (cfg : Kconfig) (d : SliderDriver) : SliderDriver → Prop where
  | setPower (power : Bool) : Method cfg d (d.setPower cfg power).1
  | setBrightness (brightness : UInt8) (h : brightness.toNat ≤ 100) :
      Method cfg d (d.setBrightness cfg brightness).1
  | getLevel (newTouches maxLevel : UInt8) : Method cfg d (d.getLevel newTouches maxLevel).1
  | setFrontLed (power : Bool) : Method cfg d (d.ledCalls (setFrontLed power))
  | setLevelLed (level : UInt8) : Method cfg d (d.ledCalls (setLevelLed level))

/-- One call by a task or by the hardware. -/
inductive Call (cfg : Kconfig) (d : SliderDriver) : SliderDriver → Prop where
  | method {d' : SliderDriver} (h : Method cfg d d') : Call cfg d d'
  | gpioIsrHandler : Call cfg d d.gpioIsrHandler
  | onTimerAlarmCb : Call cfg d (d.onTimerAlarmCb cfg)

/-- Any number of calls. -/
def Calls (cfg : Kconfig) : SliderDriver → SliderDriver → Prop := Relation.ReflTransGen (Call cfg)

/-- What every call keeps, every sequence of calls keeps. -/
theorem Calls.invariant {cfg : Kconfig} {P : SliderDriver → Prop} {d d' : SliderDriver}
    (h : Calls cfg d d') (hstep : ∀ d d', P d → Call cfg d d' → P d') (hd : P d) : P d' := by
  induction h with
  | refl => exact hd
  | tail _ hcall ih => exact hstep _ _ ih hcall

/-! ## The fade that never starts -/

/-- No fade is under way, and `alarm_config` is what was last handed to the timer. -/
structure Unfaded (d : SliderDriver) : Prop where
  startFade : d.startFade = false
  stepCpt : d.stepCpt = 0
  handed : d.timerHandle.handed.head? = some d.alarmConfig
  autoReload : d.alarmConfig.autoReloadOnAlarm = true
  reloadCount : d.alarmConfig.reloadCount = 0

theorem Unfaded.commitInterval {d : SliderDriver} (h : Unfaded d) : Unfaded d.commitInterval :=
  ⟨h.startFade, h.stepCpt, by rw [commitInterval_handed]; rfl, h.autoReload, h.reloadCount⟩

/-- An alarm with no fade under way stops the timer and pulses the gate, in either build. -/
theorem onTimerAlarmCb_of_not_fading (cfg : Kconfig) {d : SliderDriver}
    (h : d.startFade = false) :
    d.onTimerAlarmCb cfg =
      { d.stopTimer with triacPwm := (holdGateLow 63 d.triacPwm).setLevel true } := by
  obtain ⟨fadeTime⟩ := cfg
  cases fadeTime with
  | none => rfl
  | some resolution => exact if_neg (Bool.eq_false_iff.mp h)

/-- Only the commit of `set_power` touches what the fade and the timer are set to. -/
structure Unset (d d' : SliderDriver) : Prop where
  startFade : d'.startFade = d.startFade
  stepCpt : d'.stepCpt = d.stepCpt
  alarmConfig : d'.alarmConfig = d.alarmConfig
  handed : d'.timerHandle.handed = d.timerHandle.handed
  alarm : d'.timerHandle.alarm = d.timerHandle.alarm

theorem Unfaded.unset {d d' : SliderDriver} (h : Unfaded d) (hu : Unset d d') : Unfaded d' where
  startFade := hu.startFade.trans h.startFade
  stepCpt := hu.stepCpt.trans h.stepCpt
  handed := by rw [hu.handed, hu.alarmConfig, h.handed]
  autoReload := by rw [hu.alarmConfig, h.autoReload]
  reloadCount := by rw [hu.alarmConfig, h.reloadCount]

theorem unset_setBrightness (cfg : Kconfig) (brightness : UInt8) (d : SliderDriver) :
    Unset d (d.setBrightness cfg brightness).1 := by
  rw [setBrightness_eq]
  exact ⟨rfl, rfl, rfl, rfl, rfl⟩

@[simp] theorem stop_running (t : GpTimer) : t.stop.1.running = false := by
  cases h : t.running <;> simp [GpTimer.stop, h]

@[simp] theorem stop_alarm (t : GpTimer) : t.stop.1.alarm = t.alarm := by
  unfold GpTimer.stop
  split <;> rfl

/-- A method either leaves the settings alone or is a commit after such a change. -/
theorem Method.unset_or_commit {cfg : Kconfig} {d d' : SliderDriver} (h : Method cfg d d') :
    Unset d d' ∨ ∃ e, Unset d e ∧ d' = e.commitInterval := by
  cases h with
  | setPower power =>
      right
      cases power with
      | true => exact ⟨{ d with mIsOn := true }, ⟨rfl, rfl, rfl, rfl, rfl⟩, rfl⟩
      | false =>
          have hu := unset_setBrightness cfg 0 { d with mIsOn := false }
          exact ⟨_, ⟨hu.startFade, hu.stepCpt, hu.alarmConfig, hu.handed, hu.alarm⟩, rfl⟩
  | setBrightness brightness _ => exact .inl (unset_setBrightness cfg brightness d)
  | getLevel newTouches maxLevel =>
      left
      rw [SliderDriver.getLevel]
      split <;> exact ⟨rfl, rfl, rfl, rfl, rfl⟩
  | setFrontLed power => exact .inl ⟨rfl, rfl, rfl, rfl, rfl⟩
  | setLevelLed level => exact .inl ⟨rfl, rfl, rfl, rfl, rfl⟩

theorem Call.unset_or_commit {cfg : Kconfig} {d d' : SliderDriver} (h : Call cfg d d')
    (hf : d.startFade = false) : Unset d d' ∨ ∃ e, Unset d e ∧ d' = e.commitInterval := by
  cases h with
  | method h => exact h.unset_or_commit
  | gpioIsrHandler => exact .inl ⟨rfl, rfl, rfl, start_handed _, start_alarm _⟩
  | onTimerAlarmCb =>
      left
      rw [onTimerAlarmCb_of_not_fading cfg hf]
      exact ⟨rfl, rfl, rfl, stop_handed _, stop_alarm _⟩

theorem Unfaded.call {cfg : Kconfig} {d d' : SliderDriver} (h : Unfaded d)
    (hcall : Call cfg d d') : Unfaded d' := by
  rcases hcall.unset_or_commit h.startFade with hu | ⟨e, hu, rfl⟩
  · exact h.unset hu
  · exact (h.unset hu).commitInterval

/-! ## The alarm in force -/

/-- The latest configuration that the timer has not refused. -/
def taken (d : SliderDriver) : Option AlarmConfig :=
  d.timerHandle.handed.find? fun config => config.alarmCount ≠ 0

/-- The timer refuses a count of zero, and keeps the alarm before it. -/
theorem taken_commitInterval {d : SliderDriver} (h : Unfaded d)
    (ht : d.taken = some d.timerHandle.alarm) :
    d.commitInterval.taken = some d.commitInterval.timerHandle.alarm := by
  rw [taken, commitInterval_handed]
  by_cases h0 : UInt64.ofInt d.interval = 0
  · rw [List.find?_cons_of_neg (by simp [h0])]
    have hkeep : d.commitInterval.timerHandle.alarm = d.timerHandle.alarm := by
      simp [commitInterval, GpTimer.setAlarmAction, h.autoReload, h.reloadCount, h0]
    rw [hkeep]
    exact ht
  · rw [List.find?_cons_of_pos (by simp [h0])]
    simp [commitInterval, GpTimer.setAlarmAction, h.reloadCount, h0]

theorem taken_call {cfg : Kconfig} {d d' : SliderDriver} (h : Unfaded d)
    (ht : d.taken = some d.timerHandle.alarm) (hcall : Call cfg d d') :
    d'.taken = some d'.timerHandle.alarm := by
  rcases hcall.unset_or_commit h.startFade with hu | ⟨e, hu, rfl⟩
  · rw [taken, hu.handed, hu.alarm]
    exact ht
  · apply taken_commitInterval (h.unset hu)
    rw [taken, hu.handed, hu.alarm]
    exact ht

/-- In the build without fading every interval, and so every count handed over, is at most
the half-period. -/
structure WithinHalfPeriod (d : SliderDriver) : Prop where
  interval_nonneg : 0 ≤ d.interval
  interval_le : d.interval ≤ maxInterval
  handed_le : ∀ config ∈ d.timerHandle.handed, (config.alarmCount.toNat : ℤ) ≤ maxInterval

theorem WithinHalfPeriod.of_frame {d d' : SliderDriver} (h : WithinHalfPeriod d)
    (hf : HandlerFrame d d') : WithinHalfPeriod d' :=
  ⟨hf.interval ▸ h.interval_nonneg, hf.interval ▸ h.interval_le, hf.handed ▸ h.handed_le⟩

theorem WithinHalfPeriod.commitInterval {d : SliderDriver} (h : WithinHalfPeriod d) :
    WithinHalfPeriod d.commitInterval := by
  refine ⟨h.interval_nonneg, h.interval_le, ?_⟩
  rw [commitInterval_handed]
  intro config hc
  rcases List.mem_cons.mp hc with rfl | hc
  · rw [toNat_ofInt_interval h.interval_nonneg h.interval_le]
    exact h.interval_le
  · exact h.handed_le config hc

theorem WithinHalfPeriod.setBrightness {d : SliderDriver} (h : WithinHalfPeriod d)
    {brightness : UInt8} (hb : brightness.toNat ≤ 100) :
    WithinHalfPeriod (d.setBrightness .noFade brightness).1 := by
  obtain ⟨h0, h1⟩ := firingDelay_bounds (validLevel_normLevel hb)
  rw [setBrightness_eq]
  exact ⟨h0, h1, h.handed_le⟩

theorem WithinHalfPeriod.call {d d' : SliderDriver} (h : WithinHalfPeriod d)
    (hcall : Call .noFade d d') : WithinHalfPeriod d' := by
  cases hcall with
  | method hm =>
      cases hm with
      | setPower power =>
          cases power with
          | true =>
              have hon : WithinHalfPeriod { d with mIsOn := true } :=
                ⟨h.interval_nonneg, h.interval_le, h.handed_le⟩
              exact hon.commitInterval
          | false =>
              have hoff : WithinHalfPeriod { d with mIsOn := false } :=
                ⟨h.interval_nonneg, h.interval_le, h.handed_le⟩
              exact (hoff.setBrightness (by decide)).commitInterval
      | setBrightness brightness hb => exact h.setBrightness hb
      | getLevel newTouches maxLevel =>
          rw [SliderDriver.getLevel]
          split <;> exact ⟨h.interval_nonneg, h.interval_le, h.handed_le⟩
      | setFrontLed power => exact ⟨h.interval_nonneg, h.interval_le, h.handed_le⟩
      | setLevelLed level => exact ⟨h.interval_nonneg, h.interval_le, h.handed_le⟩
  | gpioIsrHandler => exact h.of_frame (gpioIsrHandler_frame d)
  | onTimerAlarmCb => exact h.of_frame (onTimerAlarmCb_frame .noFade d)

/-! ## The gate -/

/-- The gate pin, the counter and its flag, which no method touches. -/
structure SameGate (d d' : SliderDriver) : Prop where
  triacPwm : d'.triacPwm = d.triacPwm
  running : d'.timerHandle.running = d.timerHandle.running
  rawCount : d'.timerHandle.rawCount = d.timerHandle.rawCount
  isRunning : d'.isRunning = d.isRunning

theorem SameGate.commitInterval {d e : SliderDriver} (h : SameGate d e) :
    SameGate d e.commitInterval := by
  have hc : SameGate e e.commitInterval := by
    simp only [SliderDriver.commitInterval, GpTimer.setAlarmAction]
    split <;> exact ⟨rfl, rfl, rfl, rfl⟩
  exact ⟨hc.triacPwm.trans h.triacPwm, hc.running.trans h.running,
    hc.rawCount.trans h.rawCount, hc.isRunning.trans h.isRunning⟩

theorem Method.sameGate {cfg : Kconfig} {d d' : SliderDriver} (h : Method cfg d d') :
    SameGate d d' := by
  cases h with
  | setPower power =>
      cases power with
      | true => exact SameGate.commitInterval ⟨rfl, rfl, rfl, rfl⟩
      | false =>
          rw [setPower_false, setBrightness_eq]
          exact SameGate.commitInterval ⟨rfl, rfl, rfl, rfl⟩
  | setBrightness brightness _ =>
      rw [setBrightness_eq]
      exact ⟨rfl, rfl, rfl, rfl⟩
  | getLevel newTouches maxLevel =>
      rw [SliderDriver.getLevel]
      split <;> exact ⟨rfl, rfl, rfl, rfl⟩
  | setFrontLed power => exact ⟨rfl, rfl, rfl, rfl⟩
  | setLevelLed level => exact ⟨rfl, rfl, rfl, rfl⟩

/-! ## The LEDs -/

theorem setPower_leds (cfg : Kconfig) (power : Bool) (d : SliderDriver) :
    (d.setPower cfg power).1.ledLevelDriver = d.ledLevelDriver := by
  cases power with
  | true => rfl
  | false =>
      rw [setPower_false, setBrightness_eq]
      rfl

theorem onTimerAlarmCb_leds (cfg : Kconfig) (d : SliderDriver) :
    (d.onTimerAlarmCb cfg).ledLevelDriver = d.ledLevelDriver := by
  unfold onTimerAlarmCb
  cases cfg.fadeTime with
  | none => rfl
  | some resolution =>
      simp only
      split
      · split <;> rfl
      · rfl

end MatterSwitch.SliderDriver
