import MatterSwitch.Transition.OneShot
import MatterSwitch.Verification.Slider.Equations

/-! # The gate pulse and the mains

`gpio_isr_handler` starts the timer and the alarm stops it. The timer is a one-shot that a
zero crossing does not start anew while it counts. -/

namespace MatterSwitch.SliderDriver

open Transition

theorem holdGateLow_succ (n : ℕ) (p : GatePin) :
    holdGateLow (n + 1) p =
      { level := false, pulses := if p.level then p.pulses + 1 else p.pulses } := by
  induction n generalizing p with
  | zero => cases h : p.level <;> simp [holdGateLow, GatePin.setLevel, h]
  | succ n ih =>
      rw [holdGateLow, ih]
      cases h : p.level <;> simp [GatePin.setLevel, h]

/-- The alarm gives one pulse and leaves the gate high. -/
theorem onTimerAlarmCb_triacPwm (cfg : Kconfig) {d : SliderDriver}
    (h : d.triacPwm.level = true) :
    (d.onTimerAlarmCb cfg).triacPwm = { level := true, pulses := d.triacPwm.pulses + 1 } := by
  have hpulse : (holdGateLow 63 d.triacPwm).setLevel true =
      { level := true, pulses := d.triacPwm.pulses + 1 } := by
    rw [holdGateLow_succ, h]
    rfl
  obtain ⟨fadeTime⟩ := cfg
  cases fadeTime with
  | none => exact hpulse
  | some resolution =>
      simp only [onTimerAlarmCb]
      split
      · split <;> exact hpulse
      · exact hpulse

/-- The alarm stops the timer at zero. -/
theorem onTimerAlarmCb_timerHandle (cfg : Kconfig) (d : SliderDriver) :
    (d.onTimerAlarmCb cfg).timerHandle = (d.timerHandle.stop.1.setRawCount 0).1 := by
  obtain ⟨fadeTime⟩ := cfg
  cases fadeTime with
  | none => rfl
  | some resolution =>
      simp only [onTimerAlarmCb]
      split
      · split <;> rfl
      · rfl

/-- The driver with the given alarm in force, its gate high between pulses, as a one-shot
timer. -/
structure Follows (alarm : ℕ) (d : SliderDriver) (t : OneShot) : Prop where
  alarm_eq : d.timerHandle.alarm.alarmCount.toNat = alarm
  gate_high : d.triacPwm.level = true
  running_eq : d.timerHandle.running = t.elapsed.isSome
  rawCount_eq : d.timerHandle.rawCount = t.elapsed.getD 0
  pulses_eq : d.triacPwm.pulses = t.alarms

@[simp] theorem start_running (t : GpTimer) : t.start.1.running = true := by
  unfold GpTimer.start
  split
  · assumption
  · rfl

@[simp] theorem start_rawCount (t : GpTimer) : t.start.1.rawCount = t.rawCount := by
  unfold GpTimer.start
  split <;> rfl

@[simp] theorem start_alarm (t : GpTimer) : t.start.1.alarm = t.alarm := by
  unfold GpTimer.start
  split <;> rfl

/-- A zero crossing starts a timer at rest and leaves a counting one to its count. -/
theorem follows_gpioIsrHandler {alarm : ℕ} {d : SliderDriver} {t : OneShot}
    (h : Follows alarm d t) : Follows alarm d.gpioIsrHandler t.trigger := by
  have hg := h.gate_high
  refine ⟨?_, rfl, ?_, ?_, ?_⟩
  · simpa [gpioIsrHandler, restartTimer] using h.alarm_eq
  · simp [gpioIsrHandler, restartTimer, OneShot.trigger]
  · simpa [gpioIsrHandler, restartTimer, OneShot.trigger] using h.rawCount_eq
  · simpa [gpioIsrHandler, restartTimer, GatePin.setLevel, hg, OneShot.trigger]
      using h.pulses_eq

theorem microsecond_of_stopped (cfg : Kconfig) {d : SliderDriver}
    (h : d.timerHandle.running = false) : d.microsecond cfg = d := by
  simp [microsecond, GpTimer.advance, h]

theorem microsecond_of_counting (cfg : Kconfig) {d : SliderDriver}
    (h : d.timerHandle.running = true)
    (hc : d.timerHandle.rawCount + 1 ≠ d.timerHandle.alarm.alarmCount.toNat) :
    d.microsecond cfg =
      { d with timerHandle :=
        { d.timerHandle with rawCount := d.timerHandle.rawCount + 1 } } := by
  simp [microsecond, GpTimer.advance, h, hc]

/-- The alarm callback sets the count, whatever the counter has left in it. -/
theorem onTimerAlarmCb_rawCount (cfg : Kconfig) {d : SliderDriver}
    (h : d.timerHandle.running = true) (count : ℕ) :
    SliderDriver.onTimerAlarmCb cfg
        { d with timerHandle := { d.timerHandle with rawCount := count } } =
      d.onTimerAlarmCb cfg := by
  have hstop : SliderDriver.stopTimer
      { d with timerHandle := { d.timerHandle with rawCount := count } } = d.stopTimer := by
    simp [stopTimer, GpTimer.stop, h, GpTimer.setRawCount]
  unfold onTimerAlarmCb
  rw [hstop]

theorem microsecond_of_alarm (cfg : Kconfig) {d : SliderDriver}
    (h : d.timerHandle.running = true)
    (hc : d.timerHandle.rawCount + 1 = d.timerHandle.alarm.alarmCount.toNat) :
    d.microsecond cfg = d.onTimerAlarmCb cfg := by
  cases ha : d.timerHandle.alarm.autoReloadOnAlarm with
  | true =>
      rw [← onTimerAlarmCb_rawCount cfg h d.timerHandle.alarm.reloadCount.toNat]
      simp [microsecond, GpTimer.advance, h, hc, ha]
  | false =>
      rw [← onTimerAlarmCb_rawCount cfg h d.timerHandle.alarm.alarmCount.toNat]
      simp [microsecond, GpTimer.advance, h, hc, ha]

theorem follows_microsecond (cfg : Kconfig) {alarm : ℕ} {d : SliderDriver} {t : OneShot}
    (h : Follows alarm d t) : Follows alarm (d.microsecond cfg) (t.tick alarm) := by
  have hr := h.running_eq
  have hc := h.rawCount_eq
  obtain ⟨elapsed, alarms⟩ := t
  cases elapsed with
  | none =>
      rw [microsecond_of_stopped cfg hr]
      exact h
  | some c =>
      have hc' : d.timerHandle.rawCount = c := hc
      by_cases hca : c + 1 = alarm
      · have hrun : d.timerHandle.running = true := hr
        have ht : OneShot.tick alarm ⟨some c, alarms⟩ = ⟨none, alarms + 1⟩ := if_pos hca
        have hp := h.pulses_eq
        rw [microsecond_of_alarm cfg hr (by rw [hc', hca, h.alarm_eq]), ht]
        refine ⟨?_, ?_, ?_, ?_, ?_⟩
        · rw [onTimerAlarmCb_timerHandle]
          simpa [GpTimer.stop, hrun, GpTimer.setRawCount] using h.alarm_eq
        · rw [onTimerAlarmCb_triacPwm cfg h.gate_high]
        · rw [onTimerAlarmCb_timerHandle]
          simp [GpTimer.stop, hrun, GpTimer.setRawCount]
        · rw [onTimerAlarmCb_timerHandle]
          rfl
        · rw [onTimerAlarmCb_triacPwm cfg h.gate_high]
          exact congrArg (· + 1) hp
      · have ht : OneShot.tick alarm ⟨some c, alarms⟩ = ⟨some (c + 1), alarms⟩ := if_neg hca
        rw [microsecond_of_counting cfg hr (by rw [hc', h.alarm_eq]; exact hca), ht]
        exact ⟨h.alarm_eq, h.gate_high, hr, congrArg (· + 1) hc, h.pulses_eq⟩

/-! ## Half-cycles -/

/-- A zero crossing and the microseconds after it. -/
def halfCycle (cfg : Kconfig) : SliderDriver → ℕ → SliderDriver :=
  segment gpioIsrHandler (microsecond cfg)

/-- Between this zero crossing and the next, a gate pulse comes only at the alarm count,
and at most one comes. -/
def GateInPhase (cfg : Kconfig) (alarm : ℕ) : SliderDriver → ℕ → Prop :=
  InPhase gpioIsrHandler (microsecond cfg) (fun d => d.triacPwm.pulses) alarm

theorem along_gateInPhase_iff (cfg : Kconfig) {alarm : ℕ} {d : SliderDriver} {t : OneShot}
    (h : Follows alarm d t) (ns : List ℕ) :
    Along (halfCycle cfg) (GateInPhase cfg alarm) d ns ↔
      Along (segment OneShot.trigger (OneShot.tick alarm))
        (InPhase OneShot.trigger (OneShot.tick alarm) OneShot.alarms alarm) t ns :=
  along_iff_of_rel (Follows alarm)
    (fun _ _ n hd => rel_segment (Follows alarm) (fun _ _ => follows_gpioIsrHandler)
      (fun _ _ => follows_microsecond cfg) hd n)
    (fun _ _ n hd => inPhase_iff_of_rel (Follows alarm) (fun _ _ => follows_gpioIsrHandler)
      (fun _ _ => follows_microsecond cfg) (fun _ _ hd => hd.pulses_eq) alarm hd n) h ns

/-- The timer rests at zero with an alarm in force, the gate high. -/
structure Armed (alarm : ℕ) (d : SliderDriver) : Prop where
  alarm_eq : d.timerHandle.alarm.alarmCount.toNat = alarm
  stopped : d.timerHandle.running = false
  rawCount_eq : d.timerHandle.rawCount = 0
  gate_high : d.triacPwm.level = true

theorem Armed.follows {alarm : ℕ} {d : SliderDriver} (h : Armed alarm d) :
    Follows alarm d ⟨none, d.triacPwm.pulses⟩ :=
  ⟨h.alarm_eq, h.gate_high, h.stopped, h.rawCount_eq, rfl⟩

/-- The gate pulses stay in phase with the mains exactly when every spacing of the zero
crossings lasts until the alarm, or no alarm comes any more. -/
theorem gate_in_phase_iff (cfg : Kconfig) {alarm : ℕ} (ha : 0 < alarm) {d : SliderDriver}
    (hd : Armed alarm d) {spacings : List ℕ} (hpos : ∀ n ∈ spacings, 0 < n) :
    Along (halfCycle cfg) (GateInPhase cfg alarm) d spacings ↔
      OneShot.Separated alarm spacings :=
  (along_gateInPhase_iff cfg hd.follows spacings).trans
    (OneShot.along_inPhase_none_iff ha _ hpos)

/-- The driver after its constructor. -/
def fresh : SliderDriver := construct ⟨fun _ => 0, fun _ => false⟩

/-- Half brightness under a mains of 60 Hz. -/
theorem gate_in_phase_half :
    Along (halfCycle .noFade) (GateInPhase .noFade 4166) fresh [8333, 8333, 8334] :=
  (gate_in_phase_iff .noFade (by decide) ⟨by decide, rfl, rfl, rfl⟩ (by decide)).mpr (by decide)

/-- Switched off, with the alarm at the half-period: one early zero crossing, and the next
pulse comes 333 microseconds after it. -/
theorem early_edge_breaks_phase :
    ¬ Along (halfCycle .noFade) (GateInPhase .noFade 8333) (fresh.setPower .noFade false).1
      [8000, 1000] := by
  have hd : Armed 8333 (fresh.setPower .noFade false).1 := ⟨by decide, rfl, rfl, rfl⟩
  rw [along_gateInPhase_iff .noFade hd.follows,
    OneShot.along_inPhase_none_iff (by decide) _ (by decide)]
  decide

end MatterSwitch.SliderDriver
