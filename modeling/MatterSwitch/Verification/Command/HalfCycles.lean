import MatterSwitch.Verification.Command.Equations
import MatterSwitch.Verification.Task.Driver
import MatterSwitch.Verification.Task.Grain

/-! # Commands between the half-cycles of the mains

The whole way from a command to the gate: whatever commands come while the timer rests, each
half-cycle gives one pulse, at the delay last handed over and not refused. -/

namespace MatterSwitch

open SliderDriver Transition Relation

/-! ## A half-cycle of the driver -/

namespace SliderDriver

/-- Two drivers with the same settings: what commands have set, the mains leave alone. -/
structure SameSettings (d d' : SliderDriver) : Prop where
  unset : Unset d d'
  frame : HandlerFrame d d'

theorem SameSettings.trans {d d' d'' : SliderDriver} (h : SameSettings d d')
    (h' : SameSettings d' d'') : SameSettings d d'' where
  unset := ⟨h'.unset.startFade.trans h.unset.startFade, h'.unset.stepCpt.trans h.unset.stepCpt,
    h'.unset.alarmConfig.trans h.unset.alarmConfig, h'.unset.handed.trans h.unset.handed,
    h'.unset.alarm.trans h.unset.alarm⟩
  frame := ⟨h'.frame.mIsOn.trans h.frame.mIsOn, h'.frame.mLevel.trans h.frame.mLevel,
    h'.frame.mPreviousLevel.trans h.frame.mPreviousLevel,
    h'.frame.interval.trans h.frame.interval, h'.frame.handed.trans h.frame.handed⟩

theorem sameSettings_gpioIsrHandler (d : SliderDriver) : SameSettings d d.gpioIsrHandler :=
  ⟨⟨rfl, rfl, rfl, start_handed _, start_alarm _⟩, gpioIsrHandler_frame d⟩

theorem sameSettings_microsecond (cfg : Kconfig) {d : SliderDriver} (h : d.startFade = false) :
    SameSettings d (d.microsecond cfg) := by
  cases hr : d.timerHandle.running with
  | false =>
      rw [microsecond_of_stopped cfg hr]
      exact ⟨⟨rfl, rfl, rfl, rfl, rfl⟩, ⟨rfl, rfl, rfl, rfl, rfl⟩⟩
  | true =>
      by_cases hc : d.timerHandle.rawCount + 1 = d.timerHandle.alarm.alarmCount.toNat
      · have hf := onTimerAlarmCb_frame cfg d
        rw [microsecond_of_alarm cfg hr hc]
        refine ⟨?_, hf⟩
        rw [onTimerAlarmCb_of_not_fading cfg h]
        exact ⟨rfl, rfl, rfl, stop_handed _, stop_alarm _⟩
      · rw [microsecond_of_counting cfg hr hc]
        exact ⟨⟨rfl, rfl, rfl, rfl, rfl⟩, ⟨rfl, rfl, rfl, rfl, rfl⟩⟩

theorem sameSettings_halfCycle (cfg : Kconfig) {d : SliderDriver} (h : d.startFade = false)
    (n : ℕ) : SameSettings d (d.halfCycle cfg n) := by
  induction n with
  | zero => exact sameSettings_gpioIsrHandler d
  | succ n ih =>
      rw [halfCycle, Transition.segment, Function.iterate_succ_apply']
      exact ih.trans (sameSettings_microsecond cfg (ih.unset.startFade.trans h))

/-- A half-cycle that outlasts the alarm gives one pulse, at the alarm, and leaves the timer
at rest. -/
theorem halfCycle_pulses (cfg : Kconfig) {alarm : ℕ} (ha : 0 < alarm) {d : SliderDriver}
    (hd : Armed alarm d) (k : ℕ) :
    (d.halfCycle cfg k).triacPwm.pulses = d.triacPwm.pulses + if alarm ≤ k then 1 else 0 := by
  have h := rel_segment (Follows alarm) (fun _ _ => follows_gpioIsrHandler)
    (fun _ _ => follows_microsecond cfg) hd.follows k
  rw [OneShot.segment_none ha] at h
  have hp := h.pulses_eq
  by_cases hk : k < alarm
  · rw [if_pos hk] at hp
    rw [if_neg (not_le.mpr hk)]
    exact hp
  · rw [if_neg hk] at hp
    rw [if_pos (not_lt.mp hk)]
    exact hp

theorem armed_halfCycle (cfg : Kconfig) {alarm : ℕ} (ha : 0 < alarm) {d : SliderDriver}
    (hd : Armed alarm d) {n : ℕ} (hn : alarm ≤ n) : Armed alarm (d.halfCycle cfg n) := by
  have h := rel_segment (Follows alarm) (fun _ _ => follows_gpioIsrHandler)
    (fun _ _ => follows_microsecond cfg) hd.follows n
  rw [OneShot.segment_none ha, if_neg (not_lt.mpr hn)] at h
  exact ⟨h.alarm_eq, h.running_eq, h.rawCount_eq, h.gate_high⟩

/-- The driver between two half-cycles. -/
structure Resting (d : SliderDriver) : Prop where
  unfaded : Unfaded d
  taken_eq : d.taken = some d.timerHandle.alarm
  within : WithinHalfPeriod d
  armed : Armed d.timerHandle.alarm.alarmCount.toNat d

theorem Resting.method {d d' : SliderDriver} (h : Resting d) (hm : Method .noFade d d') :
    Resting d' := by
  have hs := hm.sameGate
  refine ⟨h.unfaded.call (.method hm), taken_call h.unfaded h.taken_eq (.method hm),
    h.within.call (.method hm), ⟨rfl, ?_, ?_, ?_⟩⟩
  · rw [hs.running, h.armed.stopped]
  · rw [hs.rawCount, h.armed.rawCount_eq]
  · rw [hs.triacPwm, h.armed.gate_high]

theorem Resting.methods {d d' : SliderDriver} (h : Resting d)
    (hm : ReflTransGen (Method .noFade) d d') : Resting d' := by
  induction hm with
  | refl => exact h
  | tail _ hm ih => exact ih.method hm

theorem triacPwm_methods {cfg : Kconfig} {d d' : SliderDriver}
    (hm : ReflTransGen (Method cfg) d d') : d'.triacPwm = d.triacPwm := by
  induction hm with
  | refl => rfl
  | tail _ hm ih => rw [hm.sameGate.triacPwm, ih]

/-- The delay of the half-cycles at rest. -/
theorem Resting.validAlarm {d : SliderDriver} (h : Resting d) :
    0 < d.timerHandle.alarm.alarmCount.toNat ∧
      (d.timerHandle.alarm.alarmCount.toNat : ℤ) ≤ maxInterval := by
  have ht := h.taken_eq
  refine ⟨?_, h.within.handed_le _ (List.mem_of_find?_eq_some ht)⟩
  have hne : d.timerHandle.alarm.alarmCount ≠ 0 := by simpa using List.find?_some ht
  exact Nat.pos_of_ne_zero fun h0 => hne (UInt64.toNat_inj.mp h0)

theorem Resting.halfCycle {d : SliderDriver} (h : Resting d) {n : ℕ}
    (hn : maxInterval ≤ (n : ℤ)) : Resting (d.halfCycle .noFade n) := by
  obtain ⟨hpos, hle⟩ := h.validAlarm
  have hs := sameSettings_halfCycle .noFade h.unfaded.startFade n
  refine ⟨h.unfaded.unset hs.unset, ?_, h.within.of_frame hs.frame, ?_⟩
  · rw [taken, hs.unset.handed, hs.unset.alarm]
    exact h.taken_eq
  · rw [hs.unset.alarm]
    exact armed_halfCycle .noFade hpos h.armed (by omega)

end SliderDriver

/-! ## Commands and half-cycles -/

/-- Between two steps of the mains a complete step of the device, and a half-cycle with its
length in microseconds. -/
inductive MainsStep where
  | device (b : BootStep)
  | halfCycle (n : ℕ)
  deriving DecidableEq, Repr

namespace MainsStep

/-- The triac belongs to the half-cycles, which last at least until the latest alarm. -/
def AtRest : MainsStep → Prop
  | .device (.command (.signal .zeroCross)) => False
  | .device (.command (.signal .timerAlarm)) => False
  | .device _ => True
  | .halfCycle n => maxInterval ≤ n

instance : DecidablePred AtRest := fun e => by
  unfold AtRest
  split <;> infer_instance

end MainsStep

namespace System

/-- A run without interrupts of the triac is a sequence of method calls. -/
theorem methods_run (cfg : Kconfig) (s : System) {es : List Event}
    (hz : ∀ e ∈ es, e ≠ .signal .zeroCross) (ha : ∀ e ∈ es, e ≠ .signal .timerAlarm) :
    ReflTransGen (Method cfg) s.dev.slider (run (System.step cfg) s es).dev.slider := by
  induction es generalizing s with
  | nil => exact .refl
  | cons e es ih =>
      have hstep := method_step cfg s (hz e (by simp)) (ha e (by simp))
      have hrest := ih (s.step cfg e) (fun e he => hz e (by simp [he]))
        fun e he => ha e (by simp [he])
      exact hstep.to_reflTransGen.trans hrest

end System

namespace Device

def mainsStep (d : Device) : MainsStep → Device
  | .device b => d.bootStep .noFade b
  | .halfCycle n => { d with slider := d.slider.halfCycle .noFade n }

/-- A complete step at rest is a sequence of method calls. -/
theorem methods_bootStep (cfg : Kconfig) (d : Device) {b : BootStep}
    (hb : (MainsStep.device b).AtRest) :
    ReflTransGen (Method cfg) d.slider (d.bootStep cfg b).slider := by
  have hone : ∀ e : Event, e ≠ .signal .zeroCross → e ≠ .signal .timerAlarm →
      ReflTransGen (Method cfg) d.slider
        ((⟨d, .testPressed, .returned⟩ : System).step cfg e).dev.slider :=
    fun _ hz ha => (System.method_step cfg ⟨d, .testPressed, .returned⟩ hz ha).to_reflTransGen
  cases b with
  | setDefault =>
      have hz : ∀ e ∈ List.replicate 6 Event.appMain, e ≠ .signal .zeroCross := by simp
      have ha : ∀ e ∈ List.replicate 6 Event.appMain, e ≠ .signal .timerAlarm := by simp
      have h := System.methods_run cfg ⟨d, .testPressed, .loadLevel⟩ hz ha
      rw [System.run_setDefault] at h
      exact h
  | command c =>
      cases c with
      | sliderTask inp =>
          obtain ⟨n, hn⟩ := System.reaches_sliderTask cfg inp d .returned
          have hz : ∀ e ∈ List.replicate n (Event.sliderTask inp), e ≠ .signal .zeroCross := by
            simp
          have ha : ∀ e ∈ List.replicate n (Event.sliderTask inp), e ≠ .signal .timerAlarm := by
            simp
          have h := System.methods_run cfg ⟨d, .testPressed, .returned⟩ hz ha
          rw [hn] at h
          exact h
      | signal e =>
          cases e with
          | matterWrite path val => exact hone (.signal (.matterWrite path val)) (by simp) (by simp)
          | buttonEdge tickNow => exact hone (.signal (.buttonEdge tickNow)) (by simp) (by simp)
          | zeroCross => exact hb.elim
          | timerAlarm => exact hb.elim

/-- What a step of the mains has to do: a command leaves the gate alone, and a half-cycle
gives one pulse, at the latest delay handed over that the timer has not refused. -/
def PulsesOnce (d : Device) : MainsStep → Prop
  | .device b => (d.bootStep .noFade b).slider.triacPwm = d.slider.triacPwm
  | .halfCycle n =>
      ∃ config, d.slider.timerHandle.handed.find? (fun config => config.alarmCount ≠ 0) =
          some config ∧
        0 < config.alarmCount.toNat ∧ (config.alarmCount.toNat : ℤ) ≤ maxInterval ∧
        ∀ k ≤ n, (d.slider.halfCycle .noFade k).triacPwm.pulses =
          d.slider.triacPwm.pulses + if config.alarmCount.toNat ≤ k then 1 else 0

theorem resting_mainsStep {d : Device} (h : Resting d.slider) {e : MainsStep} (he : e.AtRest) :
    Resting (d.mainsStep e).slider ∧ PulsesOnce d e := by
  cases e with
  | device b =>
      have hm := methods_bootStep .noFade d he
      refine ⟨h.methods hm, ?_⟩
      exact triacPwm_methods hm
  | halfCycle n =>
      obtain ⟨hpos, hle⟩ := h.validAlarm
      exact ⟨h.halfCycle he, d.slider.timerHandle.alarm, h.taken_eq, hpos, hle,
        fun k _ => halfCycle_pulses .noFade hpos h.armed k⟩

/-- From power-up, with any commands between the half-cycles: every half-cycle gives exactly one
pulse of the gate, at the delay last handed to the timer and not refused, and commands give
none. -/
theorem one_pulse_per_half_cycle (leds : LedDriver) (attrs : AttrPath → AttrVal)
    {es : List MainsStep} (hes : ∀ e ∈ es, e.AtRest) :
    Along mainsStep PulsesOnce (boot leds attrs) es := by
  have hboot : Resting (boot leds attrs).slider := by
    have hwithin := System.withinHalfPeriod_run leds attrs []
    exact ⟨⟨rfl, rfl, rfl, rfl, rfl⟩, rfl, hwithin, ⟨rfl, rfl, rfl, rfl⟩⟩
  generalize boot leds attrs = d at hboot ⊢
  induction es generalizing d with
  | nil => trivial
  | cons e es ih =>
      obtain ⟨hrest, honce⟩ := resting_mainsStep hboot (hes e (by simp))
      exact ⟨honce, ih (fun e he => hes e (by simp [he])) _ hrest⟩

/-- Start-up, a half-cycle at the default level, a dimming command, and a half-cycle more. -/
theorem one_pulse_per_half_cycle_dimmed :
    Along mainsStep PulsesOnce cold
      [.device .setDefault, .halfCycle 8333,
        .device (.command (.signal (.matterWrite (currentLevelPath 1) ⟨2, 100⟩))),
        .device (.command (.signal (.matterWrite (onOffPath 1) ⟨1, 1⟩))), .halfCycle 8334] :=
  one_pulse_per_half_cycle _ _ (by decide)

end Device

end MatterSwitch
