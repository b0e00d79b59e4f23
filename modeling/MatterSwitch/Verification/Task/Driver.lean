import MatterSwitch.Verification.Device.Equations
import MatterSwitch.Verification.Slider.Calls

/-! # The driver under both tasks

Between any two states of a run the driver has seen a sequence of calls, so its invariants
hold in every interleaving of the two tasks, the remote writes and the interrupts. -/

namespace MatterSwitch

open SliderDriver Transition Relation

namespace Device

/-! ## One call a step -/

theorem method_setBrightness (cfg : Kconfig) (v : UInt8) (d : SliderDriver) :
    Method cfg d (d.setBrightness cfg (UInt8.ofNat (v.toNat * 100 / 254))).1 := by
  apply Method.setBrightness
  have hv := v.toNat_lt
  rw [remap_toNat]
  omega

theorem method_attributeUpdate (cfg : Kconfig) (path : AttrPath) (val : AttrVal) (d : Device) :
    ReflGen (Method cfg) d.slider (d.attributeUpdate cfg path val).slider := by
  by_cases ho : path = onOffPath 1
  · rw [ho, attributeUpdate_onOff]
    exact .single (.setPower val.b)
  · by_cases hc : path = currentLevelPath 1
    · rw [hc, attributeUpdate_currentLevel]
      exact .single (method_setBrightness cfg val.u8 d.slider)
    · rw [attributeUpdate_other cfg val d ho hc]

theorem method_sliderStmt (cfg : Kconfig) (inp : TaskInput) (d : Device) (pc : SliderPc) :
    ReflGen (Method cfg) d.slider (d.sliderStmt cfg inp pc).1.slider := by
  cases pc with
  | updateOnOff attrVal => exact method_attributeUpdate cfg (onOffPath 1) attrVal d
  | updateLevel attrVal => exact method_attributeUpdate cfg (currentLevelPath 1) attrVal d
  | updateOn attrVal => exact method_attributeUpdate cfg (onOffPath 1) attrVal d
  | readLevel => exact .single (.getLevel inp.touches 254)
  | setFrontLed => exact .single (.setFrontLed d.oldState)
  | setLevelLed => exact .single (.setLevelLed d.shownLevel)
  | _ => exact .refl

theorem method_mainStmt (cfg : Kconfig) (d : Device) (pc : MainPc) :
    ReflGen (Method cfg) d.slider (d.mainStmt cfg pc).1.slider := by
  cases pc with
  | updateLevel val => exact method_attributeUpdate cfg (currentLevelPath 1) val d
  | applyBrightness val => exact .single (method_setBrightness cfg val.u8 d.slider)
  | updatePower val => exact method_attributeUpdate cfg (onOffPath 1) val d
  | applyPower val => exact .single (.setPower val.b)
  | _ => exact .refl

end Device

/-! ## Whole runs -/

def Event.isZeroCross : Event → Bool
  | .signal .zeroCross => true
  | _ => false

def Event.isTimerAlarm : Event → Bool
  | .signal .timerAlarm => true
  | _ => false

theorem Event.isZeroCross_iff (e : Event) : e.isZeroCross = true ↔ e = .signal .zeroCross := by
  cases e with
  | signal e => cases e <;> simp [isZeroCross]
  | _ => simp [isZeroCross]

theorem Event.isTimerAlarm_iff (e : Event) : e.isTimerAlarm = true ↔ e = .signal .timerAlarm := by
  cases e with
  | signal e => cases e <;> simp [isTimerAlarm]
  | _ => simp [isTimerAlarm]

namespace System

/-- A step that is no interrupt of the triac makes at most one method call. -/
theorem method_step (cfg : Kconfig) (s : System) {e : Event} (hz : e ≠ .signal .zeroCross)
    (ha : e ≠ .signal .timerAlarm) :
    ReflGen (Method cfg) s.dev.slider (s.step cfg e).dev.slider := by
  cases e with
  | signal e =>
      cases e with
      | matterWrite path val => exact Device.method_attributeUpdate cfg path val s.dev
      | buttonEdge tickNow =>
          have hs : (s.dev.buttonCb tickNow).slider = s.dev.slider := by
            rw [Device.buttonCb]
            split <;> rfl
          rw [step, Device.signal, hs]
      | zeroCross => exact absurd rfl hz
      | timerAlarm => exact absurd rfl ha
  | sliderTask inp => exact Device.method_sliderStmt cfg inp s.dev s.task
  | appMain => exact Device.method_mainStmt cfg s.dev s.main

theorem calls_step (cfg : Kconfig) (s : System) (e : Event) :
    Calls cfg s.dev.slider (s.step cfg e).dev.slider := by
  by_cases hz : e = .signal .zeroCross
  · rw [hz]
    exact .single .gpioIsrHandler
  · by_cases ha : e = .signal .timerAlarm
    · rw [ha]
      exact .single .onTimerAlarmCb
    · rcases (reflGen_iff _ _ _).mp (method_step cfg s hz ha) with heq | hm
      · rw [heq]
        exact .refl
      · exact .single (.method hm)

theorem calls_run (cfg : Kconfig) (s : System) (es : List Event) :
    Calls cfg s.dev.slider (run (System.step cfg) s es).dev.slider := by
  induction es generalizing s with
  | nil => exact .refl
  | cons e es ih => exact (calls_step cfg s e).trans (ih (s.step cfg e))

/-! ## The fade and the alarm -/

theorem unfaded_run (cfg : Kconfig) (leds : LedDriver) (attrs : AttrPath → AttrVal)
    (es : List Event) : Unfaded (run (System.step cfg) (boot leds attrs) es).dev.slider :=
  (calls_run cfg (boot leds attrs) es).invariant (fun _ _ h hcall => h.call hcall)
    ⟨rfl, rfl, rfl, rfl, rfl⟩

/-- Nothing sets `start_fade`. In either build and in every interleaving no fade is ever under
way, the alarm callback is that of the build without fading, and `alarm_config` is what was
last handed to the timer. -/
theorem fade_never_starts (cfg : Kconfig) (leds : LedDriver) (attrs : AttrPath → AttrVal)
    (es : List Event) :
    let d := (run (System.step cfg) (boot leds attrs) es).dev.slider
    d.startFade = false ∧ d.stepCpt = 0 ∧ d.onTimerAlarmCb cfg = d.onTimerAlarmCb .noFade ∧
      d.timerHandle.handed.head? = some d.alarmConfig := by
  intro d
  have h : Unfaded d := unfaded_run cfg leds attrs es
  refine ⟨h.startFade, h.stepCpt, ?_, h.handed⟩
  rw [onTimerAlarmCb_of_not_fading cfg h.startFade,
    onTimerAlarmCb_of_not_fading .noFade h.startFade]

theorem taken_run (cfg : Kconfig) (leds : LedDriver) (attrs : AttrPath → AttrVal)
    (es : List Event) :
    let d := (run (System.step cfg) (boot leds attrs) es).dev.slider
    d.taken = some d.timerHandle.alarm :=
  ((calls_run cfg (boot leds attrs) es).invariant
    (P := fun d => Unfaded d ∧ d.taken = some d.timerHandle.alarm)
    (fun _ _ h hcall => ⟨h.1.call hcall, taken_call h.1 h.2 hcall⟩)
    ⟨⟨rfl, rfl, rfl, rfl, rfl⟩, rfl⟩).2

theorem withinHalfPeriod_run (leds : LedDriver) (attrs : AttrPath → AttrVal)
    (es : List Event) :
    WithinHalfPeriod (run (System.step .noFade) (boot leds attrs) es).dev.slider := by
  apply (calls_run .noFade (boot leds attrs) es).invariant fun _ _ h hcall => h.call hcall
  have hle : (0 : ℤ) ≤ maxInterval := by decide
  refine ⟨le_rfl, hle, ?_⟩
  intro config hc
  rw [List.mem_singleton.mp hc]
  decide

/-- In the build without fading, and in every interleaving from power-up: the alarm in force is
the latest of the configurations handed to the timer whose count is not zero, and its count is
positive and at most the half-period, whatever counts were handed over and refused. -/
theorem alarm_in_force (leds : LedDriver) (attrs : AttrPath → AttrVal) (es : List Event) :
    let t := (run (System.step .noFade) (boot leds attrs) es).dev.slider.timerHandle
    t.handed.find? (fun config => config.alarmCount ≠ 0) = some t.alarm ∧
      0 < t.alarm.alarmCount.toNat ∧ (t.alarm.alarmCount.toNat : ℤ) ≤ maxInterval := by
  intro t
  have ht : t.handed.find? (fun config => config.alarmCount ≠ 0) = some t.alarm :=
    taken_run .noFade leds attrs es
  have hw := withinHalfPeriod_run leds attrs es
  refine ⟨ht, ?_, hw.handed_le t.alarm (List.mem_of_find?_eq_some ht)⟩
  have hne : t.alarm.alarmCount ≠ 0 := by simpa using List.find?_some ht
  exact Nat.pos_of_ne_zero fun h0 => hne (UInt64.toNat_inj.mp h0)

/-! ## Pulses and crossings -/

/-- Between any two steps the gate is high and `is_running` tells whether the timer counts. -/
structure GateReady (d : SliderDriver) : Prop where
  unfaded : Unfaded d
  gate_high : d.triacPwm.level = true
  isRunning_eq : d.isRunning = d.timerHandle.running

/-- What a step does to the gate and to the timer. -/
structure GateStep (e : Event) (d d' : SliderDriver) : Prop where
  ready : GateReady d'
  pulses_eq : d'.triacPwm.pulses = d.triacPwm.pulses + if e.isTimerAlarm then 1 else 0
  running_eq : d'.timerHandle.running =
    if e.isZeroCross then true else if e.isTimerAlarm then false else d.timerHandle.running

theorem gateStep_zeroCross {d : SliderDriver} (h : GateReady d) :
    GateStep (.signal .zeroCross) d d.gpioIsrHandler := by
  have hcall : Call .noFade d d.gpioIsrHandler := .gpioIsrHandler
  refine ⟨⟨h.unfaded.call hcall, rfl, ?_⟩, ?_, ?_⟩
  · simp [gpioIsrHandler, restartTimer]
  · simp [gpioIsrHandler, GatePin.setLevel, h.gate_high, restartTimer, Event.isTimerAlarm]
  · simp [gpioIsrHandler, restartTimer, Event.isZeroCross]

theorem gateStep_timerAlarm (cfg : Kconfig) {d : SliderDriver} (h : GateReady d) :
    GateStep (.signal .timerAlarm) d (d.onTimerAlarmCb cfg) := by
  have hp := onTimerAlarmCb_triacPwm cfg h.gate_high
  have hr : (d.onTimerAlarmCb cfg).timerHandle.running = false := by
    rw [onTimerAlarmCb_timerHandle]
    exact stop_running d.timerHandle
  refine ⟨⟨h.unfaded.call .onTimerAlarmCb, by rw [hp], ?_⟩, by rw [hp]; rfl, hr⟩
  rw [hr, onTimerAlarmCb_of_not_fading cfg h.unfaded.startFade]
  rfl

theorem gateStep_of_sameGate {e : Event} {d d' : SliderDriver} (h : GateReady d)
    (hz : e ≠ .signal .zeroCross) (ha : e ≠ .signal .timerAlarm) (hu : Unfaded d')
    (hs : SameGate d d') : GateStep e d d' := by
  have hz' : e.isZeroCross = false := Bool.eq_false_iff.mpr (mt e.isZeroCross_iff.mp hz)
  have ha' : e.isTimerAlarm = false := Bool.eq_false_iff.mpr (mt e.isTimerAlarm_iff.mp ha)
  refine ⟨⟨hu, ?_, ?_⟩, ?_, ?_⟩
  · rw [hs.triacPwm, h.gate_high]
  · rw [hs.isRunning, hs.running, h.isRunning_eq]
  · simp [hs.triacPwm, ha']
  · simp [hs.running, hz', ha']

theorem gateStep (cfg : Kconfig) {s : System} (h : GateReady s.dev.slider) (e : Event) :
    GateStep e s.dev.slider (s.step cfg e).dev.slider := by
  by_cases hz : e = .signal .zeroCross
  · rw [hz]
    exact gateStep_zeroCross h
  · by_cases ha : e = .signal .timerAlarm
    · rw [ha]
      exact gateStep_timerAlarm cfg h
    · rcases (reflGen_iff _ _ _).mp (method_step cfg s hz ha) with heq | hm
      · rw [heq]
        exact gateStep_of_sameGate h hz ha h.unfaded ⟨rfl, rfl, rfl, rfl⟩
      · exact gateStep_of_sameGate h hz ha (h.unfaded.call (.method hm)) hm.sameGate

/-- The alarm comes from a timer that counts. -/
def AlarmWhileRunning (s : System) : Event → Prop
  | .signal .timerAlarm => s.dev.slider.timerHandle.running = true
  | _ => True

instance (s : System) : (e : Event) → Decidable (s.AlarmWhileRunning e)
  | .signal .timerAlarm => inferInstanceAs (Decidable (_ = _))
  | .signal (.matterWrite _ _) => isTrue trivial
  | .signal (.buttonEdge _) => isTrue trivial
  | .signal .zeroCross => isTrue trivial
  | .sliderTask _ => isTrue trivial
  | .appMain => isTrue trivial

/-- An alarm stops the timer, which only a crossing starts. -/
theorem crossing_pays (cfg : Kconfig) {s : System} (h : GateReady s.dev.slider) {e : Event}
    (he : s.AlarmWhileRunning e) :
    (if e.isTimerAlarm then 1 else 0) +
        (if (s.step cfg e).dev.slider.timerHandle.running then 1 else 0) ≤
      (if e.isZeroCross then 1 else 0) + if s.dev.slider.timerHandle.running then 1 else 0 := by
  rw [(gateStep cfg h e).running_eq]
  by_cases hz : e = .signal .zeroCross
  · subst hz
    simp [Event.isZeroCross, Event.isTimerAlarm]
  · by_cases ha : e = .signal .timerAlarm
    · subst ha
      have hr : s.dev.slider.timerHandle.running = true := he
      simp [Event.isZeroCross, Event.isTimerAlarm, hr]
    · have hz' : e.isZeroCross = false := Bool.eq_false_iff.mpr (mt e.isZeroCross_iff.mp hz)
      have ha' : e.isTimerAlarm = false := Bool.eq_false_iff.mpr (mt e.isTimerAlarm_iff.mp ha)
      simp [hz', ha']

theorem gateReady_run (cfg : Kconfig) {s : System} (h : GateReady s.dev.slider)
    (es : List Event) : GateReady (run (System.step cfg) s es).dev.slider :=
  run_invariant (System.step cfg) (fun s => GateReady s.dev.slider)
    (fun _ e h => (gateStep cfg h e).ready) h es

/-- The pulses are the alarms, and each alarm uses up a crossing. -/
theorem pulses_run (cfg : Kconfig) {s : System} (h : GateReady s.dev.slider) {es : List Event}
    (hes : Along (System.step cfg) AlarmWhileRunning s es) :
    let d := (run (System.step cfg) s es).dev.slider
    d.triacPwm.pulses = s.dev.slider.triacPwm.pulses + es.countP Event.isTimerAlarm ∧
      es.countP Event.isTimerAlarm + (if d.timerHandle.running then 1 else 0) ≤
        es.countP Event.isZeroCross + if s.dev.slider.timerHandle.running then 1 else 0 := by
  induction es generalizing s with
  | nil => exact ⟨rfl, le_rfl⟩
  | cons e es ih =>
      obtain ⟨he, hes⟩ := hes
      have hstep := gateStep cfg h e
      have hpay := crossing_pays cfg h he
      obtain ⟨hpulses, hcount⟩ := ih hstep.ready hes
      rw [run_cons, List.countP_cons, List.countP_cons]
      refine ⟨?_, by omega⟩
      rw [hpulses, hstep.pulses_eq]
      omega

/-- However the tasks, the remote writes and the interrupts interleave after power-up: the gate
is high between any two steps, `is_running` tells whether the timer counts, each alarm gives
one pulse of the gate and nothing else gives any, and in every stretch of the run there are at
most as many pulses as crossings, and one more where the timer was counting at its start. -/
theorem pulses_follow_crossings (cfg : Kconfig) (leds : LedDriver) (attrs : AttrPath → AttrVal)
    {pre es : List Event}
    (hes : Along (System.step cfg) AlarmWhileRunning (boot leds attrs) (pre ++ es)) :
    let d := (run (System.step cfg) (boot leds attrs) pre).dev.slider
    let d' := (run (System.step cfg) (boot leds attrs) (pre ++ es)).dev.slider
    d'.triacPwm.level = true ∧ d'.isRunning = d'.timerHandle.running ∧
      d'.triacPwm.pulses = d.triacPwm.pulses + es.countP Event.isTimerAlarm ∧
      d'.triacPwm.pulses ≤ d.triacPwm.pulses + es.countP Event.isZeroCross +
        if d.timerHandle.running then 1 else 0 := by
  intro d d'
  have hboot : GateReady (boot leds attrs).dev.slider := ⟨⟨rfl, rfl, rfl, rfl, rfl⟩, rfl, rfl⟩
  have hd : GateReady d := gateReady_run cfg hboot pre
  have hd' : GateReady d' := gateReady_run cfg hboot (pre ++ es)
  obtain ⟨hpulses, hcount⟩ := pulses_run cfg hd ((along_append _ _ _ _ _).mp hes).2
  rw [← run_append] at hpulses hcount
  refine ⟨hd'.gate_high, hd'.isRunning_eq, hpulses, ?_⟩
  have hd'p : d'.triacPwm.pulses = d.triacPwm.pulses + es.countP Event.isTimerAlarm := hpulses
  have hle : es.countP Event.isTimerAlarm ≤
      es.countP Event.isZeroCross + if d.timerHandle.running then 1 else 0 :=
    (Nat.le_add_right _ _).trans hcount
  omega

/-- Two half-cycles of the mains, with a command and the start of an iteration among them. -/
theorem pulses_follow_two_crossings :
    let pre : List Event := [.appMain, .signal .zeroCross]
    let es : List Event := [.signal (.matterWrite (onOffPath 1) ⟨1, 1⟩), .signal .timerAlarm,
      .sliderTask ⟨false, 0, 0⟩, .signal .zeroCross, .signal .timerAlarm]
    let d := (run (System.step .noFade) (boot ⟨fun _ => 0, fun _ => false⟩ fun _ => ⟨0, 0⟩)
      pre).dev.slider
    let d' := (run (System.step .noFade) (boot ⟨fun _ => 0, fun _ => false⟩ fun _ => ⟨0, 0⟩)
      (pre ++ es)).dev.slider
    d'.triacPwm.level = true ∧ d'.isRunning = d'.timerHandle.running ∧
      d'.triacPwm.pulses = d.triacPwm.pulses + es.countP Event.isTimerAlarm ∧
      d'.triacPwm.pulses ≤ d.triacPwm.pulses + es.countP Event.isZeroCross +
        if d.timerHandle.running then 1 else 0 :=
  pulses_follow_crossings .noFade _ _ (by decide)

end System

end MatterSwitch
