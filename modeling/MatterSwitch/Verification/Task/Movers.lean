import MatterSwitch.Transition.Loop
import MatterSwitch.Verification.Device.Equations
import MatterSwitch.Verification.Slider.Calls

/-! # Which statements a signal commutes with

An interrupt of the triac touches the gate and the counter, which no statement reads. An edge
of the button touches `is_pressed` and its tick. A remote write touches the light, and so does
not commute with the statements that write or read it. -/

namespace MatterSwitch

open SliderDriver Transition

namespace SliderDriver

/-! ## Interrupts of the triac -/

/-- A handler that changes the gate, the timer and its flag, each by itself. -/
structure Interrupt where
  gate : GatePin → GatePin
  timer : GpTimer → GpTimer
  isRunning : Bool
  setAlarmAction : ∀ config t,
    ((timer t).setAlarmAction config).1 = timer (t.setAlarmAction config).1

def Interrupt.apply (r : Interrupt) (d : SliderDriver) : SliderDriver :=
  { d with
    triacPwm := r.gate d.triacPwm
    timerHandle := r.timer d.timerHandle
    isRunning := r.isRunning }

def zeroCrossInterrupt : Interrupt where
  gate := GatePin.setLevel true
  timer t := t.start.1
  isRunning := true
  setAlarmAction config t := by
    simp only [GpTimer.start, GpTimer.setAlarmAction]
    split <;> split <;> rfl

/-- The alarm with no fade under way. -/
def alarmInterrupt : Interrupt where
  gate p := (holdGateLow 63 p).setLevel true
  timer t := (t.stop.1.setRawCount 0).1
  isRunning := false
  setAlarmAction config t := by
    simp only [GpTimer.stop, GpTimer.setAlarmAction, GpTimer.setRawCount]
    split <;> split <;> rfl

theorem gpioIsrHandler_eq (d : SliderDriver) : d.gpioIsrHandler = zeroCrossInterrupt.apply d :=
  rfl

theorem onTimerAlarmCb_eq (cfg : Kconfig) {d : SliderDriver} (h : d.startFade = false) :
    d.onTimerAlarmCb cfg = alarmInterrupt.apply d :=
  onTimerAlarmCb_of_not_fading cfg h

variable (cfg : Kconfig) (r : Interrupt) (d : SliderDriver)

theorem setBrightness_interrupt (brightness : UInt8) :
    ((r.apply d).setBrightness cfg brightness).1 = r.apply (d.setBrightness cfg brightness).1 := by
  rw [setBrightness_eq, setBrightness_eq]
  rfl

theorem commitInterval_interrupt : (r.apply d).commitInterval = r.apply d.commitInterval := by
  simp only [commitInterval, Interrupt.apply, r.setAlarmAction]

theorem setPower_interrupt (power : Bool) :
    ((r.apply d).setPower cfg power).1 = r.apply (d.setPower cfg power).1 := by
  cases power with
  | true => exact commitInterval_interrupt r { d with mIsOn := true }
  | false =>
      have hb := setBrightness_interrupt cfg r { d with mIsOn := false } 0
      rw [setPower_false, setPower_false, ← commitInterval_interrupt, ← hb]
      rfl

end SliderDriver

namespace Device

/-- An interrupt as a signal to the device. -/
def interrupt (r : Interrupt) (d : Device) : Device := { d with slider := r.apply d.slider }

theorem attributeUpdate_interrupt (cfg : Kconfig) (path : AttrPath) (val : AttrVal)
    (r : Interrupt) (d : Device) :
    (d.interrupt r).attributeUpdate cfg path val =
      (d.attributeUpdate cfg path val).interrupt r := by
  by_cases ho : path = onOffPath 1
  · rw [ho, attributeUpdate_onOff, attributeUpdate_onOff, interrupt, setPower_interrupt]
    rfl
  · by_cases hc : path = currentLevelPath 1
    · rw [hc, attributeUpdate_currentLevel, attributeUpdate_currentLevel, interrupt,
        setBrightness_interrupt]
      rfl
    · rw [attributeUpdate_other cfg val _ ho hc, attributeUpdate_other cfg val _ ho hc]
      rfl

/-- No statement sees an interrupt. -/
theorem sliderStmt_interrupt (cfg : Kconfig) (inp : TaskInput) (r : Interrupt) (d : Device)
    (pc : SliderPc) :
    (d.interrupt r).sliderStmt cfg inp pc =
      ((d.sliderStmt cfg inp pc).1.interrupt r, (d.sliderStmt cfg inp pc).2) := by
  cases pc with
  | updateOnOff attrVal =>
      exact Prod.ext (attributeUpdate_interrupt cfg (onOffPath 1) attrVal r d) rfl
  | updateLevel attrVal =>
      exact Prod.ext (attributeUpdate_interrupt cfg (currentLevelPath 1) attrVal r d) rfl
  | updateOn attrVal =>
      exact Prod.ext (attributeUpdate_interrupt cfg (onOffPath 1) attrVal r d) rfl
  | readLevel =>
      simp only [sliderStmt, getLevel_eq]
      rfl
  | _ => rfl

/-! ## Edges of the button -/

/-- The flag and the tick that an edge sets. -/
def latched (isPressed : Bool) (tickNow : UInt32) (d : Device) : Device :=
  { d with isPressed := isPressed, oldTickBtn := tickNow }

theorem buttonCb_eq (tickNow : UInt32) (d : Device) :
    d.buttonCb tickNow =
      d.latched (if tickNow - d.oldTickBtn > debounceTime then true else d.isPressed) tickNow := by
  by_cases h : tickNow - d.oldTickBtn > debounceTime
  · rw [buttonCb, if_pos h, if_pos h]
    rfl
  · rw [buttonCb, if_neg h, if_neg h]
    rfl

theorem buttonCb_interrupt (tickNow : UInt32) (r : Interrupt) (d : Device) :
    (d.interrupt r).buttonCb tickNow = (d.buttonCb tickNow).interrupt r := by
  rw [buttonCb_eq, buttonCb_eq]
  rfl

theorem attributeUpdate_latched (cfg : Kconfig) (path : AttrPath) (val : AttrVal)
    (isPressed : Bool) (tickNow : UInt32) (d : Device) :
    (d.latched isPressed tickNow).attributeUpdate cfg path val =
      (d.attributeUpdate cfg path val).latched isPressed tickNow := by
  by_cases ho : path = onOffPath 1
  · rw [ho]
    rfl
  · by_cases hc : path = currentLevelPath 1
    · rw [hc]
      rfl
    · rw [attributeUpdate_other cfg val _ ho hc, attributeUpdate_other cfg val _ ho hc]
      rfl

theorem attributeUpdate_buttonCb (cfg : Kconfig) (path : AttrPath) (val : AttrVal)
    (tickNow : UInt32) (d : Device) :
    (d.buttonCb tickNow).attributeUpdate cfg path val =
      (d.attributeUpdate cfg path val).buttonCb tickNow := by
  obtain ⟨-, hp, -, -, hb, -⟩ := attributeUpdate_recorded cfg path val d
  rw [buttonCb_eq, buttonCb_eq, hp, hb, attributeUpdate_latched]

/-- Two statements only see the flag. -/
theorem sliderStmt_latched (cfg : Kconfig) (inp : TaskInput) (isPressed : Bool)
    (tickNow : UInt32) (d : Device) {pc : SliderPc} (ht : pc ≠ .testPressed)
    (hc : pc ≠ .clearPressed) :
    (d.latched isPressed tickNow).sliderStmt cfg inp pc =
      ((d.sliderStmt cfg inp pc).1.latched isPressed tickNow, (d.sliderStmt cfg inp pc).2) := by
  cases pc with
  | testPressed => exact absurd rfl ht
  | clearPressed => exact absurd rfl hc
  | updateOnOff attrVal =>
      exact Prod.ext (attributeUpdate_latched cfg (onOffPath 1) attrVal isPressed tickNow d) rfl
  | updateLevel attrVal =>
      exact Prod.ext
        (attributeUpdate_latched cfg (currentLevelPath 1) attrVal isPressed tickNow d) rfl
  | updateOn attrVal =>
      exact Prod.ext (attributeUpdate_latched cfg (onOffPath 1) attrVal isPressed tickNow d) rfl
  | readLevel =>
      simp only [sliderStmt, getLevel_eq]
      rfl
  | _ => rfl

/-- An edge commutes with every statement but the clearing of the flag, and with its test where
that finds a press. -/
theorem sliderStmt_buttonCb (cfg : Kconfig) (inp : TaskInput) (tickNow : UInt32) (d : Device)
    {pc : SliderPc} (ht : pc = .testPressed → d.isPressed = true) (hc : pc ≠ .clearPressed) :
    (d.buttonCb tickNow).sliderStmt cfg inp pc =
      ((d.sliderStmt cfg inp pc).1.buttonCb tickNow, (d.sliderStmt cfg inp pc).2) := by
  by_cases hpc : pc = .testPressed
  · subst hpc
    have hp := ht rfl
    rw [buttonCb_eq, hp, ite_self]
    simp [sliderStmt, latched, hp, buttonCb_eq]
  · -- the statement keeps the flag and the tick, as it keeps any values of theirs
    have hkeep : (d.sliderStmt cfg inp pc).1 =
        (d.sliderStmt cfg inp pc).1.latched d.isPressed d.oldTickBtn :=
      congrArg Prod.fst (sliderStmt_latched cfg inp d.isPressed d.oldTickBtn d hpc hc)
    have hp : (d.sliderStmt cfg inp pc).1.isPressed = d.isPressed :=
      (congrArg Device.isPressed hkeep).trans rfl
    have hb : (d.sliderStmt cfg inp pc).1.oldTickBtn = d.oldTickBtn :=
      (congrArg Device.oldTickBtn hkeep).trans rfl
    rw [buttonCb_eq, buttonCb_eq, hp, hb, sliderStmt_latched cfg inp _ _ d hpc hc]

end Device

/-! ## Remote writes -/

/-- The statements that write or read what a remote write may change. -/
def SliderPc.touchesLight : SliderPc → Bool
  | .updateOnOff _ => true
  | .readLevel => true
  | .testLevel => true
  | .updateLevel _ => true
  | .saveLevel _ => true
  | .updateOn _ => true
  | .setLevelLed => true
  | _ => false

namespace Device

theorem setPower_ledCalls (cfg : Kconfig) (power : Bool) (cs : List LedCall) (d : SliderDriver) :
    ((d.ledCalls cs).setPower cfg power).1 = (d.setPower cfg power).1.ledCalls cs := by
  cases power with
  | true => rfl
  | false =>
      rw [SliderDriver.setPower_false, SliderDriver.setPower_false, setBrightness_eq,
        setBrightness_eq]
      rfl

theorem setBrightness_ledCalls (cfg : Kconfig) (brightness : UInt8) (cs : List LedCall)
    (d : SliderDriver) :
    ((d.ledCalls cs).setBrightness cfg brightness).1 =
      (d.setBrightness cfg brightness).1.ledCalls cs := by
  rw [setBrightness_eq, setBrightness_eq]
  rfl

theorem attributeUpdate_ledCalls (cfg : Kconfig) (path : AttrPath) (val : AttrVal)
    (cs : List LedCall) (d : Device) :
    ({ d with slider := d.slider.ledCalls cs } : Device).attributeUpdate cfg path val =
      { d.attributeUpdate cfg path val with
        slider := (d.attributeUpdate cfg path val).slider.ledCalls cs } := by
  by_cases ho : path = onOffPath 1
  · rw [ho, attributeUpdate_onOff, attributeUpdate_onOff, setPower_ledCalls]
  · by_cases hc : path = currentLevelPath 1
    · rw [hc, attributeUpdate_currentLevel, attributeUpdate_currentLevel,
        setBrightness_ledCalls]
    · rw [attributeUpdate_other cfg val _ ho hc, attributeUpdate_other cfg val _ ho hc]

/-- A write commutes with the statements that do not touch the light. -/
theorem sliderStmt_attributeUpdate (cfg : Kconfig) (inp : TaskInput) (path : AttrPath)
    (val : AttrVal) (d : Device) {pc : SliderPc} (h : pc.touchesLight = false) :
    (d.attributeUpdate cfg path val).sliderStmt cfg inp pc =
      ((d.sliderStmt cfg inp pc).1.attributeUpdate cfg path val,
        (d.sliderStmt cfg inp pc).2) := by
  cases pc with
  | updateOnOff attrVal => exact Bool.noConfusion h
  | readLevel => exact Bool.noConfusion h
  | testLevel => exact Bool.noConfusion h
  | updateLevel attrVal => exact Bool.noConfusion h
  | saveLevel attrVal => exact Bool.noConfusion h
  | updateOn attrVal => exact Bool.noConfusion h
  | setLevelLed => exact Bool.noConfusion h
  | setFrontLed =>
      have hs := (attributeUpdate_recorded cfg path val d).oldState
      simp only [sliderStmt, attributeUpdate_ledCalls, hs]
  | _ =>
      by_cases ho : path = onOffPath 1
      · rw [ho]
        rfl
      · by_cases hc : path = currentLevelPath 1
        · rw [hc]
          rfl
        · simp only [sliderStmt, attributeUpdate_other cfg val _ ho hc]

end Device

end MatterSwitch
