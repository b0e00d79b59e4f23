import MatterSwitch.Verification.Light.Refinement

/-! # The controller inside the device

What the firmware decides by, and nothing else: the light, the saved level, the globals of
the button and of the slider and the positions of the two tasks. The gate, the timer that
counts, the LED registers and every other attribute are left out, so that the machine runs
on its own state alone. -/

namespace MatterSwitch

open SliderDriver Transition

/-- `saved` is `m_previous_level`. The values held by `app_driver_set_default` are kept
without their type byte, which comes from the attribute store. -/
@[ext] structure Controller where
  light : Light
  saved : UInt8
  isPressed : Bool
  oldState : Bool
  level : UInt8
  oldTickBtn : UInt32
  oldTickTouch : UInt32
  task : SliderPc
  main : MainPc

namespace Controller

/-- `set_brightness` saves the level it replaces, and `set_power(false)` calls it. -/
def dim (cfg : Kconfig) (o : LightEvent) (c : Controller) : Controller :=
  { c with light := c.light.step cfg o, saved := c.light.level }

def power (cfg : Kconfig) (b : Bool) (o : LightEvent) (c : Controller) : Controller :=
  { c with light := c.light.step cfg o, saved := if b then c.saved else c.light.level }

def write (cfg : Kconfig) (path : AttrPath) (val : AttrVal) (c : Controller) : Controller :=
  if path = onOffPath 1 then c.power cfg val.b (.power val.b)
  else if path = currentLevelPath 1 then c.dim cfg (.dim val.u8)
  else c

def signal (cfg : Kconfig) (c : Controller) : Signal → Controller
  | .matterWrite path val => c.write cfg path val
  | .buttonEdge tickNow =>
      { c with
        isPressed := if tickNow - c.oldTickBtn > Device.debounceTime then true else c.isPressed
        oldTickBtn := tickNow }
  | .zeroCross => c
  | .timerAlarm => c

def sliderTask (cfg : Kconfig) (inp : TaskInput) (c : Controller) : Controller :=
  match c.task with
  | .testPressed => { c with task := if c.isPressed then .chooseValue else .testTouches }
  | .chooseValue => { c with task := .updateOnOff (Device.pressVal c.oldState) }
  | .updateOnOff attrVal => { c.write cfg (onOffPath 1) attrVal with task := .invertState }
  | .invertState => { c with oldState := !c.oldState, task := .clearPressed }
  | .clearPressed => { c with isPressed := false, task := .testTouches }
  | .testTouches => { c with task := if inp.newTouches then .readTick else .setFrontLed }
  | .readTick => { c with task := .testTick inp.tickNow }
  | .testTick tickNow =>
      { c with task :=
        if tickNow - c.oldTickTouch > Device.debounceTimeTouch then .stampTick tickNow
        else .setFrontLed }
  | .stampTick tickNow => { c with oldTickTouch := tickNow, task := .updateTouchStatus }
  | .updateTouchStatus => { c with task := .readLevel }
  | .readLevel =>
      { c with
        saved := Device.touchValue c.saved inp.touches
        level := Device.touchValue c.saved inp.touches
        task := .testLevel }
  | .testLevel =>
      { c with task :=
        if c.level.toUInt16 ≠ c.light.oldLevel then .chooseLevel else .setFrontLed }
  | .chooseLevel => { c with task := .updateLevel (Device.levelVal c.level) }
  | .updateLevel attrVal =>
      { c.write cfg (currentLevelPath 1) attrVal with task := .saveLevel attrVal }
  | .saveLevel attrVal =>
      { c with light := c.light.step cfg (.remember c.level), task := .testState attrVal }
  | .testState attrVal =>
      { c with task := if !c.oldState then .chooseOn attrVal else .setFrontLed }
  | .chooseOn attrVal => { c with task := .updateOn (attrVal.setB true) }
  | .updateOn attrVal => { c.write cfg (onOffPath 1) attrVal with task := .invertOn }
  | .invertOn => { c with oldState := !c.oldState, task := .setFrontLed }
  | .setFrontLed => { c with task := .setLevelLed }
  | .setLevelLed => { c with task := .delay }
  | .delay => { c with task := .testPressed }

def appMain (cfg : Kconfig) (c : Controller) : Controller :=
  match c.main with
  | .loadLevel => { c with main := .updateLevel ⟨0, Device.defaultBrightness⟩ }
  | .updateLevel val =>
      { c.write cfg (currentLevelPath 1) val with main := .applyBrightness val }
  | .applyBrightness val => { c.dim cfg (.applyBrightness val.u8) with main := .loadPower }
  | .loadPower => { c with main := .updatePower (AttrVal.setB Device.defaultPower ⟨0, 0⟩) }
  | .updatePower val => { c.write cfg (onOffPath 1) val with main := .applyPower val }
  | .applyPower val => { c.power cfg val.b (.applyPower val.b) with main := .returned }
  | .returned => c

def step (cfg : Kconfig) (c : Controller) : Event → Controller
  | .signal e => c.signal cfg e
  | .sliderTask inp => c.sliderTask cfg inp
  | .appMain => c.appMain cfg

end Controller

/-- The position of `app_driver_set_default` without the type byte of its local. -/
def MainPc.untyped : MainPc → MainPc
  | .updateLevel val => .updateLevel ⟨0, val.u8⟩
  | .applyBrightness val => .applyBrightness ⟨0, val.u8⟩
  | .updatePower val => .updatePower ⟨0, val.u8⟩
  | .applyPower val => .applyPower ⟨0, val.u8⟩
  | pc => pc

namespace System

def controller (s : System) : Controller :=
  { light := s.dev.light
    saved := s.dev.slider.mPreviousLevel
    isPressed := s.dev.isPressed
    oldState := s.dev.oldState
    level := s.dev.level
    oldTickBtn := s.dev.oldTickBtn
    oldTickTouch := s.dev.oldTickTouch
    task := s.task
    main := s.main.untyped }

end System

/-! ## The device refines its controller -/

namespace Device

/-- The light of the static initializers, with the alarm that the constructor sets. -/
def bootLight (onOff : Bool) (currentLevel : UInt8) : Light :=
  { relay := false
    isOn := false
    onOff := onOff
    currentLevel := currentLevel
    oldLevel := 0
    level := 0
    interval := 0
    handed := 4166 }

theorem light_boot (leds : LedDriver) (attrs : AttrPath → AttrVal) :
    (boot leds attrs).light =
      bootLight (attrs (onOffPath 1)).b (attrs (currentLevelPath 1)).u8 := rfl

/-- The level that `set_power` leaves saved. -/
theorem setPower_mPreviousLevel (cfg : Kconfig) (b : Bool) (d : SliderDriver) :
    (d.setPower cfg b).1.mPreviousLevel = if b then d.mPreviousLevel else d.mLevel := by
  cases b with
  | true => rfl
  | false =>
      rw [SliderDriver.setPower_false, setBrightness_eq]
      rfl

theorem appDriverLightSetBrightness_mPreviousLevel (cfg : Kconfig) (val : AttrVal)
    (d : Device) :
    (d.appDriverLightSetBrightness cfg val).1.slider.mPreviousLevel = d.slider.mLevel := by
  rw [appDriverLightSetBrightness, setBrightness_eq]

end Device

namespace System

/-- Only the type byte of the local is forgotten, which no statement reads. -/
theorem controller_write (cfg : Kconfig) (path : AttrPath) (val : AttrVal) (d : Device)
    (task : SliderPc) (main : MainPc) :
    controller ⟨d.attributeUpdate cfg path val, task, main⟩ =
      (controller ⟨d, task, main⟩).write cfg path val := by
  have hl := Device.light_attributeUpdate cfg path val d
  obtain ⟨-, hp, hs, hv, hb, ht⟩ := Device.attributeUpdate_recorded cfg path val d
  by_cases ho : path = onOffPath 1
  · subst ho
    have hm : (d.attributeUpdate cfg (onOffPath 1) val).slider.mPreviousLevel =
        if val.b then d.slider.mPreviousLevel else d.slider.mLevel :=
      Device.setPower_mPreviousLevel cfg val.b d.slider
    simp only [controller, hl, hm, hp, hs, hv, hb, ht]
    rfl
  · by_cases hc : path = currentLevelPath 1
    · subst hc
      have hm : (d.attributeUpdate cfg (currentLevelPath 1) val).slider.mPreviousLevel =
          d.slider.mLevel := by
        rw [Device.attributeUpdate_currentLevel, setBrightness_eq]
      simp only [controller, hl, hm, hp, hs, hv, hb, ht]
      rfl
    · have hm : (d.attributeUpdate cfg path val).slider.mPreviousLevel =
          d.slider.mPreviousLevel := by
        rw [Device.attributeUpdate_other cfg val d ho hc]
      rw [Device.writeEvents, if_neg ho, if_neg hc] at hl
      simp only [controller, hl, hm, hp, hs, hv, hb, ht, Controller.write, if_neg ho, if_neg hc,
        run_nil]

theorem controller_signal (cfg : Kconfig) (s : System) (e : Signal) :
    (s.step cfg (.signal e)).controller = s.controller.signal cfg e := by
  cases e with
  | matterWrite path val => exact controller_write cfg path val s.dev s.task s.main
  | buttonEdge tickNow =>
      by_cases h : tickNow - s.dev.oldTickBtn > Device.debounceTime
      · simp only [step, Device.signal, Device.buttonCb, Controller.signal, controller, h, if_true]
        rfl
      · simp only [step, Device.signal, Device.buttonCb, Controller.signal, controller, h, if_false]
        rfl
  | zeroCross =>
      have hf := gpioIsrHandler_frame s.dev.slider
      simp only [step, Device.signal, controller, Device.light_of_frame hf, hf.mPreviousLevel]
      rfl
  | timerAlarm =>
      have hf := onTimerAlarmCb_frame cfg s.dev.slider
      simp only [step, Device.signal, controller, Device.light_of_frame hf, hf.mPreviousLevel]
      rfl

theorem controller_sliderTask (cfg : Kconfig) (inp : TaskInput) (s : System) :
    (s.step cfg (.sliderTask inp)).controller = s.controller.sliderTask cfg inp := by
  obtain ⟨d, task, main⟩ := s
  cases task with
  | chooseValue =>
      cases hs : d.oldState <;>
        simp [step, Device.sliderStmt, controller, Controller.sliderTask, Device.pressVal, hs]
  | updateOnOff attrVal => exact controller_write cfg (onOffPath 1) attrVal d .invertState main
  | readLevel =>
      simp only [step, Device.sliderStmt, Device.getLevel_eq]
      rfl
  | updateLevel attrVal =>
      exact controller_write cfg (currentLevelPath 1) attrVal d (.saveLevel attrVal) main
  | saveLevel attrVal => rfl
  | updateOn attrVal => exact controller_write cfg (onOffPath 1) attrVal d .invertOn main
  | _ => rfl

theorem controller_appMain (cfg : Kconfig) (s : System) :
    (s.step cfg .appMain).controller = s.controller.appMain cfg := by
  obtain ⟨d, task, main⟩ := s
  cases main with
  | loadLevel => rfl
  | updateLevel val =>
      exact controller_write cfg (currentLevelPath 1) val d task (.applyBrightness val)
  | applyBrightness val =>
      have hl := Device.light_appDriverLightSetBrightness cfg val d
      have hm := Device.appDriverLightSetBrightness_mPreviousLevel cfg val d
      simp only [step, Device.mainStmt, controller, hl, hm]
      rfl
  | loadPower => rfl
  | updatePower val => exact controller_write cfg (onOffPath 1) val d task (.applyPower val)
  | applyPower val =>
      have hl := Device.light_appDriverLightSetPower cfg val d
      have hm : (d.appDriverLightSetPower cfg val).1.slider.mPreviousLevel = _ :=
        Device.setPower_mPreviousLevel cfg val.b d.slider
      simp only [step, Device.mainStmt, controller, hl, hm]
      rfl
  | returned => rfl

/-- Of the store, power-up keeps the two attributes of the light. -/
theorem controller_boot (leds : LedDriver) (attrs : AttrPath → AttrVal) :
    (boot leds attrs).controller =
      { light := Device.bootLight (attrs (onOffPath 1)).b (attrs (currentLevelPath 1)).u8
        saved := 0
        isPressed := false
        oldState := true
        level := 0
        oldTickBtn := 0
        oldTickTouch := 0
        task := .testPressed
        main := .loadLevel } := by
  simp only [controller, boot, Device.light_boot]
  rfl

/-- The interleaved system runs its controller. -/
theorem controller_step (cfg : Kconfig) (s : System) (e : Event) :
    (s.step cfg e).controller = s.controller.step cfg e := by
  cases e with
  | signal e => exact controller_signal cfg s e
  | sliderTask inp => exact controller_sliderTask cfg inp s
  | appMain => exact controller_appMain cfg s

end System

end MatterSwitch
