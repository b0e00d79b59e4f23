import MatterSwitch.Transition.Run
import MatterSwitch.Verification.Device.Equations

/-! # The light behind the two clusters

An abstract machine that keeps only what the power and level of the light are, with one
event for each way in which the firmware changes them. Both grains of the device refine
it, so that a fact about the light is proved on five events. -/

namespace MatterSwitch

open SliderDriver Transition

/-- The copies of the power and of the level. `handed` is the `alarm_count` last handed to
the timer. -/
@[ext] structure Light where
  relay : Bool
  isOn : Bool
  onOff : Bool
  currentLevel : UInt8
  oldLevel : UInt16
  level : UInt8
  interval : ℤ
  handed : ℕ

/-- `power` and `dim` are attribute writes; `remember`, `applyPower` and `applyBrightness`
are the assignments and direct driver calls that follow an `attribute::update`. -/
inductive LightEvent where
  | power (b : Bool)
  | dim (v : UInt8)
  | remember (v : UInt8)
  | applyPower (b : Bool)
  | applyBrightness (v : UInt8)
  deriving DecidableEq, Repr

namespace Light

/-- `set_brightness` at a driver level. -/
def setLevel (cfg : Kconfig) (level : UInt8) (l : Light) : Light :=
  { l with level := level, interval := brightnessInterval cfg l.level level }

/-- The interval goes to the timer. -/
def commit (l : Light) : Light := { l with handed := (UInt64.ofInt l.interval).toNat }

/-- `set_power`. -/
def setPower (cfg : Kconfig) (b : Bool) (l : Light) : Light :=
  if b then { l with isOn := true }.commit else ({ l with isOn := false }.setLevel cfg 0).commit

def step (cfg : Kconfig) (l : Light) : LightEvent → Light
  | .power b => { l with relay := b, onOff := b }.setPower cfg b
  | .dim v => { l with currentLevel := v, oldLevel := v.toUInt16 }.setLevel cfg (matterLevel v)
  | .remember v => { l with oldLevel := v.toUInt16 }
  | .applyPower b => l.setPower cfg b
  | .applyBrightness v => l.setLevel cfg (matterLevel v)

section Fields

variable (cfg : Kconfig) (level : UInt8) (b : Bool) (l : Light)

@[simp] theorem setLevel_relay : (l.setLevel cfg level).relay = l.relay := rfl
@[simp] theorem setLevel_isOn : (l.setLevel cfg level).isOn = l.isOn := rfl
@[simp] theorem setLevel_onOff : (l.setLevel cfg level).onOff = l.onOff := rfl
@[simp] theorem setLevel_currentLevel :
    (l.setLevel cfg level).currentLevel = l.currentLevel := rfl
@[simp] theorem setLevel_oldLevel : (l.setLevel cfg level).oldLevel = l.oldLevel := rfl
@[simp] theorem setLevel_level : (l.setLevel cfg level).level = level := rfl
@[simp] theorem setLevel_interval :
    (l.setLevel cfg level).interval = brightnessInterval cfg l.level level := rfl
@[simp] theorem setLevel_handed : (l.setLevel cfg level).handed = l.handed := rfl

@[simp] theorem setPower_relay : (l.setPower cfg b).relay = l.relay := by cases b <;> rfl
@[simp] theorem setPower_isOn : (l.setPower cfg b).isOn = b := by cases b <;> rfl
@[simp] theorem setPower_onOff : (l.setPower cfg b).onOff = l.onOff := by cases b <;> rfl
@[simp] theorem setPower_currentLevel :
    (l.setPower cfg b).currentLevel = l.currentLevel := by cases b <;> rfl
@[simp] theorem setPower_oldLevel :
    (l.setPower cfg b).oldLevel = l.oldLevel := by cases b <;> rfl

theorem setPower_level : (l.setPower cfg b).level = if b then l.level else 0 := by
  cases b <;> rfl

theorem setPower_handed :
    (l.setPower cfg b).handed =
      (UInt64.ofInt (if b then l.interval else brightnessInterval cfg l.level 0)).toNat := by
  cases b <;> rfl

end Fields

end Light

/-! ## The light of a device -/

namespace Device

def light (d : Device) : Light :=
  { relay := d.relay
    isOn := d.slider.mIsOn
    onOff := d.onOff
    currentLevel := d.currentLevel
    oldLevel := d.oldLevel
    level := d.slider.mLevel
    interval := d.slider.interval
    handed := d.handedCount }

/-- The light event of an attribute write. -/
def writeEvents (path : AttrPath) (val : AttrVal) : List LightEvent :=
  if path = onOffPath 1 then [.power val.b]
  else if path = currentLevelPath 1 then [.dim val.u8]
  else []

@[simp] theorem writeEvents_onOff (val : AttrVal) :
    writeEvents (onOffPath 1) val = [.power val.b] := rfl

@[simp] theorem writeEvents_currentLevel (val : AttrVal) :
    writeEvents (currentLevelPath 1) val = [.dim val.u8] := rfl

theorem light_setPower (cfg : Kconfig) (b : Bool) (d : Device) :
    ({ d with slider := (d.slider.setPower cfg b).1 } : Device).light =
      d.light.setPower cfg b := by
  cases b with
  | true =>
      rw [SliderDriver.setPower_true]
      simp [light, onOff, currentLevel, handedCount, Light.setPower, Light.commit,
        commitInterval_frame]
  | false =>
      rw [SliderDriver.setPower_false, setBrightness_eq]
      simp [light, onOff, currentLevel, handedCount, Light.setPower, Light.setLevel,
        Light.commit, commitInterval_frame, normLevel]

theorem light_setBrightness (cfg : Kconfig) (v : UInt8) (d : Device) :
    ({ d with slider :=
        (d.slider.setBrightness cfg (UInt8.ofNat (v.toNat * 100 / 254))).1 } :
      Device).light = d.light.setLevel cfg (matterLevel v) := by
  rw [setBrightness_eq]
  rfl

/-- An attribute write acts on the light through its event. -/
theorem light_attributeUpdate (cfg : Kconfig) (path : AttrPath) (val : AttrVal) (d : Device) :
    (d.attributeUpdate cfg path val).light =
      run (Light.step cfg) d.light (writeEvents path val) := by
  by_cases hp : path = onOffPath 1
  · subst hp
    have hs := light_setPower cfg val.b { d with
      relay := val.b
      matter :=
        { attrs := Function.update d.matter.attrs (onOffPath 1) val
          writes := (onOffPath 1, val) :: d.matter.writes } }
    rw [attributeUpdate_onOff, writeEvents_onOff, run_cons, run_nil, Light.step]
    exact hs
  · by_cases hc : path = currentLevelPath 1
    · subst hc
      have hs := light_setBrightness cfg val.u8 { d with
        oldLevel := val.u8.toUInt16
        matter :=
          { attrs := Function.update d.matter.attrs (currentLevelPath 1) val
            writes := (currentLevelPath 1, val) :: d.matter.writes } }
      rw [attributeUpdate_currentLevel, writeEvents_currentLevel, run_cons, run_nil,
        Light.step]
      exact hs
    · rw [attributeUpdate_other cfg val d hp hc, writeEvents, if_neg hp, if_neg hc]
      simp [light, onOff, currentLevel, handedCount, Function.update_of_ne (Ne.symm hp),
        Function.update_of_ne (Ne.symm hc)]

theorem light_appDriverLightSetPower (cfg : Kconfig) (val : AttrVal) (d : Device) :
    (d.appDriverLightSetPower cfg val).1.light = d.light.setPower cfg val.b :=
  light_setPower cfg val.b d

theorem light_appDriverLightSetBrightness (cfg : Kconfig) (val : AttrVal) (d : Device) :
    (d.appDriverLightSetBrightness cfg val).1.light =
      d.light.setLevel cfg (matterLevel val.u8) :=
  light_setBrightness cfg val.u8 d

/-- A slider change that keeps these members does not touch the light. -/
theorem light_of_frame {d : Device} {slider : SliderDriver}
    (h : HandlerFrame d.slider slider) : ({ d with slider := slider } : Device).light = d.light := by
  simp [light, onOff, currentLevel, handedCount, h.mIsOn, h.mLevel, h.interval, h.handed]

/-- The light events of a signal. -/
def signalEvents : Signal → List LightEvent
  | .matterWrite path val => writeEvents path val
  | .buttonEdge _ => []
  | .zeroCross => []
  | .timerAlarm => []

theorem light_buttonCb (tickNow : UInt32) (d : Device) :
    (d.buttonCb tickNow).light = d.light := by
  simp only [buttonCb]
  split <;> rfl

theorem light_signal (cfg : Kconfig) (e : Signal) (d : Device) :
    (d.signal cfg e).light = run (Light.step cfg) d.light (signalEvents e) := by
  cases e with
  | matterWrite path val => exact light_attributeUpdate cfg path val d
  | buttonEdge tickNow => exact light_buttonCb tickNow d
  | zeroCross => exact light_of_frame (gpioIsrHandler_frame d.slider)
  | timerAlarm => exact light_of_frame (onTimerAlarmCb_frame cfg d.slider)

end Device

end MatterSwitch
