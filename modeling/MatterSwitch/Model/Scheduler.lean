import MatterSwitch.Model.IODriver

/-! # Who runs when

At the coarse grain the device takes complete commands. At the fine grain `sliderTask` and
`app_driver_set_default` advance one statement at a time, and remote writes and interrupts
fall between any two statements. -/

namespace MatterSwitch

/-! ## Complete steps -/

/-- What reaches the device from outside, each taken as one step at either grain. -/
inductive Signal where
  | matterWrite (path : AttrPath) (val : AttrVal)
  | buttonEdge (tickNow : UInt32)
  | zeroCross
  | timerAlarm
  deriving DecidableEq, Repr

def Device.signal (cfg : Kconfig) (d : Device) : Signal → Device
  | .matterWrite path val => d.attributeUpdate cfg path val
  | .buttonEdge tickNow => d.buttonCb tickNow
  | .zeroCross => { d with slider := d.slider.gpioIsrHandler }
  | .timerAlarm => { d with slider := d.slider.onTimerAlarmCb cfg }

inductive Command where
  | signal (e : Signal)
  | sliderTask (inp : TaskInput)
  deriving DecidableEq, Repr

def Device.command (cfg : Kconfig) (d : Device) : Command → Device
  | .signal e => d.signal cfg e
  | .sliderTask inp => d.sliderTask cfg inp

/-- A step of a run from power-up, where `app_driver_set_default(1)` may still come. -/
inductive BootStep where
  | command (c : Command)
  | setDefault
  deriving DecidableEq, Repr

def Device.bootStep (cfg : Kconfig) (d : Device) : BootStep → Device
  | .command c => d.command cfg c
  | .setDefault => (d.appDriverSetDefault cfg 1).1

/-! ## Statements -/

/-- The next statement of `sliderTask`, with the locals that are live there. -/
inductive SliderPc where
  | testPressed
  | chooseValue
  | updateOnOff (attrVal : AttrVal)
  | invertState
  | clearPressed
  | testTouches
  | readTick
  | testTick (tickNow : UInt32)
  | stampTick (tickNow : UInt32)
  | updateTouchStatus
  | readLevel
  | testLevel
  | chooseLevel
  | updateLevel (attrVal : AttrVal)
  | saveLevel (attrVal : AttrVal)
  | testState (attrVal : AttrVal)
  | chooseOn (attrVal : AttrVal)
  | updateOn (attrVal : AttrVal)
  | invertOn
  | setFrontLed
  | setLevelLed
  | delay
  deriving DecidableEq, Repr

/-- Executing one statement of `sliderTask`; a statement that reads the sensor or the tick
count finds the value in `inp`. -/
def Device.sliderStmt (cfg : Kconfig) (inp : TaskInput) (d : Device) :
    SliderPc → Device × SliderPc
  | .testPressed => (d, if d.isPressed then .chooseValue else .testTouches)
  | .chooseValue =>
      let attrVal : AttrVal := { type := 0, u8 := 0 }
      let attrVal := if !d.oldState then attrVal.setB true else attrVal.setB false
      (d, .updateOnOff { attrVal with type := 1 })
  | .updateOnOff attrVal => (d.attributeUpdate cfg (onOffPath 1) attrVal, .invertState)
  | .invertState => ({ d with oldState := !d.oldState }, .clearPressed)
  | .clearPressed => ({ d with isPressed := false }, .testTouches)
  | .testTouches => (d, if inp.newTouches then .readTick else .setFrontLed)
  | .readTick => (d, .testTick inp.tickNow)
  | .testTick tickNow =>
      (d, if tickNow - d.oldTickTouch > Device.debounceTimeTouch then .stampTick tickNow
        else .setFrontLed)
  | .stampTick tickNow => ({ d with oldTickTouch := tickNow }, .updateTouchStatus)
  | .updateTouchStatus => (d, .readLevel)
  | .readLevel =>
      let (slider, level) := d.slider.getLevel inp.touches 254
      ({ d with slider := slider, level := level }, .testLevel)
  | .testLevel => (d, if d.level.toUInt16 ≠ d.oldLevel then .chooseLevel else .setFrontLed)
  | .chooseLevel => (d, .updateLevel { type := 2, u8 := d.level })
  | .updateLevel attrVal =>
      (d.attributeUpdate cfg (currentLevelPath 1) attrVal, .saveLevel attrVal)
  | .saveLevel attrVal => ({ d with oldLevel := d.level.toUInt16 }, .testState attrVal)
  | .testState attrVal => (d, if !d.oldState then .chooseOn attrVal else .setFrontLed)
  | .chooseOn attrVal => (d, .updateOn (attrVal.setB true))
  | .updateOn attrVal => (d.attributeUpdate cfg (onOffPath 1) attrVal, .invertOn)
  | .invertOn => ({ d with oldState := !d.oldState }, .setFrontLed)
  | .setFrontLed =>
      ({ d with slider := d.slider.ledCalls (SliderDriver.setFrontLed d.oldState) },
        .setLevelLed)
  | .setLevelLed =>
      ({ d with slider := d.slider.ledCalls (SliderDriver.setLevelLed d.shownLevel) },
        .delay)
  | .delay => (d, .testPressed)

/-- The next statement of `app_driver_set_default(1)`, with its local. -/
inductive MainPc where
  | loadLevel
  | updateLevel (val : AttrVal)
  | applyBrightness (val : AttrVal)
  | loadPower
  | updatePower (val : AttrVal)
  | applyPower (val : AttrVal)
  | returned
  deriving DecidableEq, Repr

def Device.mainStmt (cfg : Kconfig) (d : Device) : MainPc → Device × MainPc
  | .loadLevel =>
      (d, .updateLevel
        { d.matter.attrs (currentLevelPath 1) with u8 := Device.defaultBrightness })
  | .updateLevel val =>
      (d.attributeUpdate cfg (currentLevelPath 1) val, .applyBrightness val)
  | .applyBrightness val => ((d.appDriverLightSetBrightness cfg val).1, .loadPower)
  | .loadPower =>
      (d, .updatePower ((d.matter.attrs (onOffPath 1)).setB Device.defaultPower))
  | .updatePower val => (d.attributeUpdate cfg (onOffPath 1) val, .applyPower val)
  | .applyPower val => ((d.appDriverLightSetPower cfg val).1, .returned)
  | .returned => (d, .returned)

/-- The device with the positions of its two tasks. -/
structure System where
  dev : Device
  task : SliderPc
  main : MainPc

inductive Event where
  | signal (e : Signal)
  | sliderTask (inp : TaskInput)
  | appMain
  deriving DecidableEq, Repr

namespace System

/-- Right after `app_driver_start_sensor`: `sliderTask` exists and `app_main` is about to
enter `app_driver_set_default(1)`. -/
def boot (leds : LedDriver) (attrs : AttrPath → AttrVal) : System :=
  { dev := Device.boot leds attrs, task := .testPressed, main := .loadLevel }

def step (cfg : Kconfig) (s : System) : Event → System
  | .signal e => { s with dev := s.dev.signal cfg e }
  | .sliderTask inp =>
      let (dev, task) := s.dev.sliderStmt cfg inp s.task
      { s with dev := dev, task := task }
  | .appMain =>
      let (dev, main) := s.dev.mainStmt cfg s.main
      { s with dev := dev, main := main }

end System

end MatterSwitch
