import MatterSwitch.Model.Hardware

/-! # The slider driver

`SliderDriver` as compiled, with the peripherals behind its handles. Methods take the
driver last and return the updated driver, paired with the method's result if it has one. -/

namespace MatterSwitch

/-- `MAX_INTERVAL`, the half-period of the mains in microseconds. -/
def maxInterval : ℤ := 8333

/-- `INTENSITY2TIME`, with the truncating division of C. -/
def intensity2Time (x : ℤ) : ℤ := (maxInterval * (100 - x)).tdiv 100

structure SliderDriver where
  mIsOn : Bool
  startFade : Bool
  isRunning : Bool
  mLevel : UInt8
  mPreviousLevel : UInt8
  stepCpt : UInt8
  interval : ℤ
  reminder : ℤ
  alarmConfig : AlarmConfig
  timerHandle : GpTimer
  triacPwm : GatePin
  ledLevelDriver : LedDriver

namespace SliderDriver

/-- The static object after its constructor: `alarm_config` is set and handed to the timer,
the gate pin is high, every other member keeps its initializer or the zero of static
storage. The LED registers are whatever the chip holds. -/
def construct (leds : LedDriver) : SliderDriver :=
  let alarmConfig : AlarmConfig :=
    { alarmCount := UInt64.ofInt (maxInterval.tdiv 2), reloadCount := 0
      autoReloadOnAlarm := true }
  { mIsOn := false
    startFade := false
    isRunning := false
    mLevel := 0
    mPreviousLevel := 0
    stepCpt := 0
    interval := 0
    reminder := 0
    alarmConfig := alarmConfig
    timerHandle :=
      { running := false, rawCount := 0, alarm := alarmConfig, handed := [alarmConfig] }
    triacPwm := { level := true, pulses := 0 }
    ledLevelDriver := leds }

/-! ## Interrupt handlers -/

def restartTimer (d : SliderDriver) : SliderDriver :=
  let d := { d with timerHandle := d.timerHandle.start.1 }
  { d with isRunning := true }

def stopTimer (d : SliderDriver) : SliderDriver :=
  let d := { d with timerHandle := d.timerHandle.stop.1 }
  let d := { d with timerHandle := (d.timerHandle.setRawCount 0).1 }
  { d with isRunning := false }

/-- `alarm_count -= x` for an `int32_t` operand: wrapping in 64 bits. -/
def lowerAlarmCount (x : ℤ) (d : SliderDriver) : SliderDriver :=
  { d with
    alarmConfig :=
      { d.alarmConfig with alarmCount := d.alarmConfig.alarmCount - UInt64.ofInt x } }

/-- The loop that keeps the gate low for `n` writes. -/
def holdGateLow : ℕ → GatePin → GatePin
  | 0, p => p
  | n + 1, p => holdGateLow n (p.setLevel false)

def onTimerAlarmCb (cfg : Kconfig) (d : SliderDriver) : SliderDriver :=
  let d := d.stopTimer
  let d := { d with triacPwm := holdGateLow 63 d.triacPwm }
  let d := { d with triacPwm := d.triacPwm.setLevel true }
  match cfg.fadeTime with
  | none => d
  | some resolution =>
      if d.startFade then
        let d := { d with stepCpt := d.stepCpt + 1 }
        let d := d.lowerAlarmCount d.interval
        if (d.stepCpt.toNat : ℤ) = (resolution : ℤ) - 1 then
          let d := d.lowerAlarmCount d.reminder
          let d := { d with stepCpt := 0 }
          { d with startFade := false }
        else d
      else d

def gpioIsrHandler (d : SliderDriver) : SliderDriver :=
  let d := { d with triacPwm := d.triacPwm.setLevel true }
  d.restartTimer

/-- One microsecond of the timer, with the alarm callback it may raise. -/
def microsecond (cfg : Kconfig) (d : SliderDriver) : SliderDriver :=
  let (timer, alarm) := d.timerHandle.advance
  let d := { d with timerHandle := timer }
  if alarm then d.onTimerAlarmCb cfg else d

/-! ## Levels -/

def getLevelRaw (d : SliderDriver) : UInt8 :=
  if d.mLevel = 0 then d.mPreviousLevel else d.mLevel

/-- The loop that reverses the eight bits of the touch mask. -/
def flippedByte (level : UInt8) : UInt8 :=
  (List.range 8).foldl
    (fun flipped i => flipped ||| (((level >>> i.toUInt8) &&& 1) <<< (7 - i).toUInt8)) 0

/-- The scan for the highest set bit among the lowest `n`; `0` when there is none. -/
def highestBit (byte : UInt8) : ℕ → UInt8
  | 0 => 0
  | i + 1 => if (byte >>> i.toUInt8) &&& 1 ≠ 0 then i.toUInt8 else highestBit byte i

/-- `((float)max_level / 7.0) * value` stored in a byte. The floor is the C++ product for a
`max_level` of 254, the one value passed; for some others, 61 among them, rounding differs. -/
def scaleTouch (maxLevel value : UInt8) : UInt8 :=
  UInt8.ofNat (maxLevel.toNat * value.toNat / 7)

/-- `getLevel`, given the mask that `getNewTouches` returns. -/
def getLevel (newTouches maxLevel : UInt8) (d : SliderDriver) : SliderDriver × UInt8 :=
  let level := newTouches
  if level = 0 then
    (d, d.mPreviousLevel)
  else
    let value := highestBit (flippedByte level) 8
    ({ d with mPreviousLevel := scaleTouch maxLevel value }, scaleTouch maxLevel value)

/-- `set_brightness`. A zero divisor, undefined in C++, follows `Int.tdiv` and `Int.tmod`. -/
def setBrightness (cfg : Kconfig) (brightness : UInt8) (d : SliderDriver) :
    SliderDriver × EspErr :=
  let actualLevel := intensity2Time d.mLevel.toNat
  let d := { d with mPreviousLevel := d.mLevel }
  let d := { d with mLevel := brightness }
  let d : SliderDriver := if brightness = 1 then { d with mLevel := 0 } else d
  if d.mLevel > 1 then
    match cfg.fadeTime with
    | some resolution =>
        let d := { d with interval := intensity2Time d.mLevel.toNat }
        let d := { d with reminder := d.interval.tmod ((resolution : ℤ) - 1) }
        ({ d with interval := d.interval.tdiv ((resolution : ℤ) - 1) }, .ok)
    | none => ({ d with interval := intensity2Time d.mLevel.toNat }, .ok)
  else
    match cfg.fadeTime with
    | some resolution =>
        let d := { d with interval := -intensity2Time actualLevel }
        let d := { d with reminder := -(d.interval.tmod ((resolution : ℤ) - 1)) }
        ({ d with interval := d.interval.tdiv ((resolution : ℤ) - 1) }, .ok)
    | none => ({ d with interval := maxInterval }, .ok)

/-- `alarm_count = interval`, then `gptimer_set_alarm_action` with its result dropped. -/
def commitInterval (d : SliderDriver) : SliderDriver :=
  let d := { d with
    alarmConfig := { d.alarmConfig with alarmCount := UInt64.ofInt d.interval } }
  { d with timerHandle := (d.timerHandle.setAlarmAction d.alarmConfig).1 }

def setPower (cfg : Kconfig) (power : Bool) (d : SliderDriver) : SliderDriver × EspErr :=
  let d := { d with mIsOn := power }
  if d.mIsOn then
    (d.commitInterval, .ok)
  else
    let d := (d.setBrightness cfg 0).1
    (d.commitInterval, .ok)

/-! ## LEDs -/

/-- The calls of `set_level_led`, in order. -/
def setLevelLed (level : UInt8) : List LedCall :=
  let nLed := UInt8.ofNat (8 * level.toNat / 100)
  let ledStatus : Bool := 0 < nLed
  let nLed := if level = 0 then 8 else nLed
  ((List.range nLed.toNat).flatMap fun i =>
    [.setPWM (7 - i) 100, .setLEDControl (7 - i) ledStatus, .updatePWM]) ++
  ((List.range' nLed.toNat (8 - nLed.toNat)).flatMap fun i =>
    [.setPWM (7 - i) 0, .setLEDControl (7 - i) (!ledStatus), .updatePWM])

/-- The calls of `set_front_led`, in order. -/
def setFrontLed (power : Bool) : List LedCall :=
  [.setLEDControl 9 power, .setPWM 9 (if power then 40 else 0),
    .setLEDControl 8 (!power), .setPWM 8 (if !power then 40 else 0), .updatePWM]

def ledCalls (cs : List LedCall) (d : SliderDriver) : SliderDriver :=
  { d with ledLevelDriver := d.ledLevelDriver.calls cs }

/-- `start`: the touch sensor and the LED configuration are in vendor code, the level LEDs
are switched off and the zero-cross interrupt is enabled. -/
def start (d : SliderDriver) : SliderDriver × Bool :=
  let d := d.ledCalls ((List.range 8).flatMap fun i =>
    [.setPWM i 0, .setLEDControl i false, .updatePWM])
  (d, true)

end SliderDriver

end MatterSwitch
