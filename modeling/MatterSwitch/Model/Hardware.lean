import Mathlib.Data.Int.Notation
import Mathlib.Data.UInt
import Mathlib.Logic.Function.Basic

/-! # Peripherals and build options

The vendor APIs the drivers call, as far as the drivers can observe them: the general
purpose timer, the gate pin of the triac and the channels of the LED driver. -/

namespace MatterSwitch

/-- The `esp_err_t` codes of the modelled calls. -/
inductive EspErr where
  | ok
  | invalidArg
  | invalidState
  deriving DecidableEq, Repr

/-- The menu options that change the compiled code: `CONFIG_FADE_TIME` when
`CONFIG_FADE_ENBALE` is set, `none` in the default configuration. -/
structure Kconfig where
  fadeTime : Option ℕ

/-! ## General purpose timer -/

/-- `gptimer_alarm_config_t`. -/
structure AlarmConfig where
  alarmCount : UInt64
  reloadCount : UInt64
  autoReloadOnAlarm : Bool
  deriving DecidableEq, Repr

/-- A counter at 1 MHz. `alarm` is the configuration in force, `handed` lists every
configuration given to `gptimer_set_alarm_action`, the latest first. -/
structure GpTimer where
  running : Bool
  rawCount : ℕ
  alarm : AlarmConfig
  handed : List AlarmConfig
  deriving DecidableEq, Repr

namespace GpTimer

/-- `gptimer_start`: an error on a timer that already runs, which changes nothing. -/
def start (t : GpTimer) : GpTimer × EspErr :=
  if t.running then (t, .invalidState) else ({ t with running := true }, .ok)

/-- `gptimer_stop`. -/
def stop (t : GpTimer) : GpTimer × EspErr :=
  if t.running then ({ t with running := false }, .ok) else (t, .invalidState)

/-- `gptimer_set_raw_count`. -/
def setRawCount (value : ℕ) (t : GpTimer) : GpTimer × EspErr :=
  ({ t with rawCount := value }, .ok)

/-- `gptimer_set_alarm_action`: an auto-reload alarm must differ from its reload count. -/
def setAlarmAction (config : AlarmConfig) (t : GpTimer) : GpTimer × EspErr :=
  let t := { t with handed := config :: t.handed }
  if config.autoReloadOnAlarm ∧ config.alarmCount = config.reloadCount then
    (t, .invalidArg)
  else
    ({ t with alarm := config }, .ok)

/-- One microsecond. The result tells whether the counter has met the alarm. -/
def advance (t : GpTimer) : GpTimer × Bool :=
  if t.running then
    let t := { t with rawCount := t.rawCount + 1 }
    if t.rawCount = t.alarm.alarmCount.toNat then
      if t.alarm.autoReloadOnAlarm then
        ({ t with rawCount := t.alarm.reloadCount.toNat }, true)
      else
        (t, true)
    else
      (t, false)
  else
    (t, false)

end GpTimer

/-! ## Gate pin -/

/-- `CONFIG_TRIAC_PWM`. The gate fires on a falling edge; `pulses` counts them. -/
structure GatePin where
  level : Bool
  pulses : ℕ
  deriving DecidableEq, Repr

/-- `gpio_set_level` on the gate pin. -/
def GatePin.setLevel (level : Bool) (p : GatePin) : GatePin :=
  { level := level, pulses := if p.level && !level then p.pulses + 1 else p.pulses }

/-! ## LED driver -/

/-- The calls made on the LED driver. Channels keep the `int` value of their expression. -/
inductive LedCall where
  | setPWM (channel : ℤ) (value : UInt8)
  | setLEDControl (channel : ℤ) (status : Bool)
  | updatePWM
  deriving DecidableEq, Repr

/-- The channel a call names, if it names one. -/
def LedCall.channel? : LedCall → Option ℤ
  | .setPWM channel _ => some channel
  | .setLEDControl channel _ => some channel
  | .updatePWM => none

/-- The registers of the LED driver by channel. -/
structure LedDriver where
  pwm : ℤ → UInt8
  control : ℤ → Bool

/-- A call writes the register of its channel. -/
def LedDriver.call (l : LedDriver) : LedCall → LedDriver
  | .setPWM channel value => { l with pwm := Function.update l.pwm channel value }
  | .setLEDControl channel status =>
      { l with control := Function.update l.control channel status }
  | .updatePWM => l

def LedDriver.calls (l : LedDriver) (cs : List LedCall) : LedDriver :=
  cs.foldl LedDriver.call l

end MatterSwitch
