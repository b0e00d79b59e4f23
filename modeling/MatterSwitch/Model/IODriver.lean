import MatterSwitch.Model.SliderDriver

/-! # The device: Matter attributes, application callback and driver functions

`IODriver.cpp` together with the attribute callback of `app_main.cpp`. The Matter stack is
the store of attribute values; `attribute::update` and a remote write both run the
callback of the application around the store. -/

namespace MatterSwitch

/-! ## Attributes -/

structure AttrPath where
  endpointId : UInt16
  clusterId : UInt32
  attributeId : UInt32
  deriving DecidableEq, Repr

/-- `esp_matter_attr_val_t`. `u8` is the first byte of its union, the one that `val.b` and
`val.u8` share; the drivers read no other. -/
structure AttrVal where
  type : UInt8
  u8 : UInt8
  deriving DecidableEq, Repr

/-- Reading `val.b`. -/
def AttrVal.b (v : AttrVal) : Bool := v.u8 != 0

/-- Assigning `val.b`. -/
def AttrVal.setB (b : Bool) (v : AttrVal) : AttrVal := { v with u8 := if b then 1 else 0 }

namespace OnOff

/-- `OnOff::Id`. -/
def id : UInt32 := 0x0006

/-- `OnOff::Attributes::OnOff::Id`. -/
def onOff : UInt32 := 0x0000

end OnOff

namespace LevelControl

/-- `LevelControl::Id`. -/
def id : UInt32 := 0x0008

/-- `LevelControl::Attributes::CurrentLevel::Id`. -/
def currentLevel : UInt32 := 0x0000

end LevelControl

def onOffPath (endpointId : UInt16) : AttrPath := ⟨endpointId, OnOff.id, OnOff.onOff⟩

def currentLevelPath (endpointId : UInt16) : AttrPath :=
  ⟨endpointId, LevelControl.id, LevelControl.currentLevel⟩

/-- The attribute store, and every write made to it, the latest first. -/
structure Matter where
  attrs : AttrPath → AttrVal
  writes : List (AttrPath × AttrVal)

/-- `attribute::callback_type_t`. -/
inductive CallbackType where
  | preUpdate
  | postUpdate
  | read
  | write
  deriving DecidableEq, Repr

/-! ## The device -/

/-- The globals of `IODriver.cpp`, the level last written to the relay pin and the Matter
attributes. -/
structure Device where
  slider : SliderDriver
  isPressed : Bool
  oldState : Bool
  level : UInt8
  oldLevel : UInt16
  oldTickBtn : UInt32
  oldTickTouch : UInt32
  relay : Bool
  matter : Matter

/-- What one iteration of `sliderTask` reads from outside: the touch status, the tick count
and the touch mask. -/
structure TaskInput where
  newTouches : Bool
  tickNow : UInt32
  touches : UInt8
  deriving DecidableEq, Repr

namespace Device

/-- The `OnOff` attribute of endpoint 1. -/
def onOff (d : Device) : Bool := (d.matter.attrs (onOffPath 1)).b

/-- The `CurrentLevel` attribute of endpoint 1. -/
def currentLevel (d : Device) : UInt8 := (d.matter.attrs (currentLevelPath 1)).u8

/-- The `alarm_count` last handed to `gptimer_set_alarm_action`. -/
def handedCount (d : Device) : ℕ :=
  (d.slider.timerHandle.handed.head?.map fun config => config.alarmCount.toNat).getD 0

/-- Power-up: the static initializers, `slider.start()`, and whatever attribute values the
stack has loaded. -/
def boot (leds : LedDriver) (attrs : AttrPath → AttrVal) : Device :=
  { slider := (SliderDriver.construct leds).start.1
    isPressed := false
    oldState := true
    level := 0
    oldLevel := 0
    oldTickBtn := 0
    oldTickTouch := 0
    relay := false
    matter := { attrs := attrs, writes := [] } }

/-! ## Attribute updates -/

/-- `REMAP_TO_RANGE`. -/
def remapToRange (value fromRange toRange : ℕ) : ℕ := value * toRange / fromRange

def matterBrightness : ℕ := 254

def standardBrightness : ℕ := 100

def appDriverLightSetPower (cfg : Kconfig) (val : AttrVal) (d : Device) : Device × EspErr :=
  let (slider, err) := d.slider.setPower cfg val.b
  ({ d with slider := slider }, err)

def appDriverLightSetBrightness (cfg : Kconfig) (val : AttrVal) (d : Device) :
    Device × EspErr :=
  let value := UInt8.ofNat (remapToRange val.u8.toNat matterBrightness standardBrightness)
  let (slider, err) := d.slider.setBrightness cfg value
  ({ d with slider := slider }, err)

def appDriverAttributeUpdate (cfg : Kconfig) (path : AttrPath) (val : AttrVal) (d : Device) :
    Device × EspErr :=
  if path.endpointId = 1 then
    if path.clusterId = OnOff.id then
      if path.attributeId = OnOff.onOff then
        let d := { d with relay := val.b }
        ({ d with slider := (d.slider.setPower cfg val.b).1 }, .ok)
      else (d, .ok)
    else if path.clusterId = LevelControl.id then
      if path.attributeId = LevelControl.currentLevel then
        let level :=
          UInt8.ofNat (remapToRange val.u8.toNat matterBrightness standardBrightness)
        let d := { d with slider := (d.slider.setBrightness cfg level).1 }
        ({ d with oldLevel := val.u8.toUInt16 }, .ok)
      else (d, .ok)
    else (d, .ok)
  else (d, .ok)

def appAttributeUpdateCb (cfg : Kconfig) (type : CallbackType) (path : AttrPath)
    (val : AttrVal) (d : Device) : Device × EspErr :=
  let d := if type = .preUpdate then (d.appDriverAttributeUpdate cfg path val).1 else d
  (d, .ok)

/-- An attribute write of the Matter stack, remote or through `attribute::update`: the
callback before the update, the store, the callback after it. -/
def attributeUpdate (cfg : Kconfig) (path : AttrPath) (val : AttrVal) (d : Device) : Device :=
  let d := (d.appAttributeUpdateCb cfg .preUpdate path val).1
  let d := { d with matter :=
    { attrs := Function.update d.matter.attrs path val
      writes := (path, val) :: d.matter.writes } }
  (d.appAttributeUpdateCb cfg .postUpdate path val).1

/-- `DEFAULT_BRIGHTNESS`. -/
def defaultBrightness : UInt8 := 180

/-- `DEFAULT_POWER`. -/
def defaultPower : Bool := true

def appDriverSetDefault (cfg : Kconfig) (endpointId : UInt16) (d : Device) :
    Device × EspErr :=
  let val := d.matter.attrs (currentLevelPath endpointId)
  let val := { val with u8 := defaultBrightness }
  let d := d.attributeUpdate cfg (currentLevelPath endpointId) val
  let d := (d.appDriverLightSetBrightness cfg val).1
  let val := d.matter.attrs (onOffPath endpointId)
  let val := val.setB defaultPower
  let d := d.attributeUpdate cfg (onOffPath endpointId) val
  let d := (d.appDriverLightSetPower cfg val).1
  (d, .ok)

/-! ## Button and slider -/

/-- `DEBOUNCE_TIME`. -/
def debounceTime : UInt32 := 300

/-- `DEBOUNCE_TIME_TOUCH`. -/
def debounceTimeTouch : UInt32 := 20

def buttonCb (tickNow : UInt32) (d : Device) : Device :=
  let d := if tickNow - d.oldTickBtn > debounceTime then { d with isPressed := true } else d
  { d with oldTickBtn := tickNow }

/-- The `if (is_pressed)` block. -/
def pressBlock (cfg : Kconfig) (d : Device) : Device :=
  if d.isPressed then
    let attrVal : AttrVal := { type := 0, u8 := 0 }
    let attrVal := if !d.oldState then attrVal.setB true else attrVal.setB false
    let attrVal := { attrVal with type := 1 }
    let d := d.attributeUpdate cfg (onOffPath 1) attrVal
    let d := { d with oldState := !d.oldState }
    { d with isPressed := false }
  else d

/-- The `if(slider.newTouches())` block. -/
def touchBlock (cfg : Kconfig) (inp : TaskInput) (d : Device) : Device :=
  if inp.newTouches then
    if inp.tickNow - d.oldTickTouch > debounceTimeTouch then
      let d := { d with oldTickTouch := inp.tickNow }
      let (slider, level) := d.slider.getLevel inp.touches 254
      let d := { d with slider := slider, level := level }
      if d.level.toUInt16 ≠ d.oldLevel then
        let attrVal : AttrVal := { type := 2, u8 := d.level }
        let d := d.attributeUpdate cfg (currentLevelPath 1) attrVal
        let d := { d with oldLevel := d.level.toUInt16 }
        if !d.oldState then
          let attrVal := attrVal.setB true
          let d := d.attributeUpdate cfg (onOffPath 1) attrVal
          { d with oldState := !d.oldState }
        else d
      else d
    else d
  else d

/-- The argument that `sliderTask` passes to `set_level_led`. -/
def shownLevel (d : Device) : UInt8 := if d.oldState then d.slider.getLevelRaw else 0

/-- The LED refresh at the end of an iteration. -/
def ledBlock (d : Device) : Device :=
  let d := { d with slider := d.slider.ledCalls (SliderDriver.setFrontLed d.oldState) }
  { d with slider := d.slider.ledCalls (SliderDriver.setLevelLed d.shownLevel) }

/-- One iteration of the loop of `sliderTask`, run without interruption. -/
def sliderTask (cfg : Kconfig) (inp : TaskInput) (d : Device) : Device :=
  ((d.pressBlock cfg).touchBlock cfg inp).ledBlock

end Device

end MatterSwitch
