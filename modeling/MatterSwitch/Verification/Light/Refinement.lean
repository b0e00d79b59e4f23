import MatterSwitch.Verification.Light.Machine

/-! # Both grains of the device refine the light -/

namespace MatterSwitch

open SliderDriver Transition

namespace Device

/-! ## Statements -/

/-- The light events of a statement of `sliderTask`. -/
def sliderEvents (d : Device) : SliderPc → List LightEvent
  | .updateOnOff attrVal => [.power attrVal.b]
  | .updateLevel attrVal => [.dim attrVal.u8]
  | .saveLevel _ => [.remember d.level]
  | .updateOn attrVal => [.power attrVal.b]
  | _ => []

theorem light_sliderStmt (cfg : Kconfig) (inp : TaskInput) (d : Device) (pc : SliderPc) :
    (d.sliderStmt cfg inp pc).1.light =
      run (Light.step cfg) d.light (d.sliderEvents pc) := by
  cases pc with
  | updateOnOff attrVal => exact light_attributeUpdate cfg (onOffPath 1) attrVal d
  | updateLevel attrVal => exact light_attributeUpdate cfg (currentLevelPath 1) attrVal d
  | updateOn attrVal => exact light_attributeUpdate cfg (onOffPath 1) attrVal d
  | readLevel =>
      simp only [sliderStmt, getLevel_eq]
      rfl
  | _ => rfl

/-- The light events of a statement of `app_driver_set_default`. -/
def mainEvents : MainPc → List LightEvent
  | .updateLevel val => [.dim val.u8]
  | .applyBrightness val => [.applyBrightness val.u8]
  | .updatePower val => [.power val.b]
  | .applyPower val => [.applyPower val.b]
  | _ => []

theorem light_mainStmt (cfg : Kconfig) (d : Device) (pc : MainPc) :
    (d.mainStmt cfg pc).1.light = run (Light.step cfg) d.light (mainEvents pc) := by
  cases pc with
  | updateLevel val => exact light_attributeUpdate cfg (currentLevelPath 1) val d
  | applyBrightness val => exact light_appDriverLightSetBrightness cfg val d
  | updatePower val => exact light_attributeUpdate cfg (onOffPath 1) val d
  | applyPower val => exact light_appDriverLightSetPower cfg val d
  | _ => rfl

/-! ## Blocks -/

/-- The light events of the press block. -/
def pressEvents (d : Device) : List LightEvent :=
  if d.isPressed then [.power (!d.oldState)] else []

theorem light_pressBlock (cfg : Kconfig) (d : Device) :
    (d.pressBlock cfg).light = run (Light.step cfg) d.light d.pressEvents := by
  cases h : d.isPressed with
  | true =>
      rw [pressBlock_of_pressed cfg h, pressEvents, h, if_pos rfl]
      have hw := light_attributeUpdate cfg (onOffPath 1) (pressVal d.oldState) d
      rw [writeEvents_onOff, pressVal_b] at hw
      exact hw
  | false =>
      rw [pressBlock_of_not_pressed cfg h, pressEvents, h, if_neg (by decide)]
      rfl

/-- The light events of the touch block. -/
def touchEvents (inp : TaskInput) (d : Device) : List LightEvent :=
  if Relevels inp d then
    let level := touchValue d.slider.mPreviousLevel inp.touches
    [.dim level, .remember level] ++ if d.oldState then [] else [.power true]
  else []

/-- The light once a touched level has been written and remembered. -/
theorem light_touchLevel (cfg : Kconfig) (inp : TaskInput) (level : UInt8) (d : Device) :
    ({ (d.sampled inp).attributeUpdate cfg (currentLevelPath 1) (levelVal level) with
        oldLevel := level.toUInt16 } : Device).light =
      run (Light.step cfg) d.light [.dim level, .remember level] := by
  have hw := light_attributeUpdate cfg (currentLevelPath 1) (levelVal level) (d.sampled inp)
  rw [writeEvents_currentLevel] at hw
  exact congrArg (Light.step cfg · (.remember level)) hw

theorem light_touchBlock (cfg : Kconfig) (inp : TaskInput) (d : Device) :
    (d.touchBlock cfg inp).light =
      run (Light.step cfg) d.light (touchEvents inp d) := by
  by_cases h : Relevels inp d
  · let level := touchValue d.slider.mPreviousLevel inp.touches
    let e := { (d.sampled inp).attributeUpdate cfg (currentLevelPath 1) (levelVal level) with
      oldLevel := level.toUInt16 }
    have he : e.light = run (Light.step cfg) d.light [.dim level, .remember level] :=
      light_touchLevel cfg inp level d
    rw [touchBlock_of_relevels cfg h, touchEvents, if_pos h]
    cases hs : d.oldState with
    | true => exact he
    | false =>
        have ho := light_attributeUpdate cfg (onOffPath 1) ((levelVal level).setB true) e
        rw [writeEvents_onOff, AttrVal.setB_b, he, ← run_append] at ho
        exact ho
  · rw [touchEvents, if_neg h]
    by_cases ha : TouchAccepted inp d
    · rw [touchBlock_of_same cfg ha h]
      rfl
    · rw [touchBlock_of_not_accepted cfg ha]
      rfl

/-- The light events of a complete step. -/
def commandEvents (cfg : Kconfig) (d : Device) : Command → List LightEvent
  | .signal e => signalEvents e
  | .sliderTask inp => d.pressEvents ++ touchEvents inp (d.pressBlock cfg)

theorem light_command (cfg : Kconfig) (d : Device) (c : Command) :
    (d.command cfg c).light = run (Light.step cfg) d.light (d.commandEvents cfg c) := by
  cases c with
  | signal e => exact light_signal cfg e d
  | sliderTask inp =>
      have ht := light_touchBlock cfg inp (d.pressBlock cfg)
      rw [light_pressBlock, ← run_append] at ht
      exact ht

theorem light_appDriverSetDefault (cfg : Kconfig) (d : Device) :
    (d.appDriverSetDefault cfg 1).1.light =
      run (Light.step cfg) d.light
        [.dim defaultBrightness, .applyBrightness defaultBrightness,
          .power defaultPower, .applyPower defaultPower] := by
  simp only [appDriverSetDefault, light_appDriverLightSetPower, light_attributeUpdate,
    light_appDriverLightSetBrightness, writeEvents_onOff, writeEvents_currentLevel,
    AttrVal.setB_b]
  rfl

/-- The device under complete steps, as a light. -/
def refinement (cfg : Kconfig) : Refinement (Device.command cfg) (Light.step cfg) where
  abs := light
  label := commandEvents cfg
  sim := light_command cfg

end Device

namespace System

/-- The light events of one step of the interleaved system. -/
def events (s : System) : Event → List LightEvent
  | .signal e => Device.signalEvents e
  | .sliderTask _ => s.dev.sliderEvents s.task
  | .appMain => Device.mainEvents s.main

theorem light_step (cfg : Kconfig) (s : System) (e : Event) :
    (s.step cfg e).dev.light = run (Light.step cfg) s.dev.light (s.events e) := by
  cases e with
  | signal e => exact Device.light_signal cfg e s.dev
  | sliderTask inp => exact Device.light_sliderStmt cfg inp s.dev s.task
  | appMain => exact Device.light_mainStmt cfg s.dev s.main

/-- The interleaved system, as a light. -/
def refinement (cfg : Kconfig) : Refinement (System.step cfg) (Light.step cfg) where
  abs s := s.dev.light
  label := events
  sim := light_step cfg

end System

end MatterSwitch
