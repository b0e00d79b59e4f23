import MatterSwitch.Verification.Light.Safety

/-! # What an iteration of `sliderTask` does -/

namespace MatterSwitch

open SliderDriver Transition

namespace Device

/-- A power-up with blank LED registers and attribute values. -/
def cold : Device := boot ⟨fun _ => 0, fun _ => false⟩ fun _ => ⟨0, 0⟩

/-! ## The press block -/

@[simp] theorem pressBlock_oldState (cfg : Kconfig) (d : Device) :
    (d.pressBlock cfg).oldState = if d.isPressed then !d.oldState else d.oldState := by
  cases h : d.isPressed with
  | true => simp [pressBlock_of_pressed cfg h]
  | false => simp [pressBlock_of_not_pressed cfg h]

@[simp] theorem pressBlock_oldLevel (cfg : Kconfig) (d : Device) :
    (d.pressBlock cfg).oldLevel = d.oldLevel := by
  cases h : d.isPressed with
  | true => simp [pressBlock_of_pressed cfg h, attributeUpdate_onOff]
  | false => simp [pressBlock_of_not_pressed cfg h]

@[simp] theorem pressBlock_oldTickTouch (cfg : Kconfig) (d : Device) :
    (d.pressBlock cfg).oldTickTouch = d.oldTickTouch := by
  cases h : d.isPressed with
  | true => simp [pressBlock_of_pressed cfg h, attributeUpdate_onOff]
  | false => simp [pressBlock_of_not_pressed cfg h]

/-- Switching off saves the level, switching on does not touch the saved one. -/
theorem pressBlock_mPreviousLevel (cfg : Kconfig) (d : Device) :
    (d.pressBlock cfg).slider.mPreviousLevel =
      if d.isPressed ∧ d.oldState then d.slider.mLevel else d.slider.mPreviousLevel := by
  cases h : d.isPressed with
  | true =>
      rw [pressBlock_of_pressed cfg h, attributeUpdate_onOff, pressVal_b]
      cases hs : d.oldState with
      | true =>
          simp [SliderDriver.setPower_false, setBrightness_eq, commitInterval_frame]
      | false => simp [SliderDriver.setPower_true, commitInterval_frame]
  | false => simp [pressBlock_of_not_pressed cfg h]

theorem pressBlock_mLevel (cfg : Kconfig) (d : Device) :
    (d.pressBlock cfg).slider.mLevel =
      if d.isPressed ∧ d.oldState then 0 else d.slider.mLevel := by
  have h := congrArg Light.level (light_pressBlock cfg d)
  change (d.pressBlock cfg).slider.mLevel = _ at h
  rw [h, pressEvents]
  cases d.isPressed with
  | true => cases d.oldState <;> rfl
  | false => simp [light]

theorem pressBlock_mIsOn (cfg : Kconfig) (d : Device) :
    (d.pressBlock cfg).slider.mIsOn = if d.isPressed then !d.oldState else d.slider.mIsOn := by
  have h := congrArg Light.isOn (light_pressBlock cfg d)
  change (d.pressBlock cfg).slider.mIsOn = _ at h
  rw [h, pressEvents]
  cases d.isPressed with
  | true => cases d.oldState <;> rfl
  | false => simp [light]

theorem touchAccepted_pressBlock_iff (cfg : Kconfig) (inp : TaskInput) (d : Device) :
    TouchAccepted inp (d.pressBlock cfg) ↔ TouchAccepted inp d := by
  rw [TouchAccepted, TouchAccepted, pressBlock_oldTickTouch]

/-- The touch test of an iteration, read in the state in which the iteration starts. -/
theorem relevels_pressBlock_iff (cfg : Kconfig) (inp : TaskInput) (d : Device) :
    Relevels inp (d.pressBlock cfg) ↔
      TouchAccepted inp d ∧
        (touchValue (if d.isPressed ∧ d.oldState then d.slider.mLevel
          else d.slider.mPreviousLevel) inp.touches).toUInt16 ≠ d.oldLevel := by
  rw [Relevels, touchAccepted_pressBlock_iff, pressBlock_oldLevel, pressBlock_mPreviousLevel]

theorem relevels_pressBlock_of_not_off (cfg : Kconfig) (inp : TaskInput) {d : Device}
    (h : ¬ (d.isPressed = true ∧ d.oldState = true)) :
    Relevels inp (d.pressBlock cfg) ↔ Relevels inp d := by
  rw [relevels_pressBlock_iff, if_neg h, Relevels]

/-! ## The touch block -/

theorem touchBlock_oldState (cfg : Kconfig) (inp : TaskInput) (d : Device) :
    (d.touchBlock cfg inp).oldState = if Relevels inp d then true else d.oldState := by
  by_cases h : Relevels inp d
  · rw [touchBlock_of_relevels cfg h, if_pos h]
    cases hs : d.oldState with
    | true => simp [attributeUpdate_currentLevel, sampled, hs]
    | false => simp
  · rw [if_neg h]
    by_cases ha : TouchAccepted inp d
    · rw [touchBlock_of_same cfg ha h]
      rfl
    · rw [touchBlock_of_not_accepted cfg ha]

/-- The light after the touch block. -/
theorem light_touchBlock_of_relevels (cfg : Kconfig) {inp : TaskInput} {d : Device}
    (h : Relevels inp d) :
    (d.touchBlock cfg inp).light =
      let level := touchValue d.slider.mPreviousLevel inp.touches
      let l := d.light.step cfg (.dim level)
      if d.oldState then l else l.step cfg (.power true) := by
  rw [light_touchBlock, touchEvents, if_pos h]
  cases d.oldState <;> rfl

theorem light_touchBlock_of_not_relevels (cfg : Kconfig) {inp : TaskInput} {d : Device}
    (h : ¬ Relevels inp d) : (d.touchBlock cfg inp).light = d.light := by
  rw [light_touchBlock, touchEvents, if_neg h]
  rfl

/-- A touch at another level lights a light that `old_state` calls off. -/
theorem touchBlock_mIsOn (cfg : Kconfig) (inp : TaskInput) (d : Device) :
    (d.touchBlock cfg inp).slider.mIsOn =
      if Relevels inp d ∧ d.oldState = false then true else d.slider.mIsOn := by
  change (d.touchBlock cfg inp).light.isOn = _
  by_cases hr : Relevels inp d
  · rw [light_touchBlock_of_relevels cfg hr]
    cases hs : d.oldState <;> simp [hr, Light.step, light]
  · rw [light_touchBlock_of_not_relevels cfg hr]
    simp [hr, light]

theorem touchBlock_mLevel (cfg : Kconfig) (inp : TaskInput) (d : Device) :
    (d.touchBlock cfg inp).slider.mLevel =
      if Relevels inp d then matterLevel (touchValue d.slider.mPreviousLevel inp.touches)
      else d.slider.mLevel := by
  change (d.touchBlock cfg inp).light.level = _
  by_cases hr : Relevels inp d
  · rw [light_touchBlock_of_relevels cfg hr, if_pos hr]
    cases d.oldState <;> rfl
  · rw [light_touchBlock_of_not_relevels cfg hr, if_neg hr]
    rfl

theorem touchBlock_onOff (cfg : Kconfig) (inp : TaskInput) (d : Device) :
    (d.touchBlock cfg inp).onOff =
      if Relevels inp d ∧ d.oldState = false then true else d.onOff := by
  change (d.touchBlock cfg inp).light.onOff = _
  by_cases hr : Relevels inp d
  · rw [light_touchBlock_of_relevels cfg hr]
    cases hs : d.oldState <;> simp [hr, Light.step, light]
  · rw [light_touchBlock_of_not_relevels cfg hr]
    simp [hr, light]

theorem touchBlock_currentLevel (cfg : Kconfig) (inp : TaskInput) (d : Device) :
    (d.touchBlock cfg inp).currentLevel =
      if Relevels inp d then touchValue d.slider.mPreviousLevel inp.touches
      else d.currentLevel := by
  change (d.touchBlock cfg inp).light.currentLevel = _
  by_cases hr : Relevels inp d
  · rw [light_touchBlock_of_relevels cfg hr, if_pos hr]
    cases d.oldState <;> rfl
  · rw [light_touchBlock_of_not_relevels cfg hr, if_neg hr]
    rfl

theorem touchBlock_oldLevel (cfg : Kconfig) (inp : TaskInput) (d : Device) :
    (d.touchBlock cfg inp).oldLevel =
      if Relevels inp d then (touchValue d.slider.mPreviousLevel inp.touches).toUInt16
      else d.oldLevel := by
  change (d.touchBlock cfg inp).light.oldLevel = _
  by_cases hr : Relevels inp d
  · rw [light_touchBlock_of_relevels cfg hr, if_pos hr]
    cases d.oldState <;> rfl
  · rw [light_touchBlock_of_not_relevels cfg hr, if_neg hr]
    rfl

/-- The saved level after the touch block: the level before it on the scale of the driver
if a level was written, and else the touched level on the scale of the attribute. -/
theorem touchBlock_mPreviousLevel (cfg : Kconfig) (inp : TaskInput) (d : Device) :
    (d.touchBlock cfg inp).slider.mPreviousLevel =
      if Relevels inp d then d.slider.mLevel
      else if TouchAccepted inp d then touchValue d.slider.mPreviousLevel inp.touches
      else d.slider.mPreviousLevel := by
  by_cases hr : Relevels inp d
  · rw [touchBlock_of_relevels cfg hr, if_pos hr]
    cases hs : d.oldState <;>
      simp [attributeUpdate_currentLevel, attributeUpdate_onOff, setBrightness_eq,
        SliderDriver.setPower_true, commitInterval_frame, sampled]
  · rw [if_neg hr]
    by_cases ha : TouchAccepted inp d
    · rw [touchBlock_of_same cfg ha hr, if_pos ha]
      rfl
    · rw [touchBlock_of_not_accepted cfg ha, if_neg ha]

/-! ## The whole iteration -/

@[simp] theorem sliderTask_oldState (cfg : Kconfig) (inp : TaskInput) (d : Device) :
    (d.sliderTask cfg inp).oldState = ((d.pressBlock cfg).touchBlock cfg inp).oldState := rfl

@[simp] theorem sliderTask_mIsOn (cfg : Kconfig) (inp : TaskInput) (d : Device) :
    (d.sliderTask cfg inp).slider.mIsOn =
      ((d.pressBlock cfg).touchBlock cfg inp).slider.mIsOn := rfl

theorem light_sliderTask (cfg : Kconfig) (inp : TaskInput) (d : Device) :
    (d.sliderTask cfg inp).light = ((d.pressBlock cfg).touchBlock cfg inp).light := rfl

/-- The copies of the power agree after start-up and stay so under complete steps. -/
theorem powered_appDriverSetDefault (cfg : Kconfig) (d : Device) :
    (d.appDriverSetDefault cfg 1).1.light.Powered := by
  rw [light_appDriverSetDefault]
  exact ⟨rfl, rfl⟩

theorem powered_command (cfg : Kconfig) {d : Device} (h : d.light.Powered) (c : Command) :
    (d.command cfg c).light.Powered :=
  (refinement cfg).step_invariant Light.Powered
    (fun _ _ hl ho => Light.powered_step cfg hl ho) h
    (regular_commandEvents cfg d c)

theorem wellFormed_command {d : Device} (h : d.light.WellFormed) (c : Command) :
    (d.command .noFade c).light.WellFormed :=
  (refinement .noFade).step_invariant Light.WellFormed
    (fun _ _ hl ho => Light.wellFormed_step hl ho) h
    (regular_commandEvents .noFade d c)

end Device

end MatterSwitch
