import MatterSwitch.Verification.Command.Equations
import MatterSwitch.Verification.Slider.Calls

/-! # The channels of the level bar

`m_previous_level` is written on two scales, by `set_brightness` in percent and by
`getLevel` out of 254, and `set_level_led` divides by a hundred. A value above that reaches
the bar exactly in the iterations described here. -/

namespace MatterSwitch

open SliderDriver Transition

namespace SliderDriver

/-- `n_led` once it is set: the LEDs of the first loop. -/
def nLed (level : UInt8) : ℕ := if level = 0 then 8 else 8 * level.toNat / 100

/-- `set_level_led` with its bytes read as numbers. -/
theorem setLevelLed_eq (level : UInt8) :
    setLevelLed level =
      ((List.range (nLed level)).flatMap fun i =>
        [.setPWM (7 - i) 100, .setLEDControl (7 - i) (0 < 8 * level.toNat / 100), .updatePWM]) ++
      ((List.range' (nLed level) (8 - nLed level)).flatMap fun i =>
        [.setPWM (7 - i) 0, .setLEDControl (7 - i) (!(0 < 8 * level.toNat / 100)),
          .updatePWM]) := by
  have hlt := level.toNat_lt
  have hn : (UInt8.ofNat (8 * level.toNat / 100)).toNat = 8 * level.toNat / 100 := by
    simp only [UInt8.toNat_ofNat']
    omega
  have hn8 : (if level = 0 then 8 else UInt8.ofNat (8 * level.toNat / 100)).toNat =
      nLed level := by
    rw [nLed]
    split
    · rfl
    · exact hn
  have hpos : (0 < UInt8.ofNat (8 * level.toNat / 100)) ↔ 0 < 8 * level.toNat / 100 := by
    rw [UInt8.lt_iff_toNat_lt, hn]
    rfl
  simp only [setLevelLed, hn8, hpos]

/-- The channels of `set_level_led` run down from 7, one for each LED of the two loops. -/
theorem mem_channels_setLevelLed (level : UInt8) (channel : ℤ) :
    channel ∈ (setLevelLed level).filterMap LedCall.channel? ↔
      ∃ i : ℕ, channel = 7 - i ∧
        i < max (if level = 0 then 8 else 8 * level.toNat / 100 : ℕ) 8 := by
  change _ ↔ ∃ i : ℕ, channel = 7 - i ∧ i < max (nLed level) 8
  rw [setLevelLed_eq]
  generalize nLed level = n
  simp only [List.filterMap_append, List.mem_append, List.filterMap_flatMap,
    List.mem_flatMap, List.mem_range, List.mem_range'_1, LedCall.channel?,
    List.filterMap_cons, List.filterMap_nil, List.mem_cons, List.not_mem_nil, or_false, or_self]
  constructor
  · intro h
    rcases h with ⟨i, hi, rfl⟩ | ⟨i, hi, rfl⟩
    · exact ⟨i, rfl, by omega⟩
    · exact ⟨i, rfl, by omega⟩
  · intro h
    obtain ⟨i, rfl, hi⟩ := h
    by_cases h : i < n
    · exact .inl ⟨i, h, rfl⟩
    · exact .inr ⟨i, by omega, rfl⟩

/-- The channels exist up to a level of 112. -/
theorem channels_setLevelLed_iff (level : UInt8) :
    (∀ channel ∈ (setLevelLed level).filterMap LedCall.channel?, 0 ≤ channel ∧ channel ≤ 7) ↔
      level.toNat ≤ 112 := by
  constructor
  · intro h
    by_contra hgt
    have hne : level ≠ 0 := by
      rintro rfl
      exact hgt (by decide)
    have hm := (mem_channels_setLevelLed level (7 - (8 : ℕ))).mpr
      ⟨8, rfl, by rw [if_neg hne]; omega⟩
    have := (h _ hm).1
    omega
  · intro hle channel hm
    obtain ⟨i, rfl, hi⟩ := (mem_channels_setLevelLed level channel).mp hm
    split at hi <;> omega

end SliderDriver

namespace Device

/-- The level that an iteration passes to `set_level_led`. -/
def ledLevel (cfg : Kconfig) (inp : TaskInput) (d : Device) : UInt8 :=
  ((d.pressBlock cfg).touchBlock cfg inp).shownLevel

theorem attributeUpdate_leds (cfg : Kconfig) (path : AttrPath) (val : AttrVal) (d : Device) :
    (d.attributeUpdate cfg path val).slider.ledLevelDriver = d.slider.ledLevelDriver := by
  by_cases ho : path = onOffPath 1
  · rw [ho, attributeUpdate_onOff]
    exact setPower_leds cfg val.b d.slider
  · by_cases hc : path = currentLevelPath 1
    · rw [hc, attributeUpdate_currentLevel, setBrightness_eq]
    · rw [attributeUpdate_other cfg val d ho hc]

theorem pressBlock_leds (cfg : Kconfig) (d : Device) :
    (d.pressBlock cfg).slider.ledLevelDriver = d.slider.ledLevelDriver :=
  pressBlock_invariant cfg (P := fun d' => d'.slider.ledLevelDriver = d.slider.ledLevelDriver)
    (fun path val d' h => (attributeUpdate_leds cfg path val d').trans h) (fun _ _ h => h) rfl

theorem touchBlock_leds (cfg : Kconfig) (inp : TaskInput) (d : Device) :
    (d.touchBlock cfg inp).slider.ledLevelDriver = d.slider.ledLevelDriver :=
  touchBlock_invariant cfg (P := fun d' => d'.slider.ledLevelDriver = d.slider.ledLevelDriver)
    (fun path val d' h => (attributeUpdate_leds cfg path val d').trans h) (fun _ _ _ h => h)
    rfl rfl

/-- The LED calls of an iteration are those of `set_front_led` and `set_level_led`. -/
theorem sliderTask_leds (cfg : Kconfig) (inp : TaskInput) (d : Device) :
    (d.sliderTask cfg inp).slider.ledLevelDriver =
      d.slider.ledLevelDriver.calls
        (setFrontLed (d.sliderTask cfg inp).oldState ++ setLevelLed (d.ledLevel cfg inp)) := by
  rw [LedDriver.calls, List.foldl_append, ← pressBlock_leds cfg d,
    ← touchBlock_leds cfg inp (d.pressBlock cfg)]
  rfl

/-- What one step has to do: the LED calls of an iteration are those of `set_front_led` and
`set_level_led`, the level passed to the latter is a percentage, and the channels that it names
are 0 to 7 only. -/
def BarSafe (cfg : Kconfig) (d : Device) : BootStep → Prop
  | .command (.sliderTask inp) =>
      (d.sliderTask cfg inp).slider.ledLevelDriver =
        d.slider.ledLevelDriver.calls
          (setFrontLed (d.sliderTask cfg inp).oldState ++ setLevelLed (d.ledLevel cfg inp)) ∧
      (d.ledLevel cfg inp).toNat ≤ 100 ∧
      ∀ channel ∈ (setLevelLed (d.ledLevel cfg inp)).filterMap LedCall.channel?,
        0 ≤ channel ∧ channel ≤ 7
  | _ => True

/-- The level that `getLevelRaw` falls back to after an iteration that writes no level. -/
def fallback (inp : TaskInput) (d : Device) : UInt8 :=
  if TouchAccepted inp d then touchValue d.slider.mPreviousLevel inp.touches
  else d.slider.mPreviousLevel

/-- No iteration shows a level of zero, with `old_state` on, through a saved level above a
hundred. -/
def SavedInPercent (d : Device) : BootStep → Prop
  | .command (.sliderTask inp) =>
      (if d.isPressed then d.oldState = false else d.oldState = true) →
        d.slider.mLevel = 0 → ¬ Relevels inp d → (fallback inp d).toNat ≤ 100
  | _ => True

/-- An iteration that switches off shows nothing, or the level of a touch. -/
theorem ledLevel_le_of_off (cfg : Kconfig) {d : Device} (hp : d.isPressed = true)
    (ho : d.oldState = true) (inp : TaskInput) : (d.ledLevel cfg inp).toNat ≤ 100 := by
  rw [ledLevel, shownLevel, getLevelRaw, touchBlock_oldState, touchBlock_mLevel,
    touchBlock_mPreviousLevel]
  by_cases hr : Relevels inp (d.pressBlock cfg)
  · have hv := (matterLevel_valid
      (touchValue (d.pressBlock cfg).slider.mPreviousLevel inp.touches)).le
    simp only [hr, if_true, pressBlock_mLevel, hp, ho, and_self]
    split
    · decide
    · exact hv
  · simp [hr, hp, ho]

theorem ledLevel_le_iff_of_not_off (cfg : Kconfig) {d : Device}
    (h : ValidLevel d.slider.mLevel) (hoff : ¬ (d.isPressed = true ∧ d.oldState = true))
    (inp : TaskInput) :
    (d.ledLevel cfg inp).toNat ≤ 100 ↔ SavedInPercent d (.command (.sliderTask inp)) := by
  have hle := h.le
  have hreq := relevels_pressBlock_of_not_off cfg inp hoff
  have ht := touchAccepted_pressBlock_iff cfg inp d
  rw [ledLevel, shownLevel, getLevelRaw, touchBlock_oldState, touchBlock_mLevel,
    touchBlock_mPreviousLevel]
  simp only [hreq, ht, pressBlock_mLevel, pressBlock_mPreviousLevel, if_neg hoff,
    pressBlock_oldState, SavedInPercent]
  by_cases hr : Relevels inp d
  · have hv := (matterLevel_valid (touchValue d.slider.mPreviousLevel inp.touches)).le
    simp only [hr, if_true, not_true_eq_false, false_implies, implies_true, iff_true]
    split
    · exact hle
    · exact hv
  · have hlit : ((if d.isPressed then !d.oldState else d.oldState) = true) ↔
        (if d.isPressed then d.oldState = false else d.oldState = true) := by
      cases d.isPressed <;> simp
    simp only [hr, if_false, not_false_eq_true, true_implies]
    by_cases hl : (if d.isPressed then !d.oldState else d.oldState) = true
    · rw [if_pos hl]
      by_cases h0 : d.slider.mLevel = 0
      · simp only [h0, if_true, true_implies]
        exact ⟨fun hf _ => hf, fun hf => hf (hlit.mp hl)⟩
      · simp only [h0, if_false, false_implies, implies_true, iff_true]
        exact hle
    · rw [if_neg hl]
      exact ⟨fun _ hc => absurd (hlit.mpr hc) hl, fun _ => by decide⟩

theorem ledLevel_le_iff (cfg : Kconfig) {d : Device} (h : ValidLevel d.slider.mLevel)
    (inp : TaskInput) :
    (d.ledLevel cfg inp).toNat ≤ 100 ↔ SavedInPercent d (.command (.sliderTask inp)) := by
  by_cases hoff : d.isPressed = true ∧ d.oldState = true
  · obtain ⟨hp, ho⟩ := hoff
    have hs : SavedInPercent d (.command (.sliderTask inp)) := by
      intro hlit
      rw [hp, if_pos rfl, ho] at hlit
      exact Bool.noConfusion hlit
    exact ⟨fun _ => hs, fun _ => ledLevel_le_of_off cfg hp ho inp⟩
  · exact ledLevel_le_iff_of_not_off cfg h hoff inp

theorem validLevel_bootStep (cfg : Kconfig) {d : Device} (h : ValidLevel d.slider.mLevel)
    (b : BootStep) : ValidLevel (d.bootStep cfg b).slider.mLevel := by
  change ValidLevel (d.bootStep cfg b).light.level
  cases b with
  | command c =>
      rw [bootStep, light_command]
      exact Light.validLevel_run cfg h _
  | setDefault =>
      rw [bootStep, light_appDriverSetDefault]
      exact Light.validLevel_run cfg h _

/-- From power-up on, every iteration keeps to the scale and to the channels of the level
bar, exactly along the runs in which no saved level above a hundred is shown. -/
theorem bar_safe_iff (cfg : Kconfig) (leds : LedDriver) (attrs : AttrPath → AttrVal)
    (bs : List BootStep) :
    Along (Device.bootStep cfg) (BarSafe cfg) (boot leds attrs) bs ↔
      Along (Device.bootStep cfg) SavedInPercent (boot leds attrs) bs := by
  apply along_iff_along (Device.bootStep cfg) (fun d => ValidLevel d.slider.mLevel)
  · intro d b h _
    exact validLevel_bootStep cfg h b
  · intro d b h
    cases b with
    | setDefault => exact Iff.rfl
    | command c =>
        cases c with
        | signal e => exact Iff.rfl
        | sliderTask inp =>
            rw [BarSafe, channels_setLevelLed_iff, ← ledLevel_le_iff cfg h inp]
            constructor
            · exact fun hb => hb.2.1
            · exact fun hle => ⟨sliderTask_leds cfg inp d, hle, by omega⟩
  · exact .inl rfl

/-- Touch the top, press off, touch the top again, press on: the saved level is 254. -/
theorem touch_off_touch_on_overruns_bar :
    ¬ Along (Device.bootStep .noFade) (BarSafe .noFade) cold
      [.setDefault, .command (.sliderTask ⟨true, 100, 1⟩),
        .command (.signal (.buttonEdge 1000)), .command (.sliderTask ⟨false, 1001, 0⟩),
        .command (.sliderTask ⟨true, 1200, 1⟩),
        .command (.signal (.buttonEdge 2000)), .command (.sliderTask ⟨false, 2001, 0⟩)] :=
  fun h => absurd h.2.2.2.2.2.2.1.2.1 (by decide)

end Device

end MatterSwitch
