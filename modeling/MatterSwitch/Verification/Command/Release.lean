import MatterSwitch.Transition.Ranking
import MatterSwitch.Verification.Command.Leds
import MatterSwitch.Verification.Command.Touch

/-! # Releases die out

A release can write the saved level back as a new one, which saves the level before it, so
that the next release writes again. Each level written is the percentage of the one written
two releases before, on a scale of 254, and so the writes end. -/

namespace MatterSwitch

open SliderDriver Transition

namespace Device

/-! ## Rescaling a level down to zero -/

/-- How often a level is rescaled before it is zero. -/
def rescales (v : UInt8) : ℕ :=
  if v.toNat = 0 then 0 else if v.toNat ≤ 5 then 1 else if v.toNat ≤ 15 then 2
  else if v.toNat ≤ 40 then 3 else if v.toNat ≤ 104 then 4 else 5

theorem rescales_le_of_le {v : UInt8} (h : v.toNat ≤ 100) : rescales v ≤ 4 := by
  unfold rescales
  split_ifs <;> omega

theorem rescales_pos_iff (v : UInt8) : 0 < rescales v ↔ v ≠ 0 := by
  have h0 : v ≠ 0 ↔ v.toNat ≠ 0 := not_congr UInt8.toNat_inj.symm
  rw [h0]
  unfold rescales
  split_ifs <;> omega

/-- Rescaling gets one step closer to zero. -/
theorem rescales_matterLevel (v : UInt8) : rescales (matterLevel v) ≤ rescales v - 1 := by
  have hlt := v.toNat_lt
  by_cases h5 : v ≤ 5
  · rw [(matterLevel_eq_zero_iff v).mpr h5]
    exact Nat.zero_le _
  · have hle := matterLevel_toNat_le v
    have h5' : 5 < v.toNat := by
      rw [UInt8.le_iff_toNat_le] at h5
      exact not_le.mp h5
    unfold rescales
    split_ifs <;> omega

/-! ## What one release can do -/

/-- Nobody presses, touches or sends the light a command: electrodes are only let go, and
edges of the button are bounces. -/
def Untouched (d : Device) : Command → Prop
  | .signal (.matterWrite path _) => path ≠ onOffPath 1 ∧ path ≠ currentLevelPath 1
  | .signal (.buttonEdge tickNow) => ¬ tickNow - d.oldTickBtn > debounceTime
  | .signal _ => True
  | .sliderTask inp => inp.touches = 0

instance (d : Device) : (c : Command) → Decidable (Untouched d c)
  | .signal (.matterWrite _ _) => inferInstanceAs (Decidable (_ ∧ _))
  | .signal (.buttonEdge _) => inferInstanceAs (Decidable (¬ _))
  | .signal .zeroCross => isTrue trivial
  | .signal .timerAlarm => isTrue trivial
  | .sliderTask _ => inferInstanceAs (Decidable (_ = _))

/-- The level writes still to come from a saved level, a driver level and `old_level`. -/
def releases (saved level : UInt8) (oldLevel : UInt16) : ℕ :=
  if saved.toUInt16 = oldLevel then 0
  else max (2 * rescales saved) (2 * rescales level + 1)

/-- A release that writes leaves fewer to come. -/
theorem releases_lt {saved : UInt8} (level : UInt8) {oldLevel : UInt16}
    (h : saved.toUInt16 ≠ oldLevel) :
    releases level (matterLevel saved) saved.toUInt16 < releases saved level oldLevel := by
  have hm := rescales_matterLevel saved
  rw [releases, releases, if_neg h]
  split
  · omega
  · rename_i hne
    have hs := rescales_pos_iff saved
    have hl := rescales_pos_iff level
    by_cases h0 : saved = 0
    · have hl0 : level ≠ 0 := by
        rintro rfl
        exact hne (by rw [h0])
      have := hl.mpr hl0
      omega
    · have := hs.mpr h0
      omega

/-- The writes to the two attributes of the light. -/
def lightWrites (d : Device) : ℕ :=
  d.matter.writes.countP fun w => w.1 = onOffPath 1 || w.1 = currentLevelPath 1

/-- The writes made and those still to come: a first one may also switch the light on. -/
def writesDue (d : Device) : ℕ :=
  d.lightWrites + releases d.slider.mPreviousLevel d.slider.mLevel d.oldLevel +
    if d.oldState then 0 else 1

theorem lightWrites_touchBlock (cfg : Kconfig) (inp : TaskInput) (d : Device) :
    (d.touchBlock cfg inp).lightWrites =
      d.lightWrites + if Relevels inp d then (if d.oldState then 1 else 2) else 0 := by
  by_cases hr : Relevels inp d
  · rw [touchBlock_of_relevels cfg hr, if_pos hr]
    cases hs : d.oldState with
    | true => simp [lightWrites, attributeUpdate_currentLevel, sampled]
    | false => simp [lightWrites, attributeUpdate_currentLevel, attributeUpdate_onOff, sampled]
  · rw [if_neg hr, lightWrites, touchBlock_writes_of_not_relevels cfg hr]
    rfl

/-- An iteration that writes a level pays for it with the ones to come. -/
theorem writesDue_touchBlock (cfg : Kconfig) {inp : TaskInput} (h0 : inp.touches = 0)
    (d : Device) : (d.touchBlock cfg inp).writesDue ≤ d.writesDue := by
  have hv : touchValue d.slider.mPreviousLevel inp.touches = d.slider.mPreviousLevel := by
    rw [touchValue, if_pos h0]
  rw [writesDue, lightWrites_touchBlock, touchBlock_mPreviousLevel, touchBlock_mLevel,
    touchBlock_oldLevel, touchBlock_oldState, hv, writesDue]
  by_cases hr : Relevels inp d
  · have hne := hr.2
    rw [hv] at hne
    have hlt := releases_lt d.slider.mLevel hne
    simp only [hr, if_true]
    cases d.oldState with
    | true =>
        simp only [if_true]
        omega
    | false =>
        simp only [Bool.false_eq_true, if_false]
        omega
  · simp only [hr, if_false, ite_self]
    exact le_rfl

theorem touchBlock_isPressed (cfg : Kconfig) (inp : TaskInput) (d : Device) :
    (d.touchBlock cfg inp).isPressed = d.isPressed :=
  touchBlock_invariant cfg (P := fun d' => d'.isPressed = d.isPressed)
    (fun path val d' h => (attributeUpdate_recorded cfg path val d').isPressed.trans h)
    (fun _ _ _ h => h) rfl rfl

theorem writesDue_ledBlock (d : Device) : d.ledBlock.writesDue = d.writesDue := rfl

/-- Without presses, touches and commands the writes due never grow, and no press appears. -/
theorem writesDue_command (cfg : Kconfig) {d : Device} (hp : d.isPressed = false) {c : Command}
    (hc : Untouched d c) :
    (d.command cfg c).isPressed = false ∧ (d.command cfg c).writesDue ≤ d.writesDue := by
  cases c with
  | signal e =>
      cases e with
      | matterWrite path val =>
          obtain ⟨ho, hl⟩ := hc
          rw [command, signal, attributeUpdate_other cfg val d ho hl]
          refine ⟨hp, ?_⟩
          simp [writesDue, lightWrites, ho, hl]
      | buttonEdge tickNow =>
          have hb : d.buttonCb tickNow = { d with oldTickBtn := tickNow } := by
            rw [buttonCb, if_neg hc]
          rw [command, signal, hb]
          exact ⟨hp, le_rfl⟩
      | zeroCross =>
          refine ⟨hp, ?_⟩
          have hf := gpioIsrHandler_frame d.slider
          simp only [command, signal, writesDue, lightWrites, hf.mPreviousLevel, hf.mLevel]
          exact le_rfl
      | timerAlarm =>
          refine ⟨hp, ?_⟩
          have hf := onTimerAlarmCb_frame cfg d.slider
          simp only [command, signal, writesDue, lightWrites, hf.mPreviousLevel, hf.mLevel]
          exact le_rfl
  | sliderTask inp =>
      have hpress := pressBlock_of_not_pressed cfg hp
      have hle := writesDue_touchBlock cfg hc d
      have hkeep := touchBlock_isPressed cfg inp d
      refine ⟨?_, ?_⟩
      · change ((d.pressBlock cfg).touchBlock cfg inp).isPressed = false
        rw [hpress, hkeep, hp]
      · rw [command, sliderTask, writesDue_ledBlock, hpress]
        exact hle

/-! ## The saved level -/

/-- At most `set_brightness` saves a level, and that is the driver level before. -/
def Saves (d d' : Device) : Prop :=
  d'.slider.mPreviousLevel = d.slider.mPreviousLevel ∧ d'.oldLevel = d.oldLevel ∨
    d'.slider.mPreviousLevel = d.slider.mLevel

theorem saves_appDriverLightSetPower (cfg : Kconfig) (val : AttrVal) (d : Device) :
    Saves d (d.appDriverLightSetPower cfg val).1 := by
  rw [appDriverLightSetPower]
  cases val.b with
  | true => exact .inl ⟨rfl, rfl⟩
  | false =>
      right
      simp only [SliderDriver.setPower_false, setBrightness_eq, commitInterval_frame]

theorem saves_appDriverLightSetBrightness (cfg : Kconfig) (val : AttrVal) (d : Device) :
    Saves d (d.appDriverLightSetBrightness cfg val).1 := by
  right
  simp only [appDriverLightSetBrightness, setBrightness_eq]

theorem saves_attributeUpdate (cfg : Kconfig) (path : AttrPath) (val : AttrVal) (d : Device) :
    Saves d (d.attributeUpdate cfg path val) := by
  by_cases ho : path = onOffPath 1
  · rw [ho, attributeUpdate_onOff]
    exact saves_appDriverLightSetPower cfg val d
  · by_cases hc : path = currentLevelPath 1
    · rw [hc, attributeUpdate_currentLevel, setBrightness_eq]
      exact .inr rfl
    · rw [attributeUpdate_other cfg val d ho hc]
      exact .inl ⟨rfl, rfl⟩

theorem saves_signal (cfg : Kconfig) (d : Device) (e : Signal) : Saves d (d.signal cfg e) := by
  cases e with
  | matterWrite path val => exact saves_attributeUpdate cfg path val d
  | buttonEdge tickNow =>
      left
      rw [signal, buttonCb]
      split <;> exact ⟨rfl, rfl⟩
  | zeroCross => exact .inl ⟨(gpioIsrHandler_frame d.slider).mPreviousLevel, rfl⟩
  | timerAlarm => exact .inl ⟨(onTimerAlarmCb_frame cfg d.slider).mPreviousLevel, rfl⟩

/-- The saved level is a percentage, or the value that `old_level` remembers. -/
def SavedLow (d : Device) : Prop :=
  d.slider.mPreviousLevel.toNat ≤ 100 ∨ d.slider.mPreviousLevel.toUInt16 = d.oldLevel

theorem SavedLow.of_saves {d d' : Device} (hv : ValidLevel d.slider.mLevel) (h : d.SavedLow)
    (hs : Saves d d') : d'.SavedLow := by
  rcases hs with ⟨hp, ho⟩ | hp
  · rw [SavedLow, hp, ho]
    exact h
  · left
    rw [hp]
    exact hv.le

/-! ## From power-up -/

theorem savedLow_pressBlock (cfg : Kconfig) {d : Device} (hv : ValidLevel d.slider.mLevel)
    (h : d.SavedLow) : (d.pressBlock cfg).SavedLow := by
  cases hp : d.isPressed with
  | true =>
      rw [pressBlock_of_pressed cfg hp]
      exact SavedLow.of_saves hv h (saves_attributeUpdate cfg (onOffPath 1) _ d)
  | false =>
      rw [pressBlock_of_not_pressed cfg hp]
      exact h

/-- An accepted touch that writes nothing saves the remembered value. -/
theorem savedLow_touchBlock (cfg : Kconfig) (inp : TaskInput) {d : Device}
    (hv : ValidLevel d.slider.mLevel) (h : d.SavedLow) : (d.touchBlock cfg inp).SavedLow := by
  have hle := hv.le
  rw [SavedLow, touchBlock_mPreviousLevel, touchBlock_oldLevel]
  by_cases hr : Relevels inp d
  · simp only [hr, if_true]
    exact .inl hle
  · simp only [hr, if_false]
    by_cases ha : TouchAccepted inp d
    · rw [if_pos ha]
      right
      by_contra hne
      exact hr ⟨ha, hne⟩
    · rw [if_neg ha]
      exact h

theorem validLevel_pressBlock (cfg : Kconfig) {d : Device} (hv : ValidLevel d.slider.mLevel) :
    ValidLevel (d.pressBlock cfg).slider.mLevel := by
  rw [pressBlock_mLevel]
  split
  · exact .inl rfl
  · exact hv

theorem validLevel_attributeUpdate (cfg : Kconfig) (path : AttrPath) (val : AttrVal)
    {d : Device} (hv : ValidLevel d.slider.mLevel) :
    ValidLevel (d.attributeUpdate cfg path val).slider.mLevel := by
  change ValidLevel (d.attributeUpdate cfg path val).light.level
  rw [light_attributeUpdate]
  exact Light.validLevel_run cfg hv _

theorem savedLow_appDriverSetDefault (cfg : Kconfig) {d : Device}
    (hv : ValidLevel d.slider.mLevel) (h : d.SavedLow) :
    (d.appDriverSetDefault cfg 1).1.SavedLow := by
  let val : AttrVal := { d.matter.attrs (currentLevelPath 1) with u8 := defaultBrightness }
  let d₁ := d.attributeUpdate cfg (currentLevelPath 1) val
  let d₂ := (d₁.appDriverLightSetBrightness cfg val).1
  let power := (d₂.matter.attrs (onOffPath 1)).setB defaultPower
  let d₃ := d₂.attributeUpdate cfg (onOffPath 1) power
  have hv₁ : ValidLevel d₁.slider.mLevel := validLevel_attributeUpdate cfg _ val hv
  have hv₂ : ValidLevel d₂.slider.mLevel := by
    change ValidLevel (d₁.appDriverLightSetBrightness cfg val).1.light.level
    rw [light_appDriverLightSetBrightness]
    exact matterLevel_valid val.u8
  have hv₃ : ValidLevel d₃.slider.mLevel := validLevel_attributeUpdate cfg _ power hv₂
  have h₁ : d₁.SavedLow := h.of_saves hv (saves_attributeUpdate cfg _ val d)
  have h₂ : d₂.SavedLow := h₁.of_saves hv₁ (saves_appDriverLightSetBrightness cfg val d₁)
  have h₃ : d₃.SavedLow := h₂.of_saves hv₂ (saves_attributeUpdate cfg _ power d₂)
  exact h₃.of_saves hv₃ (saves_appDriverLightSetPower cfg power d₃)

theorem savedLow_ledBlock (d : Device) : d.ledBlock.SavedLow ↔ d.SavedLow := Iff.rfl

theorem savedLow_bootStep (cfg : Kconfig) {d : Device} (hv : ValidLevel d.slider.mLevel)
    (h : d.SavedLow) (b : BootStep) : (d.bootStep cfg b).SavedLow := by
  cases b with
  | setDefault => exact savedLow_appDriverSetDefault cfg hv h
  | command c =>
      cases c with
      | sliderTask inp =>
          rw [bootStep, command, sliderTask, savedLow_ledBlock]
          exact savedLow_touchBlock cfg inp (validLevel_pressBlock cfg hv)
            (savedLow_pressBlock cfg hv h)
      | signal e => exact h.of_saves hv (saves_signal cfg d e)

/-- From power-up at most nine level writes are due at any time. -/
theorem releases_le {d : Device} (hv : ValidLevel d.slider.mLevel) (h : d.SavedLow) :
    releases d.slider.mPreviousLevel d.slider.mLevel d.oldLevel ≤ 9 := by
  have hl := rescales_le_of_le hv.le
  rw [releases]
  split
  · exact Nat.zero_le _
  · rename_i hne
    have hs := rescales_le_of_le (h.resolve_right hne)
    omega

theorem lightWrites_run_le (cfg : Kconfig) {d : Device} (hv : ValidLevel d.slider.mLevel)
    (hs : d.SavedLow) (hp : d.isPressed = false) {cs : List Command}
    (hc : Along (Device.command cfg) Untouched d cs) :
    (run (Device.command cfg) d cs).lightWrites ≤ d.lightWrites + 10 := by
  have hnine := releases_le hv hs
  have hrun := potential_run_le (Device.command cfg) (fun d => d.isPressed = false) writesDue
    (fun _ _ hp hc => (writesDue_command cfg hp hc).1)
    (fun _ _ hp hc => (writesDue_command cfg hp hc).2) hp hc
  simp only [writesDue] at hrun
  split at hrun <;> split at hrun <;> omega

/-- From any state that power-up leads to: while nobody presses, touches or sends commands,
releases however many write at most nine levels, and once the power. -/
theorem releases_die_out (cfg : Kconfig) (leds : LedDriver) (attrs : AttrPath → AttrVal)
    (bs : List BootStep) {cs : List Command}
    (hp : (run (Device.bootStep cfg) (boot leds attrs) bs).isPressed = false)
    (hc : Along (Device.command cfg) Untouched
      (run (Device.bootStep cfg) (boot leds attrs) bs) cs) :
    (run (Device.command cfg) (run (Device.bootStep cfg) (boot leds attrs) bs) cs).lightWrites ≤
      (run (Device.bootStep cfg) (boot leds attrs) bs).lightWrites + 10 := by
  have hinv := run_invariant (Device.bootStep cfg)
    (fun d => ValidLevel d.slider.mLevel ∧ d.SavedLow)
    (fun _ b h => ⟨validLevel_bootStep cfg h.1 b, savedLow_bootStep cfg h.1 h.2 b⟩)
    (s := boot leds attrs) ⟨.inl rfl, .inl (Nat.zero_le _)⟩ bs
  exact lightWrites_run_le cfg hinv.1 hinv.2 hp hc

/-- Releases after start-up, too close to each other for the debounce test or not. -/
theorem releases_die_out_after_start_up :
    (run (Device.command .noFade)
        (run (Device.bootStep .noFade) cold [.setDefault])
        [.sliderTask ⟨true, 100, 0⟩, .sliderTask ⟨true, 110, 0⟩, .sliderTask ⟨true, 200, 0⟩,
          .signal (.buttonEdge 250), .sliderTask ⟨true, 300, 0⟩]).lightWrites ≤
      (run (Device.bootStep .noFade) cold [.setDefault]).lightWrites + 10 :=
  releases_die_out .noFade _ _ [.setDefault] (by decide) (by decide)

-- Off by a press, dimmed remotely while off: nine levels and the power are written.
example :
    let d := run (Device.bootStep .noFade) cold
      [.setDefault, .command (.signal (.buttonEdge 1000)), .command (.sliderTask ⟨false, 1000, 0⟩),
        .command (.signal (.matterWrite (currentLevelPath 1) ⟨2, 180⟩))]
    (run (Device.command .noFade) d ((List.range 12).map fun n =>
        .sliderTask ⟨true, UInt32.ofNat (1100 + 100 * n), 0⟩)).lightWrites =
      d.lightWrites + 10 := by
  decide +kernel

end Device

end MatterSwitch
