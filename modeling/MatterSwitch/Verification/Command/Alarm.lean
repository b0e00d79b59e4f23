import MatterSwitch.Verification.Command.Equations

/-! # What is handed to the timer

The alarm reloads to zero, so the timer refuses an alarm at zero. `set_power` hands over
the interval that an earlier `set_brightness` has left, which is zero at full level, or the
zero of static storage when there was none. The build is the one without fading. -/

namespace MatterSwitch

open SliderDriver Transition

theorem matterLevel_eq_hundred_iff (v : UInt8) : matterLevel v = 100 ↔ 254 ≤ v := by
  have hlt := v.toNat_lt
  have hv := remap_toNat v
  rw [UInt8.le_iff_toNat_le, matterLevel, normLevel]
  change _ ↔ 254 ≤ v.toNat
  constructor
  · intro h
    split at h
    · exact absurd h (by decide)
    · rw [h] at hv
      change 100 = _ at hv
      omega
  · intro h
    have h100 : (UInt8.ofNat (v.toNat * 100 / 254)) = 100 := by
      apply UInt8.toNat_inj.mp
      change _ = 100
      omega
    rw [h100]
    rfl

/-- The interval is zero at full level only. -/
theorem firingDelay_pos_iff {level : UInt8} (h : ValidLevel level) :
    0 < firingDelay level ↔ level ≠ 100 := by
  rcases h with rfl | ⟨h2, h100⟩
  · decide
  · have hne : level ≠ 100 ↔ level.toNat ≠ 100 := not_congr UInt8.toNat_inj.symm
    rw [firingDelay_of_two_le h2 h100, hne]
    omega

/-- An alarm count that the timer takes, no later than the half-period. -/
def ValidCount (count : ℕ) : Prop := 0 < count ∧ (count : ℤ) ≤ maxInterval

instance (count : ℕ) : Decidable (ValidCount count) := inferInstanceAs (Decidable (_ ∧ _))

theorem validCount_ofInt_iff {i : ℤ} (h0 : 0 ≤ i) (h1 : i ≤ maxInterval) :
    ValidCount (UInt64.ofInt i).toNat ↔ 0 < i := by
  have hi := toNat_ofInt_interval h0 h1
  rw [ValidCount]
  omega

theorem Light.validCount_switchOn_iff {l : Light} (h : l.Timed) :
    ValidCount (l.setPower .noFade true).handed ↔ l.level ≠ 100 := by
  rw [Light.setPower_handed, if_pos rfl, validCount_ofInt_iff h.bounds.1 h.bounds.2,
    h.interval_eq, firingDelay_pos_iff h.level_valid]

theorem Light.validCount_switchOff (l : Light) :
    ValidCount (l.setPower .noFade false).handed := by
  rw [Light.setPower_handed, if_neg (by decide)]
  exact (validCount_ofInt_iff (i := maxInterval) (by decide) le_rfl).mpr (by decide)

namespace Device

/-- Every `alarm_count` handed to `gptimer_set_alarm_action`, the latest first. -/
def handedCounts (d : Device) : List ℕ :=
  d.slider.timerHandle.handed.map fun config => config.alarmCount.toNat

theorem handedCounts_setPower (cfg : Kconfig) (b : Bool) (d : Device) :
    ({ d with slider := (d.slider.setPower cfg b).1 } : Device).handedCounts =
      (d.light.setPower cfg b).handed :: d.handedCounts := by
  rw [Light.setPower_handed]
  cases b with
  | true => simp [handedCounts, SliderDriver.setPower_true, light]
  | false => simp [handedCounts, SliderDriver.setPower_false, setBrightness_eq, light, normLevel]

theorem handedCounts_onOff (cfg : Kconfig) (v : AttrVal) (d : Device) :
    (d.attributeUpdate cfg (onOffPath 1) v).handedCounts =
      (d.light.setPower cfg v.b).handed :: d.handedCounts :=
  handedCounts_setPower cfg v.b d

theorem handedCounts_attributeUpdate_of_ne (cfg : Kconfig) {path : AttrPath} (v : AttrVal)
    (d : Device) (h : path ≠ onOffPath 1) :
    (d.attributeUpdate cfg path v).handedCounts = d.handedCounts := by
  by_cases hc : path = currentLevelPath 1
  · rw [hc, attributeUpdate_currentLevel, setBrightness_eq]
    rfl
  · rw [attributeUpdate_other cfg v d h hc]
    rfl

/-- Every count handed over so far is valid. -/
def HandsValid (d : Device) : Prop := ∀ count ∈ d.handedCounts, ValidCount count

theorem handsValid_onOff_iff (v : AttrVal) (d : Device) :
    (d.attributeUpdate .noFade (onOffPath 1) v).HandsValid ↔
      ValidCount (d.light.setPower .noFade v.b).handed ∧ d.HandsValid := by
  rw [HandsValid, handedCounts_onOff, List.forall_mem_cons]
  exact Iff.rfl

/-! ## The first level -/

/-- A write that reaches `set_brightness`: a level, or switching off. -/
def SetsLevel (w : AttrPath × AttrVal) : Prop :=
  w.1 = currentLevelPath 1 ∨ w.1 = onOffPath 1 ∧ w.2.b = false

instance : DecidablePred SetsLevel := fun _ => inferInstanceAs (Decidable (_ ∨ _ ∧ _))

/-- A level has been set since power-up. -/
def Levelled (d : Device) : Prop := ∃ w ∈ d.matter.writes, SetsLevel w

instance (d : Device) : Decidable d.Levelled := inferInstanceAs (Decidable (∃ w ∈ _, SetsLevel w))

theorem levelled_attributeUpdate_iff (cfg : Kconfig) (path : AttrPath) (v : AttrVal)
    (d : Device) : (d.attributeUpdate cfg path v).Levelled ↔ SetsLevel (path, v) ∨ d.Levelled := by
  rw [Levelled, (attributeUpdate_recorded cfg path v d).writes, List.exists_mem_cons_iff]
  exact Iff.rfl

/-- The interval is the delay of the level, and before the first level it is zero. -/
structure Metered (d : Device) : Prop where
  timed : d.Levelled → d.light.Timed
  zero : ¬ d.Levelled → d.slider.interval = 0

/-- What `set_power` hands over is valid unless it switches on at full level or before the first
level. -/
theorem Metered.validCount_setPower_iff {d : Device} (h : Metered d) (b : Bool) :
    ValidCount (d.light.setPower .noFade b).handed ↔
      (b = true → d.Levelled ∧ d.slider.mLevel ≠ 100) := by
  cases b with
  | false => exact iff_of_true d.light.validCount_switchOff fun hb => Bool.noConfusion hb
  | true =>
      simp only [true_implies]
      by_cases hl : d.Levelled
      · rw [Light.validCount_switchOn_iff (h.timed hl), and_iff_right hl]
        exact Iff.rfl
      · refine iff_of_false ?_ fun hc => hl hc.1
        rw [Light.setPower_handed, if_pos rfl]
        change ¬ ValidCount (UInt64.ofInt d.slider.interval).toNat
        rw [h.zero hl]
        decide

theorem metered_attributeUpdate {d : Device} (h : Metered d) (path : AttrPath) (v : AttrVal) :
    Metered (d.attributeUpdate .noFade path v) := by
  have hl := levelled_attributeUpdate_iff .noFade path v d
  have hlight := light_attributeUpdate .noFade path v d
  by_cases hs : SetsLevel (path, v)
  · refine ⟨fun _ => ?_, fun hn => absurd (hl.mpr (.inl hs)) hn⟩
    rw [hlight]
    rcases hs with rfl | ⟨rfl, hb⟩
    · exact Light.timed_setLevel _ (matterLevel_valid v.u8)
    · rw [writeEvents_onOff, hb]
      exact ⟨.inl rfl, rfl⟩
  · -- neither the level nor the interval moves
    obtain ⟨hlevel, hinterval⟩ : (d.attributeUpdate .noFade path v).light.level = d.light.level ∧
        (d.attributeUpdate .noFade path v).light.interval = d.light.interval := by
      obtain ⟨hc, ho⟩ := not_or.mp hs
      rw [hlight, writeEvents, if_neg hc]
      split
      · rename_i hp
        rw [Bool.eq_true_of_not_eq_false fun hb => ho ⟨hp, hb⟩]
        exact ⟨rfl, rfl⟩
      · exact ⟨rfl, rfl⟩
    rw [or_iff_right hs] at hl
    refine ⟨fun hn => ?_, fun hn => hinterval.trans (h.zero fun hd => hn (hl.mpr hd))⟩
    have ht := h.timed (hl.mp hn)
    refine ⟨?_, ?_⟩
    · rw [hlevel]
      exact ht.level_valid
    · rw [hinterval, hlevel]
      exact ht.interval_eq

theorem handsValid_attributeUpdate_iff {d : Device} (h : Metered d) (path : AttrPath)
    (v : AttrVal) :
    (d.attributeUpdate .noFade path v).HandsValid ↔
      d.HandsValid ∧
        (path = onOffPath 1 → v.b = true → d.Levelled ∧ d.slider.mLevel ≠ 100) := by
  by_cases hp : path = onOffPath 1
  · rw [hp, handsValid_onOff_iff, h.validCount_setPower_iff, and_comm]
    simp only [true_implies]
  · rw [HandsValid, handedCounts_attributeUpdate_of_ne .noFade v d hp]
    simp [hp, HandsValid]

/-- The globals of `sliderTask` do not bear on the interval. -/
theorem Metered.assign {d : Device} (h : Metered d) (oldState isPressed : Bool)
    (oldLevel : UInt16) :
    Metered { d with oldState := oldState, isPressed := isPressed, oldLevel := oldLevel } :=
  ⟨fun hl => ⟨(h.timed hl).level_valid, (h.timed hl).interval_eq⟩, h.zero⟩

theorem metered_pressBlock {d : Device} (h : Metered d) : Metered (d.pressBlock .noFade) :=
  pressBlock_invariant .noFade (P := Metered) (fun path v _ h => metered_attributeUpdate h path v)
    (fun oldState d' h => h.assign oldState false d'.oldLevel) h

theorem handsValid_pressBlock_iff {d : Device} (h : Metered d) :
    (d.pressBlock .noFade).HandsValid ↔
      d.HandsValid ∧
        (d.isPressed = true → d.oldState = false → d.Levelled ∧ d.slider.mLevel ≠ 100) := by
  cases hp : d.isPressed with
  | true =>
      rw [pressBlock_of_pressed .noFade hp]
      change (d.attributeUpdate .noFade (onOffPath 1) (pressVal d.oldState)).HandsValid ↔ _
      rw [handsValid_attributeUpdate_iff h, pressVal_b]
      simp
  | false =>
      rw [pressBlock_of_not_pressed .noFade hp]
      simp

/-! ## Touches -/

/-- The level write of a touch hands nothing over. -/
theorem handsValid_touchLevel {d : Device} (inp : TaskInput) (level : UInt8) (old : UInt16) :
    ({ (d.sampled inp).attributeUpdate .noFade (currentLevelPath 1) (levelVal level) with
        oldLevel := old } : Device).HandsValid ↔ d.HandsValid := by
  have hne := (onOffPath_ne_currentLevelPath 1 1).symm
  have hc := handedCounts_attributeUpdate_of_ne .noFade (levelVal level) (d.sampled inp) hne
  constructor
  · intro hv count hm
    apply hv
    change count ∈ ((d.sampled inp).attributeUpdate .noFade _ _).handedCounts
    rw [hc]
    exact hm
  · intro hv count hm
    change count ∈ ((d.sampled inp).attributeUpdate .noFade _ _).handedCounts at hm
    rw [hc] at hm
    exact hv count hm

/-- A touch hands something over only where it lights the light, and that is invalid for
the top of the scale. -/
theorem handsValid_touchBlock_iff (inp : TaskInput) (d : Device) :
    (d.touchBlock .noFade inp).HandsValid ↔
      d.HandsValid ∧ (d.oldState = false → Relevels inp d →
        ¬ 254 ≤ touchValue d.slider.mPreviousLevel inp.touches) := by
  by_cases hr : Relevels inp d
  · rw [touchBlock_of_relevels .noFade hr]
    cases hs : d.oldState with
    | true =>
        have hl := handsValid_touchLevel (d := d) inp
          (touchValue d.slider.mPreviousLevel inp.touches)
          (touchValue d.slider.mPreviousLevel inp.touches).toUInt16
        simp only [if_true, Bool.true_eq_false, false_implies, and_true]
        exact hl
    | false =>
        let level := touchValue d.slider.mPreviousLevel inp.touches
        let e : Device :=
          { (d.sampled inp).attributeUpdate .noFade (currentLevelPath 1) (levelVal level) with
            oldLevel := level.toUInt16 }
        have hl : e.HandsValid ↔ d.HandsValid := handsValid_touchLevel inp level _
        have he : e.light = run (Light.step .noFade) d.light [.dim level, .remember level] :=
          light_touchLevel .noFade inp level d
        have ht : e.light.Timed := by
          rw [he]
          exact ⟨matterLevel_valid level, rfl⟩
        have hfull : e.light.level = 100 ↔ 254 ≤ level := by
          rw [he]
          exact matterLevel_eq_hundred_iff level
        have hon := handsValid_onOff_iff ((levelVal level).setB true) e
        rw [hl, AttrVal.setB_b, Light.validCount_switchOn_iff ht, ne_eq, hfull, and_comm] at hon
        simp only [true_implies, hr]
        exact hon
  · rw [and_iff_left fun _ h => absurd h hr]
    by_cases ha : TouchAccepted inp d
    · rw [touchBlock_of_same .noFade ha hr]
      exact Iff.rfl
    · rw [touchBlock_of_not_accepted .noFade ha]

theorem metered_touchBlock {d : Device} (h : Metered d) (inp : TaskInput) :
    Metered (d.touchBlock .noFade inp) :=
  touchBlock_invariant .noFade (P := Metered) (fun path v _ h => metered_attributeUpdate h path v)
    (fun oldState oldLevel d' h => h.assign oldState d'.isPressed oldLevel)
    ⟨h.timed, h.zero⟩ h

/-! ## Whole runs -/

/-- Nothing switches on at full level or before the first level: no `OnOff` write, no press, and
no touch that lights the light at the level it brings. -/
def BelowFull (d : Device) : BootStep → Prop
  | .command (.signal (.matterWrite path val)) =>
      path = onOffPath 1 → val.b = true → d.Levelled ∧ d.slider.mLevel ≠ 100
  | .command (.signal _) => True
  | .command (.sliderTask inp) =>
      (d.isPressed = true → d.oldState = false → d.Levelled ∧ d.slider.mLevel ≠ 100) ∧
        ((if d.isPressed then d.oldState = true else d.oldState = false) →
          TouchAccepted inp d →
          let level := touchValue
            (if d.isPressed then d.slider.mLevel else d.slider.mPreviousLevel) inp.touches
          level.toUInt16 ≠ d.oldLevel → ¬ 254 ≤ level)
  | .setDefault => True

theorem Metered.of_frame {d : Device} (h : Metered d) {slider : SliderDriver}
    (hf : HandlerFrame d.slider slider) : Metered { d with slider := slider } := by
  have hlight := light_of_frame hf
  refine ⟨fun hl => ?_, fun hl => (congrArg Light.interval hlight).trans (h.zero hl)⟩
  rw [hlight]
  exact h.timed hl

theorem metered_signal {d : Device} (h : Metered d) (e : Signal) :
    Metered (d.signal .noFade e) := by
  cases e with
  | matterWrite path val => exact metered_attributeUpdate h path val
  | buttonEdge tickNow =>
      rw [signal, buttonCb]
      split <;> exact ⟨h.timed, h.zero⟩
  | zeroCross => exact h.of_frame (gpioIsrHandler_frame d.slider)
  | timerAlarm => exact h.of_frame (onTimerAlarmCb_frame .noFade d.slider)

theorem handsValid_signal_iff {d : Device} (h : Metered d) (e : Signal) :
    (d.signal .noFade e).HandsValid ↔ d.HandsValid ∧ BelowFull d (.command (.signal e)) := by
  cases e with
  | matterWrite path val => exact handsValid_attributeUpdate_iff h path val
  | buttonEdge tickNow =>
      have hs : (d.buttonCb tickNow).slider = d.slider := by
        rw [buttonCb]
        split <;> rfl
      simp [signal, HandsValid, handedCounts, hs, BelowFull]
  | zeroCross =>
      have hf := (gpioIsrHandler_frame d.slider).handed
      simp [signal, HandsValid, handedCounts, hf, BelowFull]
  | timerAlarm =>
      have hf := (onTimerAlarmCb_frame .noFade d.slider).handed
      simp [signal, HandsValid, handedCounts, hf, BelowFull]

/-- A press and a touch of one iteration are judged by the level each of them commits. -/
theorem handsValid_sliderTask_iff {d : Device} (h : Metered d) (inp : TaskInput) :
    (d.sliderTask .noFade inp).HandsValid ↔
      d.HandsValid ∧ BelowFull d (.command (.sliderTask inp)) := by
  change ((d.pressBlock .noFade).touchBlock .noFade inp).HandsValid ↔ _
  rw [handsValid_touchBlock_iff, handsValid_pressBlock_iff h, and_assoc, BelowFull,
    relevels_pressBlock_iff, pressBlock_oldState, pressBlock_mPreviousLevel]
  cases d.isPressed <;> cases d.oldState <;> simp

/-- Start-up hands over the delay of the default level, twice. -/
theorem handedCounts_appDriverSetDefault (d : Device) :
    (d.appDriverSetDefault .noFade 1).1.handedCounts = 2499 :: 2499 :: d.handedCounts := by
  have hc := handedCounts_attributeUpdate_of_ne .noFade
    { d.matter.attrs (currentLevelPath 1) with u8 := defaultBrightness } d
    (onOffPath_ne_currentLevelPath 1 1).symm
  have hdelay : (UInt64.ofInt (firingDelay (matterLevel defaultBrightness))).toNat = 2499 := by
    decide
  have honce : ∀ l : Light, ((l.setLevel .noFade (matterLevel defaultBrightness)).setPower
      .noFade true).handed = 2499 := by
    intro l
    rw [Light.setPower_handed, if_pos rfl]
    exact hdelay
  have htwice : ∀ l : Light, (((l.setLevel .noFade (matterLevel defaultBrightness)).step
      .noFade (.power true)).setPower .noFade true).handed = 2499 := by
    intro l
    rw [Light.setPower_handed, if_pos rfl]
    exact hdelay
  rw [appDriverSetDefault]
  simp only [appDriverLightSetPower, AttrVal.setB_b, defaultPower]
  rw [handedCounts_setPower, handedCounts_onOff, AttrVal.setB_b, light_attributeUpdate,
    light_appDriverLightSetBrightness, writeEvents_onOff, AttrVal.setB_b, run_cons, run_nil,
    honce, htwice, ← hc]
  simp [appDriverLightSetBrightness, handedCounts, setBrightness_eq]

theorem levelled_setDefault (d : Device) : (d.appDriverSetDefault .noFade 1).1.Levelled := by
  have hlevel := (levelled_attributeUpdate_iff .noFade (currentLevelPath 1)
    { d.matter.attrs (currentLevelPath 1) with u8 := defaultBrightness } d).mpr (.inl (.inl rfl))
  exact (levelled_attributeUpdate_iff .noFade (onOffPath 1) _ _).mpr (.inr hlevel)

theorem levelled_attributeUpdate {d : Device} (h : d.Levelled) (path : AttrPath) (v : AttrVal) :
    (d.attributeUpdate .noFade path v).Levelled :=
  (levelled_attributeUpdate_iff .noFade path v d).mpr (.inr h)

/-- Writes are not forgotten. -/
theorem levelled_bootStep {d : Device} (h : d.Levelled) (b : BootStep) :
    (d.bootStep .noFade b).Levelled := by
  cases b with
  | setDefault => exact levelled_setDefault d
  | command c =>
      cases c with
      | signal e =>
          cases e with
          | matterWrite path val => exact levelled_attributeUpdate h path val
          | buttonEdge tickNow =>
              rw [bootStep, command, signal, buttonCb]
              split <;> exact h
          | zeroCross => exact h
          | timerAlarm => exact h
      | sliderTask inp =>
          have hwrite : ∀ path v (d : Device), d.Levelled →
              (d.attributeUpdate .noFade path v).Levelled :=
            fun path v _ h => levelled_attributeUpdate h path v
          have hpress : (d.pressBlock .noFade).Levelled :=
            pressBlock_invariant .noFade (P := Levelled) hwrite (fun _ _ h => h) h
          exact touchBlock_invariant .noFade (P := Levelled) hwrite (fun _ _ _ h => h) hpress hpress

theorem metered_bootStep {d : Device} (h : Metered d) (b : BootStep) :
    Metered (d.bootStep .noFade b) := by
  cases b with
  | command c =>
      cases c with
      | signal e => exact metered_signal h e
      | sliderTask inp =>
          have ht := metered_touchBlock (metered_pressBlock h) inp
          exact ⟨ht.timed, ht.zero⟩
  | setDefault =>
      exact ⟨fun _ => (wellFormed_appDriverSetDefault d).timed,
        fun hn => absurd (levelled_setDefault d) hn⟩

theorem handsValid_bootStep_iff {d : Device} (h : Metered d) (b : BootStep) :
    (d.bootStep .noFade b).HandsValid ↔ d.HandsValid ∧ BelowFull d b := by
  cases b with
  | command c =>
      cases c with
      | signal e => exact handsValid_signal_iff h e
      | sliderTask inp => exact handsValid_sliderTask_iff h inp
  | setDefault =>
      have hdelay : ValidCount 2499 := by decide
      rw [bootStep, HandsValid, handedCounts_appDriverSetDefault, List.forall_mem_cons,
        List.forall_mem_cons]
      simp [hdelay, HandsValid, BelowFull]

/-- From power-up, with `app_driver_set_default(1)` at any point, every count handed to the timer
is valid exactly along the runs that never switch on at full level or before the first level;
and after `app_driver_set_default(1)` the first level is behind. -/
theorem alarm_counts_valid_iff (leds : LedDriver) (attrs : AttrPath → AttrVal)
    (bs : List BootStep) :
    ((∀ count ∈ (run (Device.bootStep .noFade) (boot leds attrs) bs).handedCounts,
      0 < count ∧ (count : ℤ) ≤ maxInterval) ↔
      Along (Device.bootStep .noFade) BelowFull (boot leds attrs) bs) ∧
      (.setDefault ∈ bs → (run (Device.bootStep .noFade) (boot leds attrs) bs).Levelled) := by
  have hs : (boot leds attrs).HandsValid := by
    change ∀ count ∈ [4166], ValidCount count
    decide
  have hm : (boot leds attrs).Metered :=
    ⟨fun hl => absurd hl (by simp [Levelled, boot]), fun _ => rfl⟩
  have hrun := run_iff_along (Device.bootStep .noFade) Metered HandsValid
    (fun _ b hm => metered_bootStep hm b) (fun _ b hm => handsValid_bootStep_iff hm b) hm bs
  exact ⟨hrun.trans (and_iff_right hs), fun hd =>
    run_of_mem (Device.bootStep .noFade) Levelled (e := .setDefault) levelled_setDefault
      (fun _ b hl => levelled_bootStep hl b) hd _⟩

/-- Full level and then on: the timer is handed a zero. -/
theorem full_level_hands_zero :
    ¬ ∀ count ∈ (run (Device.bootStep .noFade) cold
        [.setDefault, .command (.signal (.matterWrite (currentLevelPath 1) ⟨8, 254⟩)),
          .command (.signal (.matterWrite (onOffPath 1) ⟨1, 1⟩))]).handedCounts,
      0 < count ∧ (count : ℤ) ≤ maxInterval :=
  fun h => absurd (h 0 (by decide)).1 (by decide)

end Device

end MatterSwitch
