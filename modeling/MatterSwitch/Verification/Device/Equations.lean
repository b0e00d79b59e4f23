import MatterSwitch.Model.Scheduler
import MatterSwitch.Verification.Slider.Equations

/-! # Computation rules for the device -/

namespace MatterSwitch

open SliderDriver

/-! ## Attribute values -/

@[simp] theorem AttrVal.setB_b (b : Bool) (v : AttrVal) : (v.setB b).b = b := by
  cases b <;> rfl

theorem onOffPath_ne_currentLevelPath (e e' : UInt16) : onOffPath e ≠ currentLevelPath e' := by
  simp [onOffPath, currentLevelPath, OnOff.id, LevelControl.id]

/-- The driver level of a `CurrentLevel` value. -/
def matterLevel (v : UInt8) : UInt8 := normLevel (UInt8.ofNat (v.toNat * 100 / 254))

theorem remap_toNat (v : UInt8) :
    (UInt8.ofNat (v.toNat * 100 / 254)).toNat = v.toNat * 100 / 254 := by
  have hv := v.toNat_lt
  simp only [UInt8.toNat_ofNat']
  omega

theorem matterLevel_valid (v : UInt8) : ValidLevel (matterLevel v) := by
  apply validLevel_normLevel
  have hv := v.toNat_lt
  rw [remap_toNat]
  omega

/-- The attribute values that drive the light at its lowest level. -/
theorem matterLevel_eq_zero_iff (v : UInt8) : matterLevel v = 0 ↔ v ≤ 5 := by
  rw [UInt8.le_iff_toNat_le, matterLevel, normLevel]
  have hv := remap_toNat v
  constructor
  · intro h
    split at h
    · rename_i h1
      rw [h1] at hv
      change 1 = _ at hv
      change v.toNat ≤ 5
      omega
    · rw [h] at hv
      change 0 = _ at hv
      change v.toNat ≤ 5
      omega
  · intro h
    change v.toNat ≤ 5 at h
    split
    · rfl
    · rename_i h1
      have hne : (UInt8.ofNat (v.toNat * 100 / 254)).toNat ≠ 1 :=
        fun he => h1 (UInt8.toNat_inj.mp he)
      apply UInt8.toNat_inj.mp
      change _ = 0
      omega

theorem matterLevel_toNat_le (v : UInt8) : (matterLevel v).toNat ≤ v.toNat * 100 / 254 := by
  have hv := remap_toNat v
  rw [matterLevel, normLevel]
  split
  · exact Nat.zero_le _
  · exact hv.le

/-- On the two scales only zero is the same. -/
theorem matterLevel_eq_self_iff (v : UInt8) : matterLevel v = v ↔ v = 0 := by
  constructor
  · intro h
    have hle := matterLevel_toNat_le v
    rw [h] at hle
    apply UInt8.toNat_inj.mp
    change v.toNat = 0
    omega
  · rintro rfl
    rfl

namespace Device

/-! ## Attribute updates -/

theorem attributeUpdate_onOff (cfg : Kconfig) (v : AttrVal) (d : Device) :
    d.attributeUpdate cfg (onOffPath 1) v =
      { d with
        relay := v.b
        slider := (d.slider.setPower cfg v.b).1
        matter :=
          { attrs := Function.update d.matter.attrs (onOffPath 1) v
            writes := (onOffPath 1, v) :: d.matter.writes } } := rfl

theorem attributeUpdate_currentLevel (cfg : Kconfig) (v : AttrVal) (d : Device) :
    d.attributeUpdate cfg (currentLevelPath 1) v =
      { d with
        slider := (d.slider.setBrightness cfg (UInt8.ofNat (v.u8.toNat * 100 / 254))).1
        oldLevel := v.u8.toUInt16
        matter :=
          { attrs := Function.update d.matter.attrs (currentLevelPath 1) v
            writes := (currentLevelPath 1, v) :: d.matter.writes } } := rfl

/-- Every other attribute is stored without any effect on the drivers. -/
theorem appDriverAttributeUpdate_other (cfg : Kconfig) {path : AttrPath} (v : AttrVal)
    (d : Device) (hp : path ≠ onOffPath 1) (hc : path ≠ currentLevelPath 1) :
    d.appDriverAttributeUpdate cfg path v = (d, .ok) := by
  obtain ⟨endpointId, clusterId, attributeId⟩ := path
  simp only [onOffPath, currentLevelPath, ne_eq, AttrPath.mk.injEq, not_and] at hp hc
  unfold appDriverAttributeUpdate
  split
  · rename_i h1
    split
    · rename_i h2
      rw [if_neg (hp h1 h2)]
    · split
      · rename_i h3
        rw [if_neg (hc h1 h3)]
      · rfl
  · rfl

theorem attributeUpdate_other (cfg : Kconfig) {path : AttrPath} (v : AttrVal) (d : Device)
    (hp : path ≠ onOffPath 1) (hc : path ≠ currentLevelPath 1) :
    d.attributeUpdate cfg path v =
      { d with matter :=
        { attrs := Function.update d.matter.attrs path v
          writes := (path, v) :: d.matter.writes } } := by
  simp [attributeUpdate, appAttributeUpdateCb, appDriverAttributeUpdate_other cfg v _ hp hc]

/-- An attribute write is recorded, and the globals of the button, of the slider and of
`sliderTask` stay, `old_level` apart. -/
structure Recorded (path : AttrPath) (val : AttrVal) (d d' : Device) : Prop where
  writes : d'.matter.writes = (path, val) :: d.matter.writes
  isPressed : d'.isPressed = d.isPressed
  oldState : d'.oldState = d.oldState
  level : d'.level = d.level
  oldTickBtn : d'.oldTickBtn = d.oldTickBtn
  oldTickTouch : d'.oldTickTouch = d.oldTickTouch

theorem attributeUpdate_recorded (cfg : Kconfig) (path : AttrPath) (val : AttrVal)
    (d : Device) : Recorded path val d (d.attributeUpdate cfg path val) := by
  by_cases hp : path = onOffPath 1
  · rw [hp, attributeUpdate_onOff]
    exact ⟨rfl, rfl, rfl, rfl, rfl, rfl⟩
  · by_cases hc : path = currentLevelPath 1
    · rw [hc, attributeUpdate_currentLevel]
      exact ⟨rfl, rfl, rfl, rfl, rfl, rfl⟩
    · rw [attributeUpdate_other cfg val d hp hc]
      exact ⟨rfl, rfl, rfl, rfl, rfl, rfl⟩

/-- A callback of another type, or for another attribute, succeeds and does nothing. -/
theorem appAttributeUpdateCb_other (cfg : Kconfig) {type : CallbackType} {path : AttrPath}
    (val : AttrVal) (d : Device)
    (h : type ≠ .preUpdate ∨ path ≠ onOffPath 1 ∧ path ≠ currentLevelPath 1) :
    d.appAttributeUpdateCb cfg type path val = (d, .ok) := by
  rw [appAttributeUpdateCb]
  by_cases ht : type = .preUpdate
  · obtain ⟨hp, hc⟩ := h.resolve_left (not_not_intro ht)
    rw [if_pos ht, appDriverAttributeUpdate_other cfg val d hp hc]
  · rw [if_neg ht]

/-! ## The globals of `sliderTask` -/

/-- `old_state` and `level` stay. -/
structure GlobalsKept (d d' : Device) : Prop where
  oldState : d'.oldState = d.oldState
  level : d'.level = d.level

theorem globalsKept_attributeUpdate (cfg : Kconfig) (path : AttrPath) (val : AttrVal)
    (d : Device) : GlobalsKept d (d.attributeUpdate cfg path val) := by
  have h := attributeUpdate_recorded cfg path val d
  exact ⟨h.oldState, h.level⟩

theorem globalsKept_signal (cfg : Kconfig) (d : Device) (e : Signal) :
    GlobalsKept d (d.signal cfg e) := by
  cases e with
  | matterWrite path val => exact globalsKept_attributeUpdate cfg path val d
  | buttonEdge tickNow =>
      rw [signal, buttonCb]
      split <;> exact ⟨rfl, rfl⟩
  | zeroCross => exact ⟨rfl, rfl⟩
  | timerAlarm => exact ⟨rfl, rfl⟩

theorem globalsKept_mainStmt (cfg : Kconfig) (d : Device) (pc : MainPc) :
    GlobalsKept d (d.mainStmt cfg pc).1 := by
  cases pc with
  | updateLevel val => exact globalsKept_attributeUpdate cfg (currentLevelPath 1) val d
  | updatePower val => exact globalsKept_attributeUpdate cfg (onOffPath 1) val d
  | _ => exact ⟨rfl, rfl⟩

end Device

/-! ## The order of the statements -/

/-- The statements of `sliderTask` that may follow each other. -/
inductive SliderPc.Next : SliderPc → SliderPc → Prop where
  | pressed : Next .testPressed .chooseValue
  | notPressed : Next .testPressed .testTouches
  | valueChosen (attrVal : AttrVal) : Next .chooseValue (.updateOnOff attrVal)
  | onOffUpdated (attrVal : AttrVal) : Next (.updateOnOff attrVal) .invertState
  | stateInverted : Next .invertState .clearPressed
  | pressedCleared : Next .clearPressed .testTouches
  | touched : Next .testTouches .readTick
  | notTouched : Next .testTouches .setFrontLed
  | tickRead (tickNow : UInt32) : Next .readTick (.testTick tickNow)
  | accepted (tickNow : UInt32) : Next (.testTick tickNow) (.stampTick tickNow)
  | refused (tickNow : UInt32) : Next (.testTick tickNow) .setFrontLed
  | tickStamped (tickNow : UInt32) : Next (.stampTick tickNow) .updateTouchStatus
  | statusUpdated : Next .updateTouchStatus .readLevel
  | levelRead : Next .readLevel .testLevel
  | otherLevel : Next .testLevel .chooseLevel
  | sameLevel : Next .testLevel .setFrontLed
  | levelChosen (attrVal : AttrVal) : Next .chooseLevel (.updateLevel attrVal)
  | levelUpdated (attrVal : AttrVal) : Next (.updateLevel attrVal) (.saveLevel attrVal)
  | levelSaved (attrVal : AttrVal) : Next (.saveLevel attrVal) (.testState attrVal)
  | stateOff (attrVal : AttrVal) : Next (.testState attrVal) (.chooseOn attrVal)
  | stateOn (attrVal : AttrVal) : Next (.testState attrVal) .setFrontLed
  | onChosen (attrVal attrVal' : AttrVal) : Next (.chooseOn attrVal) (.updateOn attrVal')
  | onUpdated (attrVal : AttrVal) : Next (.updateOn attrVal) .invertOn
  | onInverted : Next .invertOn .setFrontLed
  | frontLedSet : Next .setFrontLed .setLevelLed
  | levelLedSet : Next .setLevelLed .delay
  | delayed : Next .delay .testPressed

/-- The statements that invert `old_state`. -/
def SliderPc.inverts : SliderPc → Bool
  | .invertState => true
  | .invertOn => true
  | _ => false

namespace Device

theorem next_sliderStmt (cfg : Kconfig) (inp : TaskInput) (d : Device) (pc : SliderPc) :
    pc.Next (d.sliderStmt cfg inp pc).2 := by
  cases pc with
  | testPressed =>
      simp only [sliderStmt]
      split
      · exact .pressed
      · exact .notPressed
  | testTouches =>
      simp only [sliderStmt]
      split
      · exact .touched
      · exact .notTouched
  | testTick tickNow =>
      simp only [sliderStmt]
      split
      · exact .accepted tickNow
      · exact .refused tickNow
  | testLevel =>
      simp only [sliderStmt]
      split
      · exact .otherLevel
      · exact .sameLevel
  | testState attrVal =>
      simp only [sliderStmt]
      split
      · exact .stateOff attrVal
      · exact .stateOn attrVal
  | _ => constructor

theorem sliderStmt_oldState (cfg : Kconfig) (inp : TaskInput) (d : Device) (pc : SliderPc) :
    (d.sliderStmt cfg inp pc).1.oldState = if pc.inverts then !d.oldState else d.oldState := by
  cases pc with
  | updateOnOff attrVal => exact (attributeUpdate_recorded cfg (onOffPath 1) attrVal d).oldState
  | updateLevel attrVal =>
      exact (attributeUpdate_recorded cfg (currentLevelPath 1) attrVal d).oldState
  | updateOn attrVal => exact (attributeUpdate_recorded cfg (onOffPath 1) attrVal d).oldState
  | _ => rfl

/-! ## Touch sampling -/

/-- The value that `getLevel(254)` returns for a mask, `previous` being the level it falls
back to when no electrode is newly touched. -/
def touchValue (previous touches : UInt8) : UInt8 :=
  if touches = 0 then previous
  else scaleTouch 254 (highestBit (flippedByte touches) 8)

/-- The debounce test of the touch branch passes. -/
def TouchAccepted (inp : TaskInput) (d : Device) : Prop :=
  inp.newTouches = true ∧ inp.tickNow - d.oldTickTouch > debounceTimeTouch

instance (inp : TaskInput) (d : Device) : Decidable (TouchAccepted inp d) :=
  inferInstanceAs (Decidable (_ ∧ _))

/-- The touch branch finds a level other than `old_level`. -/
def Relevels (inp : TaskInput) (d : Device) : Prop :=
  TouchAccepted inp d ∧ (touchValue d.slider.mPreviousLevel inp.touches).toUInt16 ≠ d.oldLevel

instance (inp : TaskInput) (d : Device) : Decidable (Relevels inp d) :=
  inferInstanceAs (Decidable (_ ∧ _))

theorem getLevel_eq (touches : UInt8) (d : SliderDriver) :
    d.getLevel touches 254 =
      ({ d with mPreviousLevel := touchValue d.mPreviousLevel touches },
        touchValue d.mPreviousLevel touches) := by
  by_cases h : touches = 0 <;> simp [SliderDriver.getLevel, touchValue, h]

/-- The device once an accepted touch has been read. -/
def sampled (inp : TaskInput) (d : Device) : Device :=
  { d with
    oldTickTouch := inp.tickNow
    slider := { d.slider with
      mPreviousLevel := touchValue d.slider.mPreviousLevel inp.touches }
    level := touchValue d.slider.mPreviousLevel inp.touches }

/-- The value `sliderTask` writes to `CurrentLevel`. -/
def levelVal (level : UInt8) : AttrVal := { type := 2, u8 := level }

theorem touchBlock_of_not_accepted (cfg : Kconfig) {inp : TaskInput} {d : Device}
    (h : ¬ TouchAccepted inp d) : d.touchBlock cfg inp = d := by
  unfold touchBlock
  split
  · rename_i hn
    rw [if_neg fun ht => h ⟨hn, ht⟩]
  · rfl

theorem touchBlock_of_same (cfg : Kconfig) {inp : TaskInput} {d : Device}
    (ha : TouchAccepted inp d) (h : ¬ Relevels inp d) :
    d.touchBlock cfg inp = d.sampled inp := by
  have hs : (touchValue d.slider.mPreviousLevel inp.touches).toUInt16 = d.oldLevel := by
    by_contra hne
    exact h ⟨ha, hne⟩
  unfold touchBlock
  rw [if_pos ha.1, if_pos ha.2]
  simp only [getLevel_eq, hs, ne_eq, not_true_eq_false, if_false]
  rfl

theorem touchBlock_of_relevels (cfg : Kconfig) {inp : TaskInput} {d : Device}
    (h : Relevels inp d) :
    d.touchBlock cfg inp =
      let level := touchValue d.slider.mPreviousLevel inp.touches
      let e := { (d.sampled inp).attributeUpdate cfg (currentLevelPath 1) (levelVal level) with
        oldLevel := level.toUInt16 }
      if d.oldState then e
      else { e.attributeUpdate cfg (onOffPath 1) ((levelVal level).setB true) with
        oldState := true } := by
  obtain ⟨ha, hne⟩ := h
  unfold touchBlock
  rw [if_pos ha.1, if_pos ha.2]
  simp only [getLevel_eq]
  rw [if_pos hne]
  cases hs : d.oldState with
  | true =>
      simp [sampled, attributeUpdate_currentLevel, levelVal, hs]
  | false =>
      simp [sampled, attributeUpdate_currentLevel, attributeUpdate_onOff, levelVal, hs]

/-! ## The press block -/

/-- The value `sliderTask` writes to `OnOff` on a press. -/
def pressVal (state : Bool) : AttrVal :=
  { AttrVal.setB (!state) { type := 0, u8 := 0 } with type := 1 }

@[simp] theorem pressVal_b (state : Bool) : (pressVal state).b = !state := by
  cases state <;> rfl

theorem pressBlock_of_pressed (cfg : Kconfig) {d : Device} (h : d.isPressed = true) :
    d.pressBlock cfg =
      { d.attributeUpdate cfg (onOffPath 1) (pressVal d.oldState) with
        oldState := !d.oldState
        isPressed := false } := by
  unfold pressBlock
  rw [if_pos h]
  cases hs : d.oldState <;> simp [pressVal, attributeUpdate_onOff, hs]

theorem pressBlock_of_not_pressed (cfg : Kconfig) {d : Device} (h : d.isPressed = false) :
    d.pressBlock cfg = d := by
  simp [pressBlock, h]

/-! ## What the blocks keep -/

section Kept

variable {P : Device → Prop}

/-- The press block keeps what attribute writes and its two assignments keep. -/
theorem pressBlock_invariant (cfg : Kconfig)
    (hwrite : ∀ path val d, P d → P (d.attributeUpdate cfg path val))
    (hassign : ∀ oldState d, P d → P { d with oldState := oldState, isPressed := false })
    {d : Device} (h : P d) : P (d.pressBlock cfg) := by
  cases hp : d.isPressed with
  | true =>
      rw [pressBlock_of_pressed cfg hp]
      exact hassign (!d.oldState) _ (hwrite (onOffPath 1) (pressVal d.oldState) d h)
  | false =>
      rw [pressBlock_of_not_pressed cfg hp]
      exact h

/-- The touch block keeps what attribute writes and its two assignments keep, once the touch has
been read. -/
theorem touchBlock_invariant (cfg : Kconfig)
    (hwrite : ∀ path val d, P d → P (d.attributeUpdate cfg path val))
    (hassign : ∀ oldState oldLevel d, P d →
      P { d with oldState := oldState, oldLevel := oldLevel })
    {inp : TaskInput} {d : Device} (hs : P (d.sampled inp)) (h : P d) :
    P (d.touchBlock cfg inp) := by
  by_cases hr : Relevels inp d
  · rw [touchBlock_of_relevels cfg hr]
    let level := touchValue d.slider.mPreviousLevel inp.touches
    let e := (d.sampled inp).attributeUpdate cfg (currentLevelPath 1) (levelVal level)
    have hlevel : P { e with oldLevel := level.toUInt16 } :=
      hassign e.oldState level.toUInt16 e (hwrite (currentLevelPath 1) (levelVal level) _ hs)
    cases d.oldState with
    | true => exact hlevel
    | false =>
        have hon := hwrite (onOffPath 1) ((levelVal level).setB true) _ hlevel
        exact hassign true _ _ hon
  · by_cases ha : TouchAccepted inp d
    · rw [touchBlock_of_same cfg ha hr]
      exact hs
    · rw [touchBlock_of_not_accepted cfg ha]
      exact h

end Kept

end Device

end MatterSwitch
