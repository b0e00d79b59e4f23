import MatterSwitch.Verification.Command.Touch

/-! # Letting go of the slider

When no electrode is touched `getLevel` falls back to the saved level, and `sliderTask` compares
it with `old_level`. The two are kept by different steps and on different scales. A journal of
what has set the level tells when they agree, and so when letting go changes nothing. -/

namespace MatterSwitch

open SliderDriver Transition

/-! ## The journal -/

/-- What bears on the level: a level written, remotely or by `sliderTask`; switching off; and an
accepted touch of the level that is stored already. -/
inductive Entry where
  | level (v : UInt8)
  | off
  | retouch
  deriving DecidableEq, Repr

namespace Entry

/-- The percentage in force, the journal read from its latest entry on. -/
def driverLevel : List Entry → UInt8
  | [] => 0
  | .level v :: _ => matterLevel v
  | .off :: _ => 0
  | .retouch :: es => driverLevel es

/-- The level last written. -/
def stored : List Entry → UInt8
  | [] => 0
  | .level v :: _ => v
  | .off :: es => stored es
  | .retouch :: es => stored es

/-- What a release falls back to: the percentage before the level was last set, or the stored
level once it has been touched again. -/
def saved : List Entry → UInt8
  | [] => 0
  | .level _ :: es => driverLevel es
  | .off :: es => driverLevel es
  | .retouch :: es => stored es

/-- The histories after which letting go changes nothing: the stored level has been touched since
the level was last set; or the level was last set by a write of the very number that was the
percentage before it; or it was last set by switching off, and the stored level is zero. -/
def Agrees : List Entry → Prop
  | [] => True
  | .retouch :: _ => True
  | .level v :: es => driverLevel es = v
  | .off :: es => stored es = 0

instance : DecidablePred Agrees
  | [] => isTrue trivial
  | .retouch :: _ => isTrue trivial
  | .level _ :: _ => inferInstanceAs (Decidable (_ = _))
  | .off :: _ => inferInstanceAs (Decidable (_ = _))

/-- The percentage is that of the stored level, or the light has been switched off since. -/
theorem driverLevel_eq (es : List Entry) :
    driverLevel es = 0 ∨ driverLevel es = matterLevel (stored es) := by
  induction es with
  | nil => exact .inl rfl
  | cons e es ih =>
      cases e with
      | level v => exact .inr rfl
      | off => exact .inl rfl
      | retouch => exact ih

theorem driverLevel_eq_stored_iff (es : List Entry) :
    driverLevel es = stored es ↔ stored es = 0 := by
  rcases driverLevel_eq es with h0 | hm
  · rw [h0, eq_comm]
  · rw [hm, matterLevel_eq_self_iff]

/-- In these histories and in no others the fallback is the stored level. -/
theorem agrees_iff (es : List Entry) : Agrees es ↔ saved es = stored es := by
  cases es with
  | nil => exact ⟨fun _ => rfl, fun _ => trivial⟩
  | cons e es =>
      cases e with
      | level v => exact Iff.rfl
      | off => exact (driverLevel_eq_stored_iff es).symm
      | retouch => exact ⟨fun _ => rfl, fun _ => trivial⟩

end Entry

namespace Device

open Entry

/-- An attribute write in the journal. -/
def recordWrite (path : AttrPath) (val : AttrVal) (es : List Entry) : List Entry :=
  if path = onOffPath 1 then if val.b then es else .off :: es
  else if path = currentLevelPath 1 then .level val.u8 :: es
  else es

/-- A press in the journal. -/
def recordPress (d : Device) (es : List Entry) : List Entry :=
  if d.isPressed ∧ d.oldState then .off :: es else es

/-- A touch or a release in the journal. A release stands for the level it falls back to, and is
no entry when that is the stored one. -/
def recordTouch (inp : TaskInput) (d : Device) (es : List Entry) : List Entry :=
  if TouchAccepted inp d then
    let v := touchValue (saved es) inp.touches
    if v ≠ stored es then .level v :: es
    else if inp.touches ≠ 0 then .retouch :: es
    else es
  else es

/-- A complete step in the journal. Of the device it reads the press and the two debounce tests,
and neither the saved level nor `old_level`. -/
def record (d : Device) (es : List Entry) : Command → List Entry
  | .signal (.matterWrite path val) => recordWrite path val es
  | .signal _ => es
  | .sliderTask inp => recordTouch inp d (d.recordPress es)

/-- The device remembers of the journal what the three functions read off it. -/
structure Journaled (d : Device) (es : List Entry) : Prop where
  mPreviousLevel : d.slider.mPreviousLevel = saved es
  mLevel : d.slider.mLevel = driverLevel es
  oldLevel : d.oldLevel = (stored es).toUInt16

variable {d : Device} {es : List Entry}

theorem journaled_attributeUpdate (cfg : Kconfig) (path : AttrPath) (val : AttrVal)
    (h : Journaled d es) :
    Journaled (d.attributeUpdate cfg path val) (recordWrite path val es) := by
  by_cases hp : path = onOffPath 1
  · rw [hp, attributeUpdate_onOff, recordWrite, if_pos rfl]
    cases val.b with
    | true => exact ⟨h.mPreviousLevel, h.mLevel, h.oldLevel⟩
    | false =>
        refine ⟨?_, ?_, h.oldLevel⟩
        · simp only [SliderDriver.setPower_false, setBrightness_eq, commitInterval_frame]
          exact h.mLevel
        · simp only [SliderDriver.setPower_false, setBrightness_eq, commitInterval_frame]
          rfl
  · by_cases hc : path = currentLevelPath 1
    · rw [hc, attributeUpdate_currentLevel, setBrightness_eq, recordWrite,
        if_neg (onOffPath_ne_currentLevelPath 1 1).symm, if_pos rfl]
      exact ⟨h.mLevel, rfl, rfl⟩
    · rw [attributeUpdate_other cfg val d hp hc, recordWrite, if_neg hp, if_neg hc]
      exact ⟨h.mPreviousLevel, h.mLevel, h.oldLevel⟩

theorem journaled_pressBlock (cfg : Kconfig) (h : Journaled d es) :
    Journaled (d.pressBlock cfg) (d.recordPress es) := by
  have hprevious := pressBlock_mPreviousLevel cfg d
  have hlevel := pressBlock_mLevel cfg d
  have hold := pressBlock_oldLevel cfg d
  by_cases hoff : d.isPressed = true ∧ d.oldState = true
  · rw [if_pos hoff] at hprevious hlevel
    rw [recordPress, if_pos hoff]
    exact ⟨hprevious.trans h.mLevel, hlevel, hold.trans h.oldLevel⟩
  · rw [if_neg hoff] at hprevious hlevel
    rw [recordPress, if_neg hoff]
    exact ⟨hprevious.trans h.mPreviousLevel, hlevel.trans h.mLevel, hold.trans h.oldLevel⟩

/-- The level test of the touch branch, read off the journal. -/
theorem Journaled.relevels_iff (h : Journaled d es) (inp : TaskInput) :
    Relevels inp d ↔ TouchAccepted inp d ∧ touchValue (saved es) inp.touches ≠ stored es := by
  rw [Relevels, h.mPreviousLevel, h.oldLevel, ne_eq, ne_eq, ← UInt16.toNat_inj,
    UInt8.toNat_toUInt16, UInt8.toNat_toUInt16, UInt8.toNat_inj]

theorem journaled_touchBlock (cfg : Kconfig) (inp : TaskInput) (h : Journaled d es) :
    Journaled (d.touchBlock cfg inp) (recordTouch inp d es) := by
  have hprevious := touchBlock_mPreviousLevel cfg inp d
  have hlevel := touchBlock_mLevel cfg inp d
  have hold := touchBlock_oldLevel cfg inp d
  simp only [h.relevels_iff, h.mPreviousLevel] at hprevious hlevel hold
  rw [recordTouch]
  by_cases ha : TouchAccepted inp d
  · simp only [ha, true_and, if_true] at hprevious hlevel hold ⊢
    by_cases hv : touchValue (saved es) inp.touches ≠ stored es
    · rw [if_pos hv] at hprevious hlevel hold ⊢
      exact ⟨hprevious.trans h.mLevel, hlevel, hold⟩
    · rw [if_neg hv] at hprevious hlevel hold ⊢
      rw [not_ne_iff] at hv
      by_cases h0 : inp.touches = 0
      · -- a release that writes nothing leaves the saved level
        rw [if_neg (not_not.mpr h0)]
        rw [touchValue, if_pos h0] at hprevious
        exact ⟨hprevious, hlevel.trans h.mLevel, hold.trans h.oldLevel⟩
      · rw [if_pos h0]
        exact ⟨hprevious.trans hv, hlevel.trans h.mLevel, hold.trans h.oldLevel⟩
  · simp only [ha, false_and, if_false] at hprevious hlevel hold ⊢
    exact ⟨hprevious, hlevel.trans h.mLevel, hold.trans h.oldLevel⟩

theorem journaled_command (cfg : Kconfig) (h : Journaled d es) (c : Command) :
    Journaled (d.command cfg c) (d.record es c) := by
  cases c with
  | signal e =>
      cases e with
      | matterWrite path val => exact journaled_attributeUpdate cfg path val h
      | buttonEdge tickNow =>
          simp only [command, signal, buttonCb]
          split <;> exact ⟨h.mPreviousLevel, h.mLevel, h.oldLevel⟩
      | zeroCross =>
          have hf := gpioIsrHandler_frame d.slider
          exact ⟨hf.mPreviousLevel.trans h.mPreviousLevel, hf.mLevel.trans h.mLevel, h.oldLevel⟩
      | timerAlarm =>
          have hf := onTimerAlarmCb_frame cfg d.slider
          exact ⟨hf.mPreviousLevel.trans h.mPreviousLevel, hf.mLevel.trans h.mLevel, h.oldLevel⟩
  | sliderTask inp =>
      have hpress := journaled_pressBlock cfg h
      have htouch := journaled_touchBlock cfg inp hpress
      rw [recordTouch, if_congr (touchAccepted_pressBlock_iff cfg inp d) rfl rfl] at htouch
      exact ⟨htouch.mPreviousLevel, htouch.mLevel, htouch.oldLevel⟩

theorem mLevel_attributeUpdate_currentLevel (cfg : Kconfig) (val : AttrVal) (d : Device) :
    (d.attributeUpdate cfg (currentLevelPath 1) val).slider.mLevel = matterLevel val.u8 := by
  rw [attributeUpdate_currentLevel, setBrightness_eq]
  rfl

/-- A level set twice is the percentage before itself. -/
theorem journaled_appDriverLightSetBrightness (cfg : Kconfig) {val : AttrVal}
    (hl : d.slider.mLevel = matterLevel val.u8) (ho : d.oldLevel = val.u8.toUInt16) :
    Journaled (d.appDriverLightSetBrightness cfg val).1 [.level val.u8, .level val.u8] := by
  refine ⟨?_, ?_, ho⟩
  · simp only [appDriverLightSetBrightness, setBrightness_eq]
    exact hl
  · simp only [appDriverLightSetBrightness, setBrightness_eq]
    rfl

theorem journaled_appDriverLightSetPower_on (cfg : Kconfig) {val : AttrVal} (hb : val.b = true)
    (h : Journaled d es) : Journaled (d.appDriverLightSetPower cfg val).1 es := by
  rw [appDriverLightSetPower, hb, SliderDriver.setPower_true]
  exact ⟨h.mPreviousLevel, h.mLevel, h.oldLevel⟩

theorem journaled_appDriverSetDefault (cfg : Kconfig) (d : Device) :
    Journaled (d.appDriverSetDefault cfg 1).1
      [.level defaultBrightness, .level defaultBrightness] := by
  let val : AttrVal := { d.matter.attrs (currentLevelPath 1) with u8 := defaultBrightness }
  let d₁ := d.attributeUpdate cfg (currentLevelPath 1) val
  let d₂ := (d₁.appDriverLightSetBrightness cfg val).1
  let power := (d₂.matter.attrs (onOffPath 1)).setB defaultPower
  have hpower : power.b = true := AttrVal.setB_b _ _
  have h₂ : Journaled d₂ [.level defaultBrightness, .level defaultBrightness] :=
    journaled_appDriverLightSetBrightness cfg (mLevel_attributeUpdate_currentLevel cfg val d) rfl
  have h₃ := journaled_attributeUpdate cfg (onOffPath 1) power h₂
  rw [recordWrite, if_pos rfl, hpower, if_pos rfl] at h₃
  exact journaled_appDriverLightSetPower_on cfg hpower h₃

end Device

/-- A device with the journal of its run. -/
structure Journal where
  dev : Device
  entries : List Entry

namespace Journal

/-- Right after start-up. -/
def start (cfg : Kconfig) (d₀ : Device) : Journal :=
  { dev := (d₀.appDriverSetDefault cfg 1).1
    entries := [.level Device.defaultBrightness, .level Device.defaultBrightness] }

def step (cfg : Kconfig) (j : Journal) (c : Command) : Journal :=
  { dev := j.dev.command cfg c
    entries := j.dev.record j.entries c }

/-- A release that passes the debounce test comes after a history that agrees. -/
def ReleasesAgree (j : Journal) : Command → Prop
  | .signal _ => True
  | .sliderTask inp =>
      j.dev.isPressed = false → inp.newTouches = true → inp.touches = 0 →
        inp.tickNow - j.dev.oldTickTouch > Device.debounceTimeTouch → Entry.Agrees j.entries

instance (j : Journal) : (c : Command) → Decidable (j.ReleasesAgree c)
  | .signal _ => isTrue trivial
  | .sliderTask _ => inferInstanceAs (Decidable (_ → _ → _ → _ → _))

end Journal

namespace Device

open Entry

/-! ## Releases -/

/-- An iteration without any effect on the light: no attribute write is issued, and the
attributes, the task's copies, the driver's level and interval and the relay stay. -/
structure Quiet (cfg : Kconfig) (inp : TaskInput) (d : Device) : Prop where
  writes : (d.sliderTask cfg inp).matter.writes = d.matter.writes
  currentLevel : (d.sliderTask cfg inp).currentLevel = d.currentLevel
  onOff : (d.sliderTask cfg inp).onOff = d.onOff
  oldLevel : (d.sliderTask cfg inp).oldLevel = d.oldLevel
  oldState : (d.sliderTask cfg inp).oldState = d.oldState
  mLevel : (d.sliderTask cfg inp).slider.mLevel = d.slider.mLevel
  interval : (d.sliderTask cfg inp).slider.interval = d.slider.interval
  relay : (d.sliderTask cfg inp).relay = d.relay

theorem quiet_iff_not_relevels (cfg : Kconfig) (inp : TaskInput) {d : Device}
    (hp : d.isPressed = false) : Quiet cfg inp d ↔ ¬ Relevels inp d := by
  have hpress := pressBlock_of_not_pressed cfg hp
  constructor
  · intro hq hr
    have hlt := touchBlock_writes_of_relevels cfg hr
    have hw := hq.writes
    change ((d.pressBlock cfg).touchBlock cfg inp).matter.writes = _ at hw
    rw [hpress] at hw
    rw [hw] at hlt
    exact Nat.lt_irrefl _ hlt
  · intro hr
    have hl : (d.sliderTask cfg inp).light = d.light := by
      rw [light_sliderTask, hpress, light_touchBlock_of_not_relevels cfg hr]
    have hw : (d.sliderTask cfg inp).matter.writes = d.matter.writes := by
      change ((d.pressBlock cfg).touchBlock cfg inp).matter.writes = _
      rw [hpress, touchBlock_writes_of_not_relevels cfg hr]
    have ho : (d.sliderTask cfg inp).oldState = d.oldState := by
      rw [sliderTask_oldState, hpress, touchBlock_oldState, if_neg hr]
    exact ⟨hw, congrArg Light.currentLevel hl, congrArg Light.onOff hl,
      congrArg Light.oldLevel hl, ho, congrArg Light.level hl, congrArg Light.interval hl,
      congrArg Light.relay hl⟩

/-- What one step has to do: an iteration that finds no press and no electrode newly
touched, the finger being lifted, is quiet. -/
def ReleaseQuiet (cfg : Kconfig) (d : Device) (c : Command) : Prop :=
  ∀ inp, c = .sliderTask inp → d.isPressed = false → inp.newTouches = true →
    inp.touches = 0 → Quiet cfg inp d

theorem relevels_release_iff {d : Device} {es : List Entry} {inp : TaskInput}
    (hj : Journaled d es) (hn : inp.newTouches = true) (h0 : inp.touches = 0) :
    Relevels inp d ↔ inp.tickNow - d.oldTickTouch > debounceTimeTouch ∧ ¬ Agrees es := by
  rw [hj.relevels_iff, touchValue, if_pos h0, agrees_iff, TouchAccepted, hn]
  simp only [true_and, ne_eq]

theorem releaseQuiet_iff (cfg : Kconfig) {j : Journal} (hj : Journaled j.dev j.entries)
    (c : Command) : ReleaseQuiet cfg j.dev c ↔ j.ReleasesAgree c := by
  cases c with
  | signal e => simp [ReleaseQuiet, Journal.ReleasesAgree]
  | sliderTask inp =>
      have hquiet : j.dev.isPressed = false → inp.newTouches = true → inp.touches = 0 →
          (Quiet cfg inp j.dev ↔
            (inp.tickNow - j.dev.oldTickTouch > debounceTimeTouch → Agrees j.entries)) := by
        intro hp hn h0
        rw [quiet_iff_not_relevels cfg inp hp, relevels_release_iff hj hn h0, not_and, not_not]
      constructor
      · intro h hp hn h0
        exact (hquiet hp hn h0).mp (h inp rfl hp hn h0)
      · intro h inp' he hp hn h0
        obtain rfl := Command.sliderTask.inj he
        exact (hquiet hp hn h0).mpr (h hp hn h0)

/-- Along a run after start-up every release changes nothing, exactly when every release that
passes the debounce test comes after a history in which the stored level has been touched since
the level was last set, or was the percentage before it was written, or is zero and the light
was switched off. -/
theorem release_quiet_iff (cfg : Kconfig) (d₀ : Device) (cs : List Command) :
    Along (Device.command cfg) (ReleaseQuiet cfg) (d₀.appDriverSetDefault cfg 1).1 cs ↔
      Along (Journal.step cfg) Journal.ReleasesAgree (Journal.start cfg d₀) cs := by
  apply along_iff_of_rel fun d j => j.dev = d ∧ Journaled j.dev j.entries
  · intro d j c hrel
    obtain ⟨rfl, hj⟩ := hrel
    exact ⟨rfl, journaled_command cfg hj c⟩
  · intro d j c hrel
    obtain ⟨rfl, hj⟩ := hrel
    exact releaseQuiet_iff cfg hj c
  · exact ⟨rfl, journaled_appDriverSetDefault cfg d₀⟩

/-- Touch the top electrode and let go: the release writes the percentage of the level
before the touch to the attribute. -/
theorem release_writes_level :
    ¬ Along (Device.command .noFade) (ReleaseQuiet .noFade)
      (cold.appDriverSetDefault .noFade 1).1
      [.sliderTask ⟨true, 100, 1⟩, .sliderTask ⟨true, 200, 0⟩] :=
  fun h => absurd (h.2.1 _ rfl rfl rfl rfl).currentLevel (by decide)

-- Touching the same electrode once more makes the release a quiet one.
example : Along (Journal.step .noFade) Journal.ReleasesAgree (Journal.start .noFade cold)
    [.sliderTask ⟨true, 100, 1⟩, .sliderTask ⟨true, 200, 1⟩, .sliderTask ⟨true, 300, 0⟩] := by
  decide

end Device

end MatterSwitch
