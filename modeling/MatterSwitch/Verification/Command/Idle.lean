import MatterSwitch.Verification.Command.Bar
import MatterSwitch.Verification.Command.Touch
import MatterSwitch.Verification.Slider.Calls

/-! # The device at rest

`sliderTask` polls for ever and refreshes the LEDs each time. While nobody touches, presses or
writes the light, these polls leave the device as it is. -/

namespace MatterSwitch

open SliderDriver Transition

theorem LedDriver.calls_calls (l : LedDriver) (cs : List LedCall) :
    (l.calls cs).calls cs = l.calls cs := by
  have hp : ((l.calls cs).calls cs).pwm = (l.calls cs).pwm := by
    rw [calls_pwm, calls_pwm, writeAll_writeAll]
  have hc : ((l.calls cs).calls cs).control = (l.calls cs).control := by
    rw [calls_control, calls_control, writeAll_writeAll]
  generalize (l.calls cs).calls cs = l₂ at hp hc
  generalize l.calls cs = l₁ at hp hc
  cases l₁
  cases l₂
  exact congrArg₂ LedDriver.mk hp hc

def Command.isSignal : Command → Bool
  | .signal _ => true
  | .sliderTask _ => false

namespace Device

/-! ## Refreshing twice -/

/-- The calls of a refresh. -/
def refreshCalls (d : Device) : List LedCall :=
  setFrontLed d.oldState ++ setLevelLed d.shownLevel

theorem ledBlock_eq (d : Device) :
    d.ledBlock = { d with slider := d.slider.ledCalls d.refreshCalls } := by
  rw [refreshCalls, ledCalls, LedDriver.calls_append]
  rfl

/-- The LEDs show what the next refresh would write. -/
def Refreshed (d : Device) : Prop :=
  d.slider.ledLevelDriver.calls d.refreshCalls = d.slider.ledLevelDriver

theorem Refreshed.ledBlock_eq {d : Device} (h : Refreshed d) : d.ledBlock = d := by
  rw [Device.ledBlock_eq, ledCalls, h]

theorem refreshed_ledBlock (d : Device) : Refreshed d.ledBlock := by
  have hcalls : d.ledBlock.refreshCalls = d.refreshCalls := by
    rw [Device.ledBlock_eq]
    rfl
  rw [Refreshed, hcalls, Device.ledBlock_eq]
  exact LedDriver.calls_calls _ _

/-! ## Steps that leave the light alone -/

/-- Nobody touches or presses, and no write is for the light. -/
def Rests (d : Device) : Command → Prop
  | .sliderTask inp => inp.newTouches = false ∧ d.isPressed = false
  | .signal (.matterWrite path _) => path ≠ onOffPath 1 ∧ path ≠ currentLevelPath 1
  | .signal _ => True

instance (d : Device) : (c : Command) → Decidable (d.Rests c)
  | .sliderTask _ => inferInstanceAs (Decidable (_ ∧ _))
  | .signal (.matterWrite _ _) => inferInstanceAs (Decidable (_ ∧ _))
  | .signal (.buttonEdge _) => isTrue trivial
  | .signal .zeroCross => isTrue trivial
  | .signal .timerAlarm => isTrue trivial

/-- What the LEDs show and what they are to show. -/
structure SameShown (d d' : Device) : Prop where
  leds : d'.slider.ledLevelDriver = d.slider.ledLevelDriver
  mLevel : d'.slider.mLevel = d.slider.mLevel
  mPreviousLevel : d'.slider.mPreviousLevel = d.slider.mPreviousLevel
  oldState : d'.oldState = d.oldState
  currentLevel : d'.currentLevel = d.currentLevel

theorem SameShown.trans {d d' d'' : Device} (h : SameShown d d') (h' : SameShown d' d'') :
    SameShown d d'' where
  leds := h'.leds.trans h.leds
  mLevel := h'.mLevel.trans h.mLevel
  mPreviousLevel := h'.mPreviousLevel.trans h.mPreviousLevel
  oldState := h'.oldState.trans h.oldState
  currentLevel := h'.currentLevel.trans h.currentLevel

theorem SameShown.refreshed {d d' : Device} (h : SameShown d d') (hd : Refreshed d) :
    Refreshed d' := by
  have hcalls : d'.refreshCalls = d.refreshCalls := by
    rw [refreshCalls, refreshCalls, shownLevel, shownLevel, getLevelRaw, getLevelRaw, h.mLevel,
      h.mPreviousLevel, h.oldState]
  rw [Refreshed, hcalls, h.leds]
  exact hd

theorem sameShown_signal (cfg : Kconfig) {d : Device} {e : Signal} (h : Rests d (.signal e)) :
    SameShown d (d.signal cfg e) := by
  cases e with
  | matterWrite path val =>
      rw [signal, attributeUpdate_other cfg val d h.1 h.2]
      refine ⟨rfl, rfl, rfl, rfl, ?_⟩
      simp only [currentLevel, Function.update_of_ne h.2.symm]
  | buttonEdge tickNow =>
      rw [signal, buttonCb]
      split <;> exact ⟨rfl, rfl, rfl, rfl, rfl⟩
  | zeroCross => exact ⟨rfl, rfl, rfl, rfl, rfl⟩
  | timerAlarm =>
      have hf := onTimerAlarmCb_frame cfg d.slider
      exact ⟨onTimerAlarmCb_leds cfg d.slider, hf.mLevel, hf.mPreviousLevel, rfl, rfl⟩

/-- A poll that finds nothing refreshes the LEDs. -/
theorem sliderTask_of_rests (cfg : Kconfig) {d : Device} {inp : TaskInput}
    (h : Rests d (.sliderTask inp)) : d.sliderTask cfg inp = d.ledBlock := by
  obtain ⟨hn, hp⟩ := h
  have ha : ¬ TouchAccepted inp d := fun ha => Bool.noConfusion (hn.symm.trans ha.1)
  rw [sliderTask, pressBlock_of_not_pressed cfg hp, touchBlock_of_not_accepted cfg ha]

theorem refreshed_sliderTask (cfg : Kconfig) (inp : TaskInput) (d : Device) :
    Refreshed (d.sliderTask cfg inp) :=
  refreshed_ledBlock _

/-- With the LEDs refreshed, polls that find nothing have no effect. -/
theorem run_of_rests (cfg : Kconfig) {d : Device} (hd : Refreshed d) {cs : List Command}
    (hcs : Along (Device.command cfg) Rests d cs) :
    run (Device.command cfg) d cs = run (Device.command cfg) d (cs.filter Command.isSignal) ∧
      SameShown d (run (Device.command cfg) d cs) := by
  induction cs generalizing d with
  | nil => exact ⟨rfl, ⟨rfl, rfl, rfl, rfl, rfl⟩⟩
  | cons c cs ih =>
      obtain ⟨hc, hcs⟩ := hcs
      cases c with
      | signal e =>
          have hs : SameShown d (d.command cfg (.signal e)) := sameShown_signal cfg hc
          obtain ⟨hrun, hsame⟩ := ih (hs.refreshed hd) hcs
          rw [List.filter_cons_of_pos rfl, run_cons, run_cons]
          exact ⟨hrun, hs.trans hsame⟩
      | sliderTask inp =>
          have hpoll : d.command cfg (.sliderTask inp) = d :=
            (sliderTask_of_rests cfg hc).trans hd.ledBlock_eq
          rw [hpoll] at hcs
          rw [List.filter_cons_of_neg Bool.noConfusion, run_cons, hpoll]
          exact ih hd hcs

/-- After an iteration, in a stretch in which nobody touches, presses or writes the light, the
iterations leave no trace: the device is in the state in which the writes to other attributes,
the edges and the interrupts of the stretch alone would leave it, whatever came before and
however often `sliderTask` polls. -/
theorem idle_polls_leave_no_trace (cfg : Kconfig) (inp : TaskInput) (d : Device)
    {cs : List Command} (hcs : Along (Device.command cfg) Rests (d.sliderTask cfg inp) cs) :
    run (Device.command cfg) (d.sliderTask cfg inp) cs =
      run (Device.command cfg) (d.sliderTask cfg inp) (cs.filter Command.isSignal) :=
  (run_of_rests cfg (refreshed_sliderTask cfg inp d) hcs).1

/-- Three polls among the interrupts of a half-cycle and a bounce of the button. -/
theorem idle_polls_leave_no_trace_of_three :
    let d := cold.sliderTask .noFade ⟨false, 0, 0⟩
    let cs : List Command := [.sliderTask ⟨false, 200, 0⟩, .signal .zeroCross,
      .sliderTask ⟨false, 400, 0⟩, .signal .timerAlarm, .signal (.buttonEdge 100),
      .sliderTask ⟨false, 600, 0⟩]
    run (Device.command .noFade) d cs =
      run (Device.command .noFade) d (cs.filter Command.isSignal) :=
  idle_polls_leave_no_trace .noFade _ _ (by decide)

/-! ## What a touch leaves on the bar -/

/-- The LEDs of the bar for the electrode at bit `i` of the mask, the last of which has two. -/
def electrodeLeds (i : ℕ) : ℕ := if i = 0 then 8 else 7 - i

theorem leds_of_electrode {i : ℕ} (hi : i < 7) :
    8 * (100 * (254 * (7 - i) / 7) / 254) / 100 = electrodeLeds i := by
  rw [electrodeLeds]
  split <;> omega

theorem ledLevel_of_relevels (cfg : Kconfig) {inp : TaskInput} {d : Device} {i : ℕ}
    (hp : d.isPressed = false) (hi : LowestBit inp.touches i) (h7 : i < 7)
    (hr : Relevels inp d) : (d.ledLevel cfg inp).toNat = 100 * (254 * (7 - i) / 7) / 254 := by
  have hv := touchValue_of_lowestBit d.slider.mPreviousLevel hi
  have hne : matterLevel (touchValue d.slider.mPreviousLevel inp.touches) ≠ 0 := by
    rw [ne_eq, matterLevel_eq_zero_iff, UInt8.le_iff_toNat_le, hv]
    change ¬ 254 * (7 - i) / 7 ≤ 5
    omega
  rw [ledLevel, pressBlock_of_not_pressed cfg hp, shownLevel, touchBlock_oldState, if_pos hr,
    if_pos rfl, getLevelRaw, touchBlock_mLevel, if_pos hr, if_neg hne, matterLevel_toNat hne, hv]

/-- A finger on any electrode but the lowest, where it is noticed, is shown: `CurrentLevel` is
the level of the electrode, the bar shows as many LEDs as there are electrodes up to it, all
eight for the last, and the front LED is that of a light that is on. This stays so while nobody
touches, presses or writes the light. -/
theorem finger_shows_on_bar (cfg : Kconfig) {inp : TaskInput} {d : Device} {i : ℕ}
    (hp : d.isPressed = false) (hi : LowestBit inp.touches i) (h7 : i < 7)
    (hr : Relevels inp d) {cs : List Command}
    (hcs : Along (Device.command cfg) Rests (d.sliderTask cfg inp) cs) :
    let d' := run (Device.command cfg) (d.sliderTask cfg inp) cs
    d'.currentLevel.toNat = 254 * (7 - i) / 7 ∧
      (∀ k < 8, d'.slider.ledLevelDriver.Lit (7 - (k : ℕ)) ↔ k < electrodeLeds i) ∧
      d'.slider.ledLevelDriver.Lit 9 ∧ ¬ d'.slider.ledLevelDriver.Lit 8 := by
  intro d'
  obtain ⟨-, hsame⟩ := run_of_rests cfg (refreshed_sliderTask cfg inp d) hcs
  have hon : (d.sliderTask cfg inp).oldState = true := by
    rw [sliderTask, pressBlock_of_not_pressed cfg hp, ledBlock_eq]
    exact (touchBlock_oldState cfg inp d).trans (if_pos hr)
  have hlevel : (d.sliderTask cfg inp).currentLevel =
      touchValue d.slider.mPreviousLevel inp.touches := by
    rw [sliderTask, pressBlock_of_not_pressed cfg hp, ledBlock_eq]
    exact (touchBlock_currentLevel cfg inp d).trans (if_pos hr)
  obtain ⟨h9, h8⟩ := lit_sliderTask_front cfg inp d
  refine ⟨?_, ?_, ?_, ?_⟩
  · rw [hsame.currentLevel, hlevel, touchValue_of_lowestBit d.slider.mPreviousLevel hi]
  · intro k hk
    rw [hsame.leds, lit_sliderTask_iff cfg inp d hk, ledLevel_of_relevels cfg hp hi h7 hr,
      leds_of_electrode h7]
  · rw [hsame.leds, h9, hon]
  · rw [hsame.leds, h8, hon]
    exact Bool.noConfusion

/-- The fourth electrode after start-up, and a poll after it. -/
theorem finger_shows_on_bar_halfway :
    let inp : TaskInput := ⟨true, 100, 8⟩
    let d := (cold.appDriverSetDefault .noFade 1).1
    let d' := run (Device.command .noFade) (d.sliderTask .noFade inp) [.sliderTask ⟨false, 300, 0⟩]
    d'.currentLevel.toNat = 254 * (7 - 3) / 7 ∧
      (∀ k < 8, d'.slider.ledLevelDriver.Lit (7 - (k : ℕ)) ↔ k < electrodeLeds 3) ∧
      d'.slider.ledLevelDriver.Lit 9 ∧ ¬ d'.slider.ledLevelDriver.Lit 8 :=
  finger_shows_on_bar .noFade rfl
    ⟨by decide, by unfold BitSet; decide, fun j hj => by unfold BitSet; revert j; decide⟩
    (by decide) (by decide) (by decide)

end Device

end MatterSwitch
