import MatterSwitch.Verification.Command.Equations

/-! # One truth about on and off

`sliderTask` keeps its own copy of the power in `old_state`. A remote `OnOff` write reaches
the driver and the relay but not that copy, so the copies agree along a run exactly when
the remote writes never contradict it. -/

namespace MatterSwitch

open SliderDriver Transition

namespace Device

/-- What one step has to leave behind: `old_state` is the power of the driver, and an
iteration that consumes a press inverts the attribute and the driver. -/
def SingleTruth (cfg : Kconfig) (d : Device) (c : Command) : Prop :=
  (d.command cfg c).oldState = (d.command cfg c).slider.mIsOn ∧
    ∀ inp, c = .sliderTask inp → d.isPressed = true →
      (d.command cfg c).onOff = !d.onOff ∧
        (d.command cfg c).slider.mIsOn = !d.slider.mIsOn

/-- A remote `OnOff` write repeats `old_state`, and an iteration that consumes a press of a
lit light does not also accept a touch of another level. -/
def InStep (d : Device) : Command → Prop
  | .signal (.matterWrite path val) => path = onOffPath 1 → val.b = d.oldState
  | .signal _ => True
  | .sliderTask inp =>
      d.isPressed = true → d.oldState = true →
        ¬ (TouchAccepted inp d ∧
          (touchValue d.slider.mLevel inp.touches).toUInt16 ≠ d.oldLevel)

instance (d : Device) (c : Command) : Decidable (InStep d c) :=
  match c with
  | .signal (.matterWrite path val) =>
      inferInstanceAs (Decidable (path = onOffPath 1 → val.b = d.oldState))
  | .signal (.buttonEdge _) => isTrue trivial
  | .signal .zeroCross => isTrue trivial
  | .signal .timerAlarm => isTrue trivial
  | .sliderTask inp =>
      inferInstanceAs (Decidable (d.isPressed = true → d.oldState = true →
        ¬ (TouchAccepted inp d ∧
          (touchValue d.slider.mLevel inp.touches).toUInt16 ≠ d.oldLevel)))

/-- Only an `OnOff` write among the signals changes the power of the driver. -/
theorem signal_mIsOn (cfg : Kconfig) (e : Signal) (d : Device) :
    (d.signal cfg e).slider.mIsOn =
      match e with
      | .matterWrite path val => if path = onOffPath 1 then val.b else d.slider.mIsOn
      | _ => d.slider.mIsOn := by
  have h := congrArg Light.isOn (light_signal cfg e d)
  change (d.signal cfg e).slider.mIsOn = _ at h
  rw [h]
  cases e with
  | matterWrite path val =>
      by_cases hp : path = onOffPath 1
      · simp [signalEvents, writeEvents, hp, Light.step]
      · by_cases hc : path = currentLevelPath 1
        · simp only [signalEvents, writeEvents, if_neg hp, if_pos hc]
          rfl
        · simp only [signalEvents, writeEvents, if_neg hp, if_neg hc]
          rfl
  | _ => rfl

theorem singleTruth_signal_iff (cfg : Kconfig) {d : Device} (ho : d.oldState = d.slider.mIsOn)
    (e : Signal) : SingleTruth cfg d (.signal e) ↔ InStep d (.signal e) := by
  have hs := (globalsKept_signal cfg d e).oldState
  have hm := signal_mIsOn cfg e d
  simp only [SingleTruth, command, hs, hm, reduceCtorEq, false_implies, implies_true, and_true]
  cases e with
  | matterWrite path val => by_cases hpath : path = onOffPath 1 <;> simp [InStep, hpath, ho, eq_comm]
  | _ => simp [InStep, ho]

/-- An iteration keeps the copies together; only a touch can undo its press. -/
theorem singleTruth_sliderTask_iff (cfg : Kconfig) {d : Device}
    (ho : d.oldState = d.slider.mIsOn) (hp : d.light.Powered) (inp : TaskInput) :
    SingleTruth cfg d (.sliderTask inp) ↔ InStep d (.sliderTask inp) := by
  have hafter := powered_command cfg hp (.sliderTask inp)
  have hon : (d.sliderTask cfg inp).onOff = (d.sliderTask cfg inp).slider.mIsOn :=
    hafter.isOn_eq.symm
  have hon' : d.onOff = d.slider.mIsOn := hp.isOn_eq.symm
  have hs : (d.sliderTask cfg inp).oldState = (d.sliderTask cfg inp).slider.mIsOn := by
    rw [sliderTask_mIsOn, sliderTask_oldState, touchBlock_mIsOn, touchBlock_oldState,
      pressBlock_oldState, pressBlock_mIsOn]
    by_cases hr : Relevels inp (d.pressBlock cfg) <;> cases d.isPressed <;>
      cases hd : d.slider.mIsOn <;> simp [hr, ho, hd]
  simp only [SingleTruth, command, hs, hon, hon', true_and, Command.sliderTask.injEq, and_self]
  cases hpr : d.isPressed with
  | false => simp [InStep, hpr]
  | true =>
      have hr := relevels_pressBlock_iff cfg inp d
      rw [hpr] at hr
      rw [sliderTask_mIsOn, touchBlock_mIsOn, pressBlock_oldState, pressBlock_mIsOn, hpr]
      cases hd : d.slider.mIsOn with
      | false => simp [InStep, ho, hd]
      | true =>
          rw [ho, hd] at hr
          simp only [and_self, if_true] at hr
          simp [InStep, hpr, ho, hd, hr]

/-- From a state in which the copies agree, a step does its part exactly when it is in
step. -/
theorem singleTruth_iff_inStep (cfg : Kconfig) {d : Device} (ho : d.oldState = d.slider.mIsOn)
    (hp : d.light.Powered) (c : Command) : SingleTruth cfg d c ↔ InStep d c := by
  cases c with
  | signal e => exact singleTruth_signal_iff cfg ho e
  | sliderTask inp => exact singleTruth_sliderTask_iff cfg ho hp inp

/-- The copies of the power agree after every step, and no press is a no-op, exactly along
the runs that stay in step. -/
theorem single_truth_iff (cfg : Kconfig) {d₀ : Device} (h : d₀.oldState = true)
    (cs : List Command) :
    Along (Device.command cfg) (SingleTruth cfg) (d₀.appDriverSetDefault cfg 1).1 cs ↔
      Along (Device.command cfg) InStep (d₀.appDriverSetDefault cfg 1).1 cs := by
  apply along_iff_along (Device.command cfg)
    (fun d => d.oldState = d.slider.mIsOn ∧ d.light.Powered)
  · intro d c hinv hstep
    have hp := hinv.2
    exact ⟨hstep.1, powered_command cfg hp c⟩
  · intro d c hinv
    obtain ⟨ho, hp⟩ := hinv
    exact singleTruth_iff_inStep cfg ho hp c
  · have hp := powered_appDriverSetDefault cfg d₀
    refine ⟨?_, hp⟩
    have hm : (d₀.appDriverSetDefault cfg 1).1.slider.mIsOn = true :=
      congrArg Light.isOn (light_appDriverSetDefault cfg d₀)
    rw [hm]
    have hu : ∀ path val (d : Device), (d.attributeUpdate cfg path val).oldState = d.oldState :=
      fun path val d => (attributeUpdate_recorded cfg path val d).oldState
    simp [appDriverSetDefault, appDriverLightSetPower, appDriverLightSetBrightness, hu, h]

/-- A press, the iteration that consumes it and a remote write of the same power. -/
theorem single_truth_press :
    Along (Device.command .noFade) (SingleTruth .noFade)
      (cold.appDriverSetDefault .noFade 1).1
      [.signal (.buttonEdge 1000), .sliderTask ⟨false, 1001, 0⟩,
        .signal (.matterWrite (onOffPath 1) ⟨1, 0⟩)] :=
  (single_truth_iff .noFade rfl _).mpr (by decide)

/-- A remote switch-off leaves `old_state` behind. -/
theorem remote_off_splits_truth :
    ¬ Along (Device.command .noFade) (SingleTruth .noFade)
      (cold.appDriverSetDefault .noFade 1).1
      [.signal (.matterWrite (onOffPath 1) ⟨1, 0⟩)] :=
  fun h => absurd h.1.1 (by decide)

end Device

end MatterSwitch
