import MatterSwitch.Transition.Run
import MatterSwitch.Verification.Device.Equations

/-! # Statements compose to complete steps

Where no signal falls inside, the statements of an iteration of `sliderTask` and those of
`app_driver_set_default` amount to one complete step. -/

namespace MatterSwitch

open Transition

namespace System

/-- The task, undisturbed, goes from one statement to another and leaves device `d`. -/
def Reaches (cfg : Kconfig) (inp : TaskInput) (s : System) (d : Device) (pc : SliderPc) : Prop :=
  ∃ n, run (step cfg) s (List.replicate n (.sliderTask inp)) = { s with dev := d, task := pc }

theorem Reaches.trans {cfg : Kconfig} {inp : TaskInput} {s : System} {d d' : Device}
    {pc pc' : SliderPc} (h : Reaches cfg inp s d pc)
    (h' : Reaches cfg inp { s with dev := d, task := pc } d' pc') :
    Reaches cfg inp s d' pc' := by
  obtain ⟨n, hn⟩ := h
  obtain ⟨m, hm⟩ := h'
  refine ⟨n + m, ?_⟩
  rw [List.replicate_add, run_append, hn, hm]

theorem reaches_pressBlock (cfg : Kconfig) (inp : TaskInput) (d : Device) (main : MainPc) :
    Reaches cfg inp ⟨d, .testPressed, main⟩ (d.pressBlock cfg) .testTouches := by
  cases h : d.isPressed with
  | true =>
      refine ⟨5, ?_⟩
      rw [Device.pressBlock_of_pressed cfg h]
      cases hs : d.oldState <;>
        simp [List.replicate, step, Device.sliderStmt, h, hs, Device.pressVal,
          Device.attributeUpdate_onOff]
  | false =>
      refine ⟨1, ?_⟩
      rw [Device.pressBlock_of_not_pressed cfg h]
      simp [step, Device.sliderStmt, h]

theorem reaches_touchBlock (cfg : Kconfig) (inp : TaskInput) (d : Device) (main : MainPc) :
    Reaches cfg inp ⟨d, .testTouches, main⟩ (d.touchBlock cfg inp) .setFrontLed := by
  by_cases ha : Device.TouchAccepted inp d
  · obtain ⟨hn, ht⟩ := ha
    by_cases hr : Device.Relevels inp d
    · have hne := hr.2
      rw [Device.touchBlock_of_relevels cfg hr]
      cases hs : d.oldState with
      | true =>
          refine ⟨11, ?_⟩
          simp [List.replicate, step, Device.sliderStmt, hn, ht, hne, hs,
            Device.getLevel_eq, Device.sampled, Device.levelVal,
            Device.attributeUpdate_currentLevel]
      | false =>
          refine ⟨14, ?_⟩
          simp [List.replicate, step, Device.sliderStmt, hn, ht, hne, hs,
            Device.getLevel_eq, Device.sampled, Device.levelVal,
            Device.attributeUpdate_currentLevel, Device.attributeUpdate_onOff]
    · have hsame : (Device.touchValue d.slider.mPreviousLevel inp.touches).toUInt16 =
          d.oldLevel := by
        by_contra hne
        exact hr ⟨⟨hn, ht⟩, hne⟩
      refine ⟨7, ?_⟩
      rw [Device.touchBlock_of_same cfg ⟨hn, ht⟩ hr]
      simp [List.replicate, step, Device.sliderStmt, hn, ht, Device.getLevel_eq, hsame,
        Device.sampled]
  · rw [Device.touchBlock_of_not_accepted cfg ha]
    cases hn : inp.newTouches with
    | false =>
        refine ⟨1, ?_⟩
        simp [step, Device.sliderStmt, hn]
    | true =>
        have ht : ¬ inp.tickNow - d.oldTickTouch > Device.debounceTimeTouch :=
          fun ht => ha ⟨hn, ht⟩
        refine ⟨3, ?_⟩
        simp [List.replicate, step, Device.sliderStmt, hn, ht]

theorem reaches_ledBlock (cfg : Kconfig) (inp : TaskInput) (d : Device) (main : MainPc) :
    Reaches cfg inp ⟨d, .setFrontLed, main⟩ d.ledBlock .testPressed :=
  ⟨3, rfl⟩

/-- An undisturbed iteration of `sliderTask` is `Device.sliderTask`. -/
theorem reaches_sliderTask (cfg : Kconfig) (inp : TaskInput) (d : Device) (main : MainPc) :
    Reaches cfg inp ⟨d, .testPressed, main⟩ (d.sliderTask cfg inp) .testPressed :=
  ((reaches_pressBlock cfg inp d main).trans (reaches_touchBlock cfg inp _ main)).trans
    (reaches_ledBlock cfg inp _ main)

/-- An undisturbed `app_driver_set_default(1)` is `Device.appDriverSetDefault`. -/
theorem run_setDefault (cfg : Kconfig) (d : Device) (task : SliderPc) :
    run (step cfg) ⟨d, task, .loadLevel⟩ (List.replicate 6 .appMain) =
      ⟨(d.appDriverSetDefault cfg 1).1, task, .returned⟩ :=
  rfl

end System

end MatterSwitch
