import MatterSwitch.Transition.Ranking
import MatterSwitch.Verification.Task.Presses

/-! # A press is answered

`sliderTask` has no inner loop, so whatever falls between its statements it comes back to
the test of `is_pressed`, and a press it finds there is answered two statements later. -/

namespace MatterSwitch

open SliderDriver Transition

/-- How many statements the task executes before the `attribute::update` of the press block,
along the longest way. -/
def SliderPc.untilToggle : SliderPc → ℕ
  | .updateOnOff _ => 0
  | .chooseValue => 1
  | .testPressed => 2
  | .delay => 3
  | .setLevelLed => 4
  | .setFrontLed => 5
  | .invertOn => 6
  | .updateOn _ => 7
  | .chooseOn _ => 8
  | .testState _ => 9
  | .saveLevel _ => 10
  | .updateLevel _ => 11
  | .chooseLevel => 12
  | .testLevel => 13
  | .readLevel => 14
  | .updateTouchStatus => 15
  | .stampTick _ => 16
  | .testTick _ => 17
  | .readTick => 18
  | .testTouches => 19
  | .clearPressed => 20
  | .invertState => 21

/-- Every statement comes closer, the toggle itself and the test that finds no press apart. -/
theorem SliderPc.Next.untilToggle_lt {pc pc' : SliderPc} (h : pc.Next pc')
    (ht : ∀ attrVal, pc ≠ .updateOnOff attrVal) (hp : pc = .testPressed → pc' = .chooseValue) :
    pc'.untilToggle < pc.untilToggle := by
  cases h with
  | notPressed => exact SliderPc.noConfusion (hp rfl)
  | onOffUpdated attrVal => exact absurd rfl (ht attrVal)
  | _ => simp [SliderPc.untilToggle]

/-- Outside the press block the way is at most a whole iteration long. -/
theorem untilToggle_le_of_idle {pc : SliderPc} (h : pc.latchPhase = .idle) :
    pc.untilToggle ≤ 19 := by
  cases pc <;> simp_all [SliderPc.untilToggle, SliderPc.latchPhase]

/-- The statements of `sliderTask`. -/
def Event.isSliderTask : Event → Bool
  | .sliderTask _ => true
  | _ => false

namespace System

/-- A press is waiting, or the press block is about to answer it. -/
structure Owed (s : System) : Prop where
  chosen : s.Chosen
  waits : s.task.latchPhase = .taken ∨ s.task.latchPhase = .idle ∧ s.dev.isPressed = true

/-- The answer to a press: a statement of the press block that writes the opposite of
`old_state` to `OnOff`. -/
structure Answers (cfg : Kconfig) (s : System) (e : Event) : Prop where
  own : e.isSliderTask = true
  inBlock : s.task.latchPhase ≠ .idle
  issued : ∃ attrVal, attrVal.b = (!s.dev.oldState) ∧
    (s.step cfg e).dev.matter.writes = (onOffPath 1, attrVal) :: s.dev.matter.writes ∧
    (s.step cfg e).dev.onOff = !s.dev.oldState

theorem answers_updateOnOff (cfg : Kconfig) {s : System} (h : s.Chosen) {attrVal : AttrVal}
    (htask : s.task = .updateOnOff attrVal) (inp : TaskInput) :
    Answers cfg s (.sliderTask inp) := by
  have hval := h attrVal htask
  have hdev : (s.step cfg (.sliderTask inp)).dev =
      s.dev.attributeUpdate cfg (onOffPath 1) attrVal := by
    rw [step, htask]
    rfl
  refine ⟨rfl, by simp [htask, SliderPc.latchPhase], attrVal, hval, ?_, ?_⟩
  · rw [hdev]
    exact (Device.attributeUpdate_recorded cfg (onOffPath 1) attrVal s.dev).writes
  · rw [hdev, ← hval, Device.attributeUpdate_onOff]
    simp [Device.onOff]

/-- The task answers the press or comes closer to it. -/
theorem owed_sliderTask (cfg : Kconfig) {s : System} (h : s.Owed) (inp : TaskInput) :
    Answers cfg s (.sliderTask inp) ∨
      (s.step cfg (.sliderTask inp)).Owed ∧
        (s.step cfg (.sliderTask inp)).task.untilToggle < s.task.untilToggle := by
  obtain ⟨hchosen, hwaits⟩ := h
  by_cases ht : ∃ attrVal, s.task = .updateOnOff attrVal
  · obtain ⟨attrVal, ht⟩ := ht
    exact .inl (answers_updateOnOff cfg hchosen ht inp)
  · rw [not_exists] at ht
    have hpress : s.task = .testPressed → s.dev.isPressed = true := by
      intro hpc
      rcases hwaits with hwaits | hwaits
      · rw [hpc] at hwaits
        exact LatchPhase.noConfusion hwaits
      · exact hwaits.2
    have hflag := Device.sliderStmt_isPressed cfg inp s.dev s.task
    have hphase := latchPhase_sliderStmt cfg inp s.dev s.task
    have hcloser := (Device.next_sliderStmt cfg inp s.dev s.task).untilToggle_lt ht
      fun hpc => by rw [hpc, Device.sliderStmt, if_pos (hpress hpc)]
    refine .inr ⟨⟨hchosen.step cfg _, ?_⟩, hcloser⟩
    simp only [step]
    rw [hflag, hphase]
    rcases hwaits with hwaits | ⟨hidle, hp⟩
    · cases hpc : s.task <;> simp_all [SliderPc.latchPhase]
    · cases hpc : s.task <;> simp_all [SliderPc.latchPhase]

/-- Nothing else takes the press away. -/
theorem owed_other (cfg : Kconfig) {s : System} (h : s.Owed) {e : Event}
    (he : e.isSliderTask = false) : (s.step cfg e).Owed ∧ (s.step cfg e).task = s.task := by
  obtain ⟨hchosen, hwaits⟩ := h
  cases e with
  | sliderTask inp => exact Bool.noConfusion he
  | appMain =>
      have hp := Device.mainStmt_isPressed cfg s.dev s.main
      refine ⟨⟨hchosen.step cfg _, ?_⟩, rfl⟩
      simp only [step, hp]
      exact hwaits
  | signal e =>
      refine ⟨⟨hchosen.step cfg _, hwaits.imp_right fun h => ⟨h.1, ?_⟩⟩, rfl⟩
      cases e with
      | matterWrite path val =>
          exact (Device.attributeUpdate_recorded cfg path val s.dev).isPressed.trans h.2
      | buttonEdge tickNow =>
          have hp := Device.buttonCb_isPressed tickNow s.dev
          rw [h.2, ite_self] at hp
          exact hp
      | zeroCross => exact h.2
      | timerAlarm => exact h.2

theorem owed_leadsTo (cfg : Kconfig) :
    LeadsTo (System.step cfg) Event.isSliderTask Owed (Answers cfg)
      (fun s => s.task.untilToggle) where
  lowers s e he hs := by
    cases e with
    | sliderTask inp => exact owed_sliderTask cfg hs inp
    | _ => exact Bool.noConfusion he
  keeps s e he hs := by
    obtain ⟨hinv, htask⟩ := owed_other cfg hs he
    exact .inr ⟨hinv, by rw [htask]⟩

/-- A press that waits while the task is outside the press block is answered within twenty
statements of the task, whatever writes and interrupts fall between them: one of these
statements belongs to the press block, writes `OnOff` and gives it the opposite of
`old_state`. -/
theorem press_is_answered (cfg : Kconfig) {s : System} (hp : s.dev.isPressed = true)
    (ho : s.task.latchPhase = .idle) {es : List Event}
    (hn : 20 ≤ es.countP Event.isSliderTask) :
    ∃ pre e post, es = pre ++ e :: post ∧ Answers cfg (run (System.step cfg) s pre) e := by
  have hchosen : s.Chosen := by
    intro attrVal htask
    rw [htask] at ho
    exact LatchPhase.noConfusion ho
  have hrank : s.task.untilToggle < es.countP Event.isSliderTask := by
    have hle := untilToggle_le_of_idle ho
    omega
  exact (owed_leadsTo cfg).reaches ⟨hchosen, .inr ⟨ho, hp⟩⟩ hrank

/-- A press while the task waits, and a remote write and an interrupt before the answer. -/
theorem press_is_answered_in_turn :
    let s := (boot ⟨fun _ => 0, fun _ => false⟩ fun _ => ⟨0, 0⟩).step .noFade
      (.signal (.buttonEdge 1000))
    let es := .signal (.matterWrite (onOffPath 1) ⟨1, 0⟩) :: .signal .zeroCross ::
      List.replicate 20 (.sliderTask ⟨true, 100, 1⟩)
    ∃ pre e post, es = pre ++ e :: post ∧
      Answers .noFade (run (System.step .noFade) s pre) e :=
  press_is_answered .noFade (by decide) (by decide) (by decide)

end System

end MatterSwitch
