import MatterSwitch.Transition.Latch
import MatterSwitch.Verification.Command.Equations

/-! # Presses between the interrupt and the task

`is_pressed` is a one-place latch: `buttonCb` raises it, `sliderTask` polls it at the top
of its loop, delivers a toggle and clears it at the end of the press block. -/

namespace MatterSwitch

open SliderDriver Transition

namespace Device

/-- `buttonCb` takes an edge for a press. -/
def AcceptsPress (tickNow : UInt32) (d : Device) : Prop :=
  tickNow - d.oldTickBtn > debounceTime

instance (tickNow : UInt32) (d : Device) : Decidable (AcceptsPress tickNow d) :=
  inferInstanceAs (Decidable (_ > _))

theorem buttonCb_isPressed (tickNow : UInt32) (d : Device) :
    (d.buttonCb tickNow).isPressed = if AcceptsPress tickNow d then true else d.isPressed := by
  simp only [buttonCb, AcceptsPress]
  by_cases h : tickNow - d.oldTickBtn > debounceTime <;> simp [h]

/-- Only the last statement of the press block clears `is_pressed`. -/
theorem sliderStmt_isPressed (cfg : Kconfig) (inp : TaskInput) (d : Device) (pc : SliderPc) :
    (d.sliderStmt cfg inp pc).1.isPressed =
      if pc = .clearPressed then false else d.isPressed := by
  cases pc with
  | updateOnOff attrVal => exact (attributeUpdate_recorded cfg (onOffPath 1) attrVal d).isPressed
  | updateLevel attrVal =>
      exact (attributeUpdate_recorded cfg (currentLevelPath 1) attrVal d).isPressed
  | updateOn attrVal => exact (attributeUpdate_recorded cfg (onOffPath 1) attrVal d).isPressed
  | readLevel =>
      simp only [sliderStmt, getLevel_eq]
      rfl
  | _ => rfl

theorem mainStmt_isPressed (cfg : Kconfig) (d : Device) (pc : MainPc) :
    (d.mainStmt cfg pc).1.isPressed = d.isPressed := by
  cases pc with
  | updateLevel val => exact (attributeUpdate_recorded cfg (currentLevelPath 1) val d).isPressed
  | updatePower val => exact (attributeUpdate_recorded cfg (onOffPath 1) val d).isPressed
  | _ => rfl

end Device

/-! ## The press block as a latch -/

/-- How far the press block has come when a statement is next. -/
def SliderPc.latchPhase : SliderPc → LatchPhase
  | .chooseValue => .taken
  | .updateOnOff _ => .taken
  | .invertState => .delivered
  | .clearPressed => .delivered
  | _ => .idle

theorem latchPhase_sliderStmt (cfg : Kconfig) (inp : TaskInput) (d : Device) (pc : SliderPc) :
    (d.sliderStmt cfg inp pc).2.latchPhase =
      match pc with
      | .testPressed => if d.isPressed then .taken else .idle
      | .chooseValue => .taken
      | .updateOnOff _ => .delivered
      | .invertState => .delivered
      | _ => .idle := by
  cases pc with
  | testPressed => cases h : d.isPressed <;> simp [Device.sliderStmt, SliderPc.latchPhase, h]
  | testTouches =>
      cases h : inp.newTouches <;> simp [Device.sliderStmt, SliderPc.latchPhase, h]
  | testTick tickNow =>
      by_cases h : tickNow - d.oldTickTouch > Device.debounceTimeTouch <;>
        simp [Device.sliderStmt, SliderPc.latchPhase, h]
  | testLevel =>
      by_cases h : d.level.toUInt16 = d.oldLevel <;>
        simp [Device.sliderStmt, SliderPc.latchPhase, h]
  | testState attrVal =>
      cases h : d.oldState <;> simp [Device.sliderStmt, SliderPc.latchPhase, h]
  | _ => rfl

/-- The inversions of `old_state` that are due when a statement of the press block is next. -/
def SliderPc.inversionsDue : SliderPc → ℕ
  | .invertState => 1
  | _ => 0

/-- An inversion is due after the update of the press block and at no other time. -/
theorem SliderPc.Next.inversionsDue {pc pc' : SliderPc} (h : pc.Next pc') :
    pc'.inversionsDue =
      match pc with
      | .updateOnOff _ => 1
      | _ => 0 := by
  cases h <;> rfl

/-! ## What the press block issues -/

namespace Device

/-- The attribute writes that `d'` has recorded on top of those of `d`. -/
def writesSince (d d' : Device) : List (AttrPath × AttrVal) :=
  d'.matter.writes.take (d'.matter.writes.length - d.matter.writes.length)

theorem writesSince_of_eq {d d' : Device} (h : d'.matter.writes = d.matter.writes) :
    writesSince d d' = [] := by
  rw [writesSince, h, Nat.sub_self, List.take_zero]

theorem writesSince_of_cons {d d' : Device} {w : AttrPath × AttrVal}
    (h : d'.matter.writes = w :: d.matter.writes) : writesSince d d' = [w] := by
  rw [writesSince, h, List.length_cons, Nat.add_sub_cancel_left]
  rfl

/-- An `OnOff` write of the opposite of `old_state`. -/
def Toggles (d : Device) (w : AttrPath × AttrVal) : Prop :=
  w.1 = onOffPath 1 ∧ w.2.b = !d.oldState

instance (d : Device) (w : AttrPath × AttrVal) : Decidable (Toggles d w) :=
  inferInstanceAs (Decidable (_ ∧ _))

end Device

namespace System

/-- The toggles that a step of the press block issues. -/
def pressToggles (cfg : Kconfig) (s : System) : Event → ℕ
  | .sliderTask inp =>
      if s.task.latchPhase = .idle then 0
      else (Device.writesSince s.dev (s.step cfg (.sliderTask inp)).dev).countP
        fun w => Device.Toggles s.dev w
  | _ => 0

/-- How often a step of the press block inverts `old_state`. -/
def pressInversions (cfg : Kconfig) (s : System) : Event → ℕ
  | .sliderTask inp =>
      if s.task.latchPhase ≠ .idle ∧
        (s.step cfg (.sliderTask inp)).dev.oldState = !s.dev.oldState then 1 else 0
  | _ => 0

/-- The value chosen for the toggle is the opposite of `old_state`. -/
def Chosen (s : System) : Prop :=
  ∀ attrVal, s.task = .updateOnOff attrVal → attrVal.b = !s.dev.oldState

theorem Chosen.step (cfg : Kconfig) {s : System} (h : s.Chosen) (e : Event) :
    (s.step cfg e).Chosen := by
  obtain ⟨d, task, main⟩ := s
  cases e with
  | signal e =>
      intro attrVal htask
      rw [System.step, (Device.globalsKept_signal cfg d e).oldState]
      exact h attrVal htask
  | appMain =>
      intro attrVal htask
      simp only [System.step, (Device.globalsKept_mainStmt cfg d main).oldState]
      exact h attrVal htask
  | sliderTask inp =>
      intro attrVal htask
      have hnext := Device.next_sliderStmt cfg inp d task
      change (d.sliderStmt cfg inp task).2 = _ at htask
      rw [htask] at hnext
      cases hnext with
      | valueChosen =>
          -- the value goes from the test of `old_state` to the update
          rw [← SliderPc.updateOnOff.inj htask]
          change (AttrVal.b _) = !d.oldState
          cases d.oldState <;> rfl

/-- The press block issues a toggle in its update and nowhere else. -/
theorem pressToggles_sliderTask (cfg : Kconfig) {s : System} (h : s.Chosen) (inp : TaskInput) :
    s.pressToggles cfg (.sliderTask inp) =
      match s.task with
      | .updateOnOff _ => 1
      | _ => 0 := by
  obtain ⟨d, task, main⟩ := s
  cases task with
  | updateOnOff attrVal =>
      have hwrites := (Device.attributeUpdate_recorded cfg (onOffPath 1) attrVal d).writes
      have hsince : Device.writesSince d (d.attributeUpdate cfg (onOffPath 1) attrVal) =
          [(onOffPath 1, attrVal)] := Device.writesSince_of_cons hwrites
      have htoggles : Device.Toggles d (onOffPath 1, attrVal) := ⟨rfl, h attrVal rfl⟩
      simp [pressToggles, step, Device.sliderStmt, SliderPc.latchPhase, hsince, htoggles]
  | chooseValue => simp [pressToggles, step, Device.sliderStmt, Device.writesSince_of_eq]
  | invertState => simp [pressToggles, step, Device.sliderStmt, Device.writesSince_of_eq]
  | clearPressed => simp [pressToggles, step, Device.sliderStmt, Device.writesSince_of_eq]
  | _ => rfl

theorem pressInversions_sliderTask (cfg : Kconfig) (s : System) (inp : TaskInput) :
    s.pressInversions cfg (.sliderTask inp) =
      match s.task with
      | .invertState => 1
      | _ => 0 := by
  have hstate := Device.sliderStmt_oldState cfg inp s.dev s.task
  simp only [pressInversions, step, hstate]
  cases s.task <;> simp [SliderPc.latchPhase, SliderPc.inverts]

end System

/-- The system with the counts of its run: presses accepted, toggles issued by the press block
and inversions of `old_state` in it, and whether an iteration has started since the last
accepted press. -/
structure Monitor where
  sys : System
  chosen : sys.Chosen
  fresh : Bool
  accepted : ℕ
  toggles : ℕ
  inversions : ℕ

namespace Monitor

def boot (leds : LedDriver) (attrs : AttrPath → AttrVal) : Monitor :=
  { sys := System.boot leds attrs
    chosen := fun _ h => SliderPc.noConfusion h
    fresh := true
    accepted := 0
    toggles := 0
    inversions := 0 }

/-- The presses that an event makes `buttonCb` accept. -/
def presses (s : System) : Event → ℕ
  | .signal (.buttonEdge tickNow) => if Device.AcceptsPress tickNow s.dev then 1 else 0
  | _ => 0

/-- An accepted press waits for the next iteration to start. -/
def freshAfter (m : Monitor) : Event → Bool
  | .signal (.buttonEdge tickNow) =>
      if Device.AcceptsPress tickNow m.sys.dev then false else m.fresh
  | .sliderTask _ => if m.sys.task = .testPressed then true else m.fresh
  | _ => m.fresh

def step (cfg : Kconfig) (m : Monitor) (e : Event) : Monitor :=
  { sys := m.sys.step cfg e
    chosen := m.chosen.step cfg e
    fresh := m.freshAfter e
    accepted := m.accepted + presses m.sys e
    toggles := m.toggles + m.sys.pressToggles cfg e
    inversions := m.inversions + m.sys.pressInversions cfg e }

/-- A condition on the states in which a press is accepted. -/
def AtPresses (P : Monitor → Prop) (m : Monitor) : Event → Prop
  | .signal (.buttonEdge tickNow) => Device.AcceptsPress tickNow m.sys.dev → P m
  | _ => True

instance (P : Monitor → Prop) [DecidablePred P] (m : Monitor) :
    (e : Event) → Decidable (AtPresses P m e)
  | .signal (.buttonEdge tickNow) =>
      inferInstanceAs (Decidable (Device.AcceptsPress tickNow m.sys.dev → P m))
  | .signal (.matterWrite _ _) => isTrue trivial
  | .signal .zeroCross => isTrue trivial
  | .signal .timerAlarm => isTrue trivial
  | .sliderTask _ => isTrue trivial
  | .appMain => isTrue trivial

/-- `sliderTask` has started an iteration since the press accepted before. -/
def Fresh (m : Monitor) : Prop := m.fresh = true

/-- `sliderTask` is not between the test of `is_pressed` and its clearing. -/
def OutsideBlock (m : Monitor) : Prop := m.sys.task.latchPhase = .idle

instance : DecidablePred Fresh := fun _ => inferInstanceAs (Decidable (_ = _))

instance : DecidablePred OutsideBlock := fun _ => inferInstanceAs (Decidable (_ = _))

/-- The toggles issued and the flag account for the presses accepted. -/
def Accounted (m : Monitor) : Prop :=
  m.toggles + (if m.sys.dev.isPressed then 1 else 0) = m.accepted

instance (m : Monitor) : Decidable m.Accounted := inferInstanceAs (Decidable (_ = _))

def latch (m : Monitor) : Latch :=
  { flag := m.sys.dev.isPressed
    phase := m.sys.task.latchPhase
    fresh := m.fresh
    raised := m.accepted
    deliveries := m.toggles }

/-- What a step does to the latch. -/
def latchOps (m : Monitor) : Event → List LatchOp
  | .signal (.buttonEdge tickNow) =>
      if Device.AcceptsPress tickNow m.sys.dev then [.raise] else []
  | .sliderTask _ =>
      match m.sys.task with
      | .testPressed => [.poll]
      | .updateOnOff _ => [.deliver]
      | .clearPressed => [.clear]
      | _ => []
  | _ => []

theorem latch_step_sliderTask (cfg : Kconfig) (m : Monitor) (inp : TaskInput) :
    (m.step cfg (.sliderTask inp)).latch =
      run Latch.step m.latch (m.latchOps (.sliderTask inp)) := by
  have hflag := Device.sliderStmt_isPressed cfg inp m.sys.dev m.sys.task
  have hphase := latchPhase_sliderStmt cfg inp m.sys.dev m.sys.task
  have htoggles := System.pressToggles_sliderTask cfg m.chosen inp
  simp only [step, latch, latchOps, System.step, freshAfter, presses, htoggles]
  cases hpc : m.sys.task <;>
    simp_all [Latch.step, SliderPc.latchPhase]

theorem latch_step (cfg : Kconfig) (m : Monitor) (e : Event) :
    (m.step cfg e).latch = run Latch.step m.latch (m.latchOps e) := by
  cases e with
  | signal e =>
      cases e with
      | matterWrite path val =>
          have hp := (Device.attributeUpdate_recorded cfg path val m.sys.dev).isPressed
          simp [step, latch, latchOps, System.step, Device.signal, hp, freshAfter, presses,
            System.pressToggles]
      | buttonEdge tickNow =>
          by_cases h : Device.AcceptsPress tickNow m.sys.dev <;>
            simp [step, latch, latchOps, System.step, Device.signal, Latch.step,
              Device.buttonCb_isPressed, freshAfter, presses, System.pressToggles, h]
      | zeroCross => rfl
      | timerAlarm => rfl
  | sliderTask inp => exact latch_step_sliderTask cfg m inp
  | appMain =>
      simp [step, latch, latchOps, System.step, Device.mainStmt_isPressed, freshAfter, presses,
        System.pressToggles]

/-- The press handling of the system is a latch. -/
def refinement (cfg : Kconfig) : Refinement (Monitor.step cfg) Latch.step where
  abs := latch
  label := latchOps
  sim := latch_step cfg

/-- A property of raises, carried back to the presses of a run. -/
theorem along_raises_iff (cfg : Kconfig) {P : Latch → LatchOp → Prop} {Q : Monitor → Prop}
    (hraise : ∀ m : Monitor, P m.latch .raise ↔ Q m) (hrest : ∀ l, ∀ o ≠ .raise, P l o)
    (m : Monitor) (es : List Event) :
    Along Latch.step P m.latch ((refinement cfg).labels m es) ↔
      Along (Monitor.step cfg) (AtPresses Q) m es := by
  have hstep : ∀ m e, Along Latch.step P ((refinement cfg).abs m) (latchOps m e) ↔
      AtPresses Q m e := by
    intro m e
    cases e with
    | signal e =>
        cases e with
        | buttonEdge tickNow =>
            have h := hraise m
            by_cases ha : Device.AcceptsPress tickNow m.sys.dev <;>
              simp [latchOps, AtPresses, refinement, ha, h]
        | _ => exact Iff.rfl
    | sliderTask inp =>
        simp only [latchOps, AtPresses, iff_true]
        split <;> simp [hrest]
    | appMain => exact Iff.rfl
  exact ((refinement cfg).along_labels P m es).trans
    (along_congr (Monitor.step cfg) hstep m es)

/-- Each toggle issued has inverted `old_state` or is about to. -/
def Paired (m : Monitor) : Prop := m.inversions + m.sys.task.inversionsDue = m.toggles

theorem paired_step (cfg : Kconfig) {m : Monitor} (h : m.Paired) (e : Event) :
    (m.step cfg e).Paired := by
  cases e with
  | signal e => exact h
  | appMain => exact h
  | sliderTask inp =>
      have hdue := (Device.next_sliderStmt cfg inp m.sys.dev m.sys.task).inversionsDue
      have htoggles := System.pressToggles_sliderTask cfg m.chosen inp
      have hinversions := System.pressInversions_sliderTask cfg m.sys inp
      rw [Paired] at h ⊢
      simp only [step, System.step, htoggles, hinversions, hdue]
      cases hpc : m.sys.task <;> simp [hpc, SliderPc.inversionsDue] at h ⊢ <;> omega

/-- Spaced presses are all accounted for at the top of the loop, exactly when none was
accepted inside the press block; and there `old_state` has been inverted once for each toggle
issued. -/
theorem accounted_iff (cfg : Kconfig) (leds : LedDriver) (attrs : AttrPath → AttrVal)
    (es : List Event)
    (hs : Along (Monitor.step cfg) (AtPresses Fresh) (boot leds attrs) es)
    (ht : (run (Monitor.step cfg) (boot leds attrs) es).sys.task = .testPressed) :
    let m := run (Monitor.step cfg) (boot leds attrs) es
    (m.Accounted ↔
      Along (Monitor.step cfg) (AtPresses OutsideBlock) (boot leds attrs) es) ∧
      m.inversions = m.toggles := by
  intro m
  have hspaced := (along_raises_iff cfg (P := Latch.Spaced) (Q := Fresh)
    (by simp [Latch.Spaced, latch, Fresh]) (by simp +contextual [Latch.Spaced]) _ es).mpr hs
  have hopen := along_raises_iff cfg (P := fun l o => ¬ Latch.Hidden l o) (Q := OutsideBlock)
    (by simp [Latch.Hidden, latch, OutsideBlock]) (by simp +contextual [Latch.Hidden])
    (boot leds attrs) es
  have hidle : m.latch.phase = .idle := congrArg SliderPc.latchPhase ht
  have hlost := Latch.lost_eq_iff (l := (boot leds attrs).latch)
    ⟨fun h => absurd rfl h, fun _ _ => rfl⟩ hspaced
  have habs : m.latch = _ := (refinement cfg).abs_run (boot leds attrs) es
  constructor
  · rw [← hopen, ← hlost]
    change _ ↔ (run Latch.step ((refinement cfg).abs (boot leds attrs)) _).lost = 0
    rw [← habs]
    exact (Latch.lost_eq_zero_iff hidle).symm
  · have hpaired : m.Paired := run_invariant (Monitor.step cfg) Paired
      (fun _ e h => paired_step cfg h e) (s := boot leds attrs) rfl es
    rw [Paired, ht] at hpaired
    exact hpaired

/-- Power-up with a blank device. -/
def cold : Monitor := boot ⟨fun _ => 0, fun _ => false⟩ fun _ => ⟨0, 0⟩

/-- The events of an iteration without touches, `inside` falling between the test of
`is_pressed` and the toggle. -/
def pressIteration (inside : List Event) : List Event :=
  let stmt : Event := .sliderTask ⟨false, 0, 0⟩
  stmt :: inside ++ List.replicate 8 stmt

/-- A press before each of two iterations. -/
theorem accounted_two_presses :
    (run (Monitor.step .noFade) cold
      (.signal (.buttonEdge 1000) :: pressIteration [] ++
        .signal (.buttonEdge 2000) :: pressIteration [])).Accounted :=
  (accounted_iff .noFade _ _ _ (by decide) (by decide)).1.mpr (by decide)

/-- A second press inside the block of the first is cleared with it. -/
theorem press_inside_block_is_lost :
    let es := .signal (.buttonEdge 1000) :: pressIteration [.signal (.buttonEdge 2000)]
    Along (Monitor.step .noFade) (AtPresses Fresh) cold es ∧
      (run (Monitor.step .noFade) cold es).sys.task = .testPressed ∧
      ¬ (run (Monitor.step .noFade) cold es).Accounted := by
  decide

end Monitor

end MatterSwitch
