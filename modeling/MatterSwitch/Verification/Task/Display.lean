import MatterSwitch.Verification.Command.Bar
import MatterSwitch.Verification.Task.Driver

/-! # What the LEDs show between any two steps

The display is written in two statements, the front LEDs and then the bar. Between them it is
half old and half new, and before and after it agrees with itself. -/

namespace MatterSwitch

open SliderDriver Transition

/-! ## The registers -/

namespace LedDriver

/-- The bar is lit from channel 7 down. -/
def Contiguous (l : LedDriver) : Prop :=
  ∀ i j : ℕ, j ≤ i → i < 8 → l.Lit (7 - i) → l.Lit (7 - j)

/-- Exactly one front LED is lit. -/
def OneFront (l : LedDriver) : Prop := l.Lit 9 ↔ ¬ l.Lit 8

/-- With the front LED of a light that is off, no LED of the bar is lit. -/
def DarkWhenOff (l : LedDriver) : Prop := l.Lit 8 → ∀ i < 8, ¬ l.Lit (7 - (i : ℕ))

theorem contiguous_setLevelLed (l : LedDriver) (level : UInt8) :
    (l.calls (setLevelLed level)).Contiguous := by
  intro i j hj hi hlit
  rw [lit_setLevelLed_iff l level hi] at hlit
  rw [lit_setLevelLed_iff l level (by omega)]
  omega

/-- `set_front_led` does not reach the bar. -/
theorem lit_setFrontLed_bar (l : LedDriver) (power : Bool) {i : ℕ} :
    (l.calls (setFrontLed power)).Lit (7 - i) ↔ l.Lit (7 - i) := by
  have h9 : (7 - i : ℤ) ≠ 9 := by omega
  have h8 : (7 - i : ℤ) ≠ 8 := by omega
  simp [Lit, calls, setFrontLed, call, Function.update_of_ne h9, Function.update_of_ne h8]

theorem oneFront_setFrontLed (l : LedDriver) (power : Bool) :
    (l.calls (setFrontLed power)).OneFront := by
  obtain ⟨hon, hoff⟩ := lit_setFrontLed l power
  rw [OneFront, hon, hoff]
  cases power <;> simp

end LedDriver

namespace Device

/-- The LED calls of a statement. -/
def stmtCalls (d : Device) : SliderPc → List LedCall
  | .setFrontLed => setFrontLed d.oldState
  | .setLevelLed => setLevelLed d.shownLevel
  | _ => []

theorem stmtCalls_eq_nil (d : Device) {pc : SliderPc} (hf : pc ≠ .setFrontLed)
    (hl : pc ≠ .setLevelLed) : d.stmtCalls pc = [] := by
  cases pc with
  | setFrontLed => exact absurd rfl hf
  | setLevelLed => exact absurd rfl hl
  | _ => rfl

theorem sliderStmt_leds (cfg : Kconfig) (inp : TaskInput) (d : Device) (pc : SliderPc) :
    (d.sliderStmt cfg inp pc).1.slider.ledLevelDriver =
      d.slider.ledLevelDriver.calls (d.stmtCalls pc) := by
  cases pc with
  | updateOnOff attrVal => exact attributeUpdate_leds cfg (onOffPath 1) attrVal d
  | updateLevel attrVal => exact attributeUpdate_leds cfg (currentLevelPath 1) attrVal d
  | updateOn attrVal => exact attributeUpdate_leds cfg (onOffPath 1) attrVal d
  | readLevel =>
      simp only [sliderStmt, getLevel_eq]
      rfl
  | _ => rfl

theorem mainStmt_leds (cfg : Kconfig) (d : Device) (pc : MainPc) :
    (d.mainStmt cfg pc).1.slider.ledLevelDriver = d.slider.ledLevelDriver := by
  cases pc with
  | updateLevel val => exact attributeUpdate_leds cfg (currentLevelPath 1) val d
  | applyBrightness val =>
      simp only [mainStmt, appDriverLightSetBrightness, setBrightness_eq]
  | updatePower val => exact attributeUpdate_leds cfg (onOffPath 1) val d
  | applyPower val => exact setPower_leds cfg val.b d.slider
  | _ => rfl

end Device

/-! ## Between any two steps -/

/-- How often `old_state` can have been inverted since the front LEDs were written, when a
statement is next: by the press block, and then by the touch block. -/
def SliderPc.inversionsPassed : SliderPc → ℕ
  | .setLevelLed => 0
  | .delay => 0
  | .testPressed => 0
  | .chooseValue => 0
  | .updateOnOff _ => 0
  | .invertState => 0
  | .setFrontLed => 2
  | _ => 1

/-- A statement passes the inversion that it makes. -/
theorem SliderPc.Next.inversionsPassed {pc pc' : SliderPc} (h : pc.Next pc')
    (hpc : pc ≠ .setFrontLed) :
    pc.inversionsPassed + (if pc.inverts then 1 else 0) ≤ pc'.inversionsPassed := by
  cases h with
  | frontLedSet => exact absurd rfl hpc
  | _ => simp [SliderPc.inversionsPassed, SliderPc.inverts]

/-- The refresh is entered through its first statement. -/
theorem SliderPc.Next.not_refresh {pc pc' : SliderPc} (h : pc.Next pc') (hf : pc ≠ .setFrontLed)
    (hl : pc ≠ .setLevelLed) : ¬ (pc' = .setLevelLed ∨ pc' = .delay) := by
  rintro (rfl | rfl)
  · cases h with
    | frontLedSet => exact hf rfl
  · cases h with
    | levelLedSet => exact hl rfl

namespace System

/-- The LED calls of a step. -/
def stepCalls (s : System) : Event → List LedCall
  | .sliderTask _ => s.dev.stmtCalls s.task
  | _ => []

theorem step_leds (cfg : Kconfig) (s : System) (e : Event) :
    (s.step cfg e).dev.slider.ledLevelDriver =
      s.dev.slider.ledLevelDriver.calls (s.stepCalls e) := by
  cases e with
  | signal e =>
      cases e with
      | matterWrite path val => exact Device.attributeUpdate_leds cfg path val s.dev
      | buttonEdge tickNow =>
          rw [step, Device.signal, Device.buttonCb]
          split <;> rfl
      | zeroCross => rfl
      | timerAlarm => exact onTimerAlarmCb_leds cfg s.dev.slider
  | sliderTask inp => exact Device.sliderStmt_leds cfg inp s.dev s.task
  | appMain => exact Device.mainStmt_leds cfg s.dev s.main

/-- The step writes the front LEDs. -/
def RefreshesFront (s : System) : Event → Prop
  | .sliderTask _ => s.task = .setFrontLed
  | _ => False

instance (s : System) : (e : Event) → Decidable (s.RefreshesFront e)
  | .sliderTask _ => inferInstanceAs (Decidable (_ = _))
  | .signal _ => inferInstanceAs (Decidable False)
  | .appMain => inferInstanceAs (Decidable False)

/-- Only `sliderTask` moves its position and inverts `old_state`. -/
theorem inversionsPassed_step (cfg : Kconfig) {s : System} {e : Event}
    (hr : ¬ s.RefreshesFront e) :
    s.task.inversionsPassed +
        (if (s.step cfg e).dev.oldState = s.dev.oldState then 0 else 1) ≤
      (s.step cfg e).task.inversionsPassed := by
  cases e with
  | sliderTask inp =>
      have hpassed := (Device.next_sliderStmt cfg inp s.dev s.task).inversionsPassed hr
      have hstate := Device.sliderStmt_oldState cfg inp s.dev s.task
      simp only [step, hstate]
      cases hi : s.task.inverts <;> simpa [hi] using hpassed
  | signal e =>
      rw [step, (Device.globalsKept_signal cfg s.dev e).oldState, if_pos rfl]
      exact Nat.le_refl _
  | appMain =>
      rw [step, (Device.globalsKept_mainStmt cfg s.dev s.main).oldState, if_pos rfl]
      exact Nat.le_refl _

end System

/-- The machine with the number of inversions of `old_state`, by a press or by a touch, since
the front LEDs were last written. -/
structure FrontWatch where
  sys : System
  inversions : ℕ

namespace FrontWatch

def boot (leds : LedDriver) (attrs : AttrPath → AttrVal) : FrontWatch :=
  ⟨System.boot leds attrs, 0⟩

def step (cfg : Kconfig) (w : FrontWatch) (e : Event) : FrontWatch where
  sys := w.sys.step cfg e
  inversions :=
    if w.sys.RefreshesFront e then 0
    else w.inversions +
      if (w.sys.step cfg e).dev.oldState = w.sys.dev.oldState then 0 else 1

/-- The LED registers. -/
def leds (w : FrontWatch) : LedDriver := w.sys.dev.slider.ledLevelDriver

/-- The front LED shows `old_state`, inverted as often as `old_state` has been since. -/
def Front (w : FrontWatch) : Prop :=
  w.leds.Lit 9 ↔ (w.sys.dev.oldState = true ↔ Even w.inversions)

/-- The display with the position of the task that writes it. -/
structure Display (w : FrontWatch) : Prop where
  contiguous : w.leds.Contiguous
  oneFront : w.leds.OneFront
  dark : w.sys.task ≠ .setLevelLed → w.leds.DarkWhenOff
  front : w.Front
  recent : w.inversions ≤ w.sys.task.inversionsPassed

/-- From a refresh to the next inversion the front LED is the right one. -/
theorem Display.front_of_not_inverted {w : FrontWatch} (h : w.Display) (hi : w.inversions = 0) :
    w.leds.Lit 9 ↔ w.sys.dev.oldState = true := by
  have hfront := h.front
  rw [Front, hi, iff_true_right Even.zero] at hfront
  exact hfront

/-- A step that leaves the front LEDs alone counts the inversion that it makes. -/
theorem front_step (cfg : Kconfig) {w : FrontWatch} {e : Event} (h : w.Front)
    (hr : ¬ w.sys.RefreshesFront e) (hlit : (w.step cfg e).leds.Lit 9 ↔ w.leds.Lit 9) :
    (w.step cfg e).Front := by
  rw [Front] at h
  rw [Front, hlit, h, step, if_neg hr]
  by_cases hkept : (w.sys.step cfg e).dev.oldState = w.sys.dev.oldState
  · rw [if_pos hkept, hkept, Nat.add_zero]
  · rw [if_neg hkept, Bool.eq_not_of_ne hkept, Nat.even_add_one]
    cases w.sys.dev.oldState <;> simp

theorem recent_step (cfg : Kconfig) {w : FrontWatch} {e : Event}
    (h : w.inversions ≤ w.sys.task.inversionsPassed) (hr : ¬ w.sys.RefreshesFront e) :
    (w.step cfg e).inversions ≤ (w.step cfg e).sys.task.inversionsPassed := by
  have hpassed := System.inversionsPassed_step cfg hr
  rw [step, if_neg hr]
  exact (Nat.add_le_add_right h _).trans hpassed

theorem display_setFrontLed (cfg : Kconfig) {w : FrontWatch} (hpc : w.sys.task = .setFrontLed)
    (hbar : w.leds.Contiguous) (inp : TaskInput) :
    Display (w.step cfg (.sliderTask inp)) := by
  have hleds : (w.step cfg (.sliderTask inp)).leds =
      w.leds.calls (setFrontLed w.sys.dev.oldState) := by
    have hleds := System.step_leds cfg w.sys (.sliderTask inp)
    rw [System.stepCalls, hpc] at hleds
    exact hleds
  have htask : (w.step cfg (.sliderTask inp)).sys.task = .setLevelLed := by
    rw [step, System.step, hpc]
    rfl
  have hstate : (w.step cfg (.sliderTask inp)).sys.dev.oldState = w.sys.dev.oldState := by
    rw [step, System.step, hpc]
    rfl
  have hzero : (w.step cfg (.sliderTask inp)).inversions = 0 := if_pos hpc
  refine ⟨?_, ?_, fun hne => absurd htask hne, ?_, ?_⟩
  · rw [hleds]
    intro i j hj hi hlit
    rw [LedDriver.lit_setFrontLed_bar] at hlit ⊢
    exact hbar i j hj hi hlit
  · rw [hleds]
    exact LedDriver.oneFront_setFrontLed _ _
  · rw [Front, hleds, hstate, hzero, iff_true_right Even.zero]
    exact (lit_setFrontLed _ w.sys.dev.oldState).1
  · rw [hzero]
    exact Nat.zero_le _

theorem display_setLevelLed (cfg : Kconfig) {w : FrontWatch} (hpc : w.sys.task = .setLevelLed)
    (h : w.Display) (inp : TaskInput) : Display (w.step cfg (.sliderTask inp)) := by
  have hleds : (w.step cfg (.sliderTask inp)).leds =
      w.leds.calls (setLevelLed w.sys.dev.shownLevel) := by
    have hleds := System.step_leds cfg w.sys (.sliderTask inp)
    rw [System.stepCalls, hpc] at hleds
    exact hleds
  have hr : ¬ w.sys.RefreshesFront (.sliderTask inp) := by
    rw [System.RefreshesFront, hpc]
    exact SliderPc.noConfusion
  have h9 := lit_setLevelLed_front w.leds w.sys.dev.shownLevel (show (7 : ℤ) < 9 by decide)
  have h8 := lit_setLevelLed_front w.leds w.sys.dev.shownLevel (show (7 : ℤ) < 8 by decide)
  rw [← hleds] at h9 h8
  refine ⟨?_, ?_, fun _ => ?_, front_step cfg h.front hr h9, recent_step cfg h.recent hr⟩
  · rw [hleds]
    exact LedDriver.contiguous_setLevelLed _ _
  · rw [LedDriver.OneFront, h9, h8]
    exact h.oneFront
  · -- no inversion has passed, so the front LED shows `old_state`, and so does the bar
    intro hoff i hi hlit
    have hrecent := h.recent
    rw [hpc] at hrecent
    have hfront := h.front_of_not_inverted (Nat.le_zero.mp hrecent)
    rw [h8] at hoff
    have hs : w.sys.dev.oldState = false := by
      by_contra hon
      exact h.oneFront.mp (hfront.mpr (Bool.eq_true_of_not_eq_false hon)) hoff
    rw [hleds, lit_setLevelLed_iff _ _ hi, Device.shownLevel, hs] at hlit
    simp at hlit

/-- A step that writes no LED keeps the display, and does not enter a refresh. -/
theorem display_of_leds_kept (cfg : Kconfig) {w : FrontWatch} {e : Event} (h : w.Display)
    (hr : ¬ w.sys.RefreshesFront e) (hleds : (w.step cfg e).leds = w.leds)
    (htask : (w.step cfg e).sys.task ≠ .setLevelLed → w.sys.task ≠ .setLevelLed) :
    Display (w.step cfg e) where
  contiguous := by
    rw [hleds]
    exact h.contiguous
  oneFront := by
    rw [hleds]
    exact h.oneFront
  dark := by
    intro hne
    rw [hleds]
    exact h.dark (htask hne)
  front := front_step cfg h.front hr (by rw [hleds])
  recent := recent_step cfg h.recent hr

/-- A step other than the two statements of a refresh writes no LED. -/
theorem leds_step (cfg : Kconfig) (w : FrontWatch) {e : Event} (hf : ¬ w.sys.RefreshesFront e)
    (hl : w.sys.task ≠ .setLevelLed) : (w.step cfg e).leds = w.leds := by
  have hleds := System.step_leds cfg w.sys e
  cases e with
  | sliderTask inp =>
      rw [System.stepCalls, Device.stmtCalls_eq_nil w.sys.dev hf hl] at hleds
      exact hleds
  | signal e => exact hleds
  | appMain => exact hleds

theorem display_step (cfg : Kconfig) {w : FrontWatch} (h : w.Display) (e : Event) :
    Display (w.step cfg e) := by
  cases e with
  | signal e =>
      exact display_of_leds_kept cfg h id (System.step_leds cfg w.sys (.signal e)) id
  | appMain => exact display_of_leds_kept cfg h id (System.step_leds cfg w.sys .appMain) id
  | sliderTask inp =>
      by_cases hf : w.sys.task = .setFrontLed
      · exact display_setFrontLed cfg hf h.contiguous inp
      · by_cases hl : w.sys.task = .setLevelLed
        · exact display_setLevelLed cfg hl h inp
        · exact display_of_leds_kept cfg h hf (leds_step cfg w hf hl) fun _ => hl

/-! ## From power-up -/

/-- Before the first refresh is complete. -/
structure Starting (w : FrontWatch) : Prop where
  contiguous : w.leds.Contiguous
  display : w.sys.task = .setLevelLed ∨ w.sys.task = .delay → Display w

theorem starting_step (cfg : Kconfig) {w : FrontWatch} (h : Starting w) (e : Event) :
    Starting (w.step cfg e) := by
  by_cases hd : w.sys.task = .setLevelLed ∨ w.sys.task = .delay
  · have hstep := display_step cfg (h.display hd) e
    exact ⟨hstep.contiguous, fun _ => hstep⟩
  · have hl : w.sys.task ≠ .setLevelLed := fun heq => hd (.inl heq)
    by_cases hf : w.sys.RefreshesFront e
    · cases e with
      | sliderTask inp =>
          have hstep := display_setFrontLed cfg hf h.contiguous inp
          exact ⟨hstep.contiguous, fun _ => hstep⟩
      | signal e => exact hf.elim
      | appMain => exact hf.elim
    · refine ⟨?_, fun hnext => absurd hnext ?_⟩
      · rw [leds_step cfg w hf hl]
        exact h.contiguous
      · cases e with
        | sliderTask inp =>
            exact (Device.next_sliderStmt cfg inp w.sys.dev w.sys.task).not_refresh hf hl
        | signal e => exact hd
        | appMain => exact hd

theorem starting_boot (leds : LedDriver) (attrs : AttrPath → AttrVal) :
    Starting (boot leds attrs) := by
  refine ⟨?_, fun h => by simp [boot, System.boot] at h⟩
  -- `start` has switched the level LEDs off
  intro i j _ hi hlit
  have hpwm : (boot leds attrs).leds.pwm =
      writeAll leds.pwm ((List.range 8).map fun i : ℕ => ((i : ℤ), 0)) := rfl
  have hzero : (boot leds attrs).leds.pwm (7 - i) = 0 := by
    rw [hpwm]
    apply writeAll_of_agree
    · rw [List.mem_map]
      have hchannel : ((7 - i : ℕ) : ℤ) = 7 - i := by omega
      exact ⟨7 - i, List.mem_range.mpr (by omega), Prod.ext hchannel rfl⟩
    · intro w hw _
      obtain ⟨k, -, rfl⟩ := List.mem_map.mp hw
      rfl
  have hpos := hlit.2
  rw [hzero] at hpos
  exact absurd hpos (by decide)

/-- However the tasks, the remote writes and the interrupts interleave after power-up, once the
first refresh is complete: the bar is lit from its end without a gap; exactly one front LED is
lit; but for the moment between the two statements of a refresh, the bar is dark when the front
LED is that of a light that is off; and the front LED shows `old_state`, inverted as often as
`old_state` has been since the last refresh of the front LEDs, which is at most twice and not
before a press has reached its inversion. -/
theorem display_is_whole (cfg : Kconfig) (leds : LedDriver) (attrs : AttrPath → AttrVal)
    {pre es : List Event}
    (h : (run (System.step cfg) (System.boot leds attrs) pre).task = .delay) :
    Display (run (step cfg) (boot leds attrs) (pre ++ es)) := by
  have hpre := run_invariant (step cfg) Starting (fun _ e h => starting_step cfg h e)
    (starting_boot leds attrs) pre
  have hsys : (run (step cfg) (boot leds attrs) pre).sys =
      run (System.step cfg) (System.boot leds attrs) pre :=
    (List.foldl_hom FrontWatch.sys fun _ _ => rfl).symm
  rw [run_append]
  exact run_invariant (step cfg) Display (fun _ e h => display_step cfg h e)
    (hpre.display (.inr (hsys ▸ h))) es

/-- A press and a remote write after the first refresh. -/
theorem display_is_whole_after_press :
    Display (run (step .noFade) (boot ⟨fun _ => 255, fun _ => true⟩ fun _ => ⟨0, 0⟩)
      (List.replicate 4 (.sliderTask ⟨false, 0, 0⟩) ++
        [.signal (.buttonEdge 1000), .sliderTask ⟨false, 0, 0⟩,
          .signal (.matterWrite (onOffPath 1) ⟨1, 1⟩), .sliderTask ⟨false, 0, 0⟩])) :=
  display_is_whole .noFade _ _ (by decide)

/-- A touch has lit the light that a press had switched off, and the front LEDs are yet to be
written. -/
example :
    let poll : Event := .sliderTask ⟨false, 0, 0⟩
    let w := run (step .noFade) (boot ⟨fun _ => 255, fun _ => true⟩ fun _ => ⟨0, 0⟩)
      (List.replicate 5 poll ++ .signal (.buttonEdge 1000) :: List.replicate 9 poll ++
        List.replicate 15 (.sliderTask ⟨true, 100, 1⟩))
    w.sys.task = .setFrontLed ∧ w.inversions = 1 ∧ w.sys.dev.oldState = true ∧ w.leds.Lit 8 := by
  decide

end FrontWatch

namespace System

/-! ## Registers out of reach -/

theorem calls_of_not_named (l : LedDriver) {cs : List LedCall} {channel : ℤ}
    (h : channel ∉ cs.filterMap LedCall.channel?) :
    (l.calls cs).pwm channel = l.pwm channel ∧
      (l.calls cs).control channel = l.control channel := by
  induction cs generalizing l with
  | nil => exact ⟨rfl, rfl⟩
  | cons c cs ih =>
      rw [List.filterMap_cons] at h
      cases c with
      | setPWM k value =>
          have hne : channel ≠ k := List.ne_of_not_mem_cons h
          obtain ⟨hp, hc⟩ := ih (l.call (.setPWM k value)) (List.not_mem_of_not_mem_cons h)
          exact ⟨hp.trans (Function.update_of_ne hne _ _), hc⟩
      | setLEDControl k status =>
          have hne : channel ≠ k := List.ne_of_not_mem_cons h
          obtain ⟨hp, hc⟩ := ih (l.call (.setLEDControl k status))
            (List.not_mem_of_not_mem_cons h)
          exact ⟨hp, hc.trans (Function.update_of_ne hne _ _)⟩
      | updatePWM => exact ih l h

/-- A level takes at most twenty LEDs, counted down from channel 7. -/
theorem channels_stmtCalls (d : Device) (pc : SliderPc) {channel : ℤ}
    (h : channel ∈ (d.stmtCalls pc).filterMap LedCall.channel?) :
    -12 ≤ channel ∧ channel ≤ 9 := by
  cases pc with
  | setFrontLed =>
      have hmem : channel ∈ [(9 : ℤ), 9, 8, 8] := h
      simp only [List.mem_cons, List.not_mem_nil, or_false] at hmem
      omega
  | setLevelLed =>
      obtain ⟨i, rfl, hi⟩ := (mem_channels_setLevelLed d.shownLevel channel).mp h
      have hlt := d.shownLevel.toNat_lt
      split at hi <;> omega
  | _ => exact absurd h List.not_mem_nil

/-- In no interleaving from power-up does the device write a register of a channel above 9 or
below -12. A channel is the `int` value of the expression that is passed: which registers the
negative ones reach is decided by the parameter type of the LED driver, which is not here. -/
theorem registers_out_of_reach (cfg : Kconfig) (leds : LedDriver) (attrs : AttrPath → AttrVal)
    (es : List Event) {channel : ℤ} (h : channel < -12 ∨ 9 < channel) :
    let l := (run (System.step cfg) (boot leds attrs) es).dev.slider.ledLevelDriver
    l.pwm channel = leds.pwm channel ∧ l.control channel = leds.control channel := by
  apply run_invariant (System.step cfg) fun s =>
    s.dev.slider.ledLevelDriver.pwm channel = leds.pwm channel ∧
      s.dev.slider.ledLevelDriver.control channel = leds.control channel
  · intro s e hs
    have hnot : channel ∉ (s.stepCalls e).filterMap LedCall.channel? := by
      intro hmem
      cases e with
      | sliderTask inp =>
          have hr := channels_stmtCalls s.dev s.task hmem
          omega
      | signal e => exact List.not_mem_nil hmem
      | appMain => exact List.not_mem_nil hmem
    obtain ⟨hp, hc⟩ := calls_of_not_named s.dev.slider.ledLevelDriver hnot
    rw [step_leds]
    exact ⟨hp.trans hs.1, hc.trans hs.2⟩
  · have hstart : (boot leds attrs).dev.slider.ledLevelDriver =
        leds.calls ((List.range 8).flatMap fun i : ℕ =>
          [.setPWM i 0, .setLEDControl i false, .updatePWM]) := rfl
    rw [hstart]
    apply calls_of_not_named
    intro hmem
    have hle : 0 ≤ channel ∧ channel ≤ 7 := by
      simp [List.filterMap_flatMap, LedCall.channel?] at hmem
      omega
    omega

/-- The channel next to the front LEDs, through the first refresh. -/
theorem registers_out_of_reach_next :
    let l := (run (System.step .noFade) (boot ⟨fun _ => 1, fun _ => false⟩ fun _ => ⟨0, 0⟩)
      (List.replicate 4 (.sliderTask ⟨false, 0, 0⟩))).dev.slider.ledLevelDriver
    l.pwm 10 = 1 ∧ l.control 10 = false :=
  registers_out_of_reach .noFade _ _ _ (by decide)

end System

end MatterSwitch
