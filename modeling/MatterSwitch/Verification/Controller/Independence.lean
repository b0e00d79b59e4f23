import MatterSwitch.Transition.Noninterference
import MatterSwitch.Verification.Controller.Machine
import MatterSwitch.Verification.Task.Races

/-! # What the controller cannot depend on

The interrupts of the triac, the LED registers and foreign attributes never reach the
controller, and once `app_driver_set_default` has returned neither does what the attribute
store held at power-up. -/

namespace MatterSwitch

open SliderDriver Transition

/-! ## Interrupts and foreign attributes -/

/-- The events that the controller reacts to. -/
def Event.visible : Event → Bool
  | .signal (.matterWrite path _) => path = onOffPath 1 || path = currentLevelPath 1
  | .signal .zeroCross => false
  | .signal .timerAlarm => false
  | _ => true

theorem Controller.step_of_hidden (cfg : Kconfig) (c : Controller) {e : Event}
    (h : e.visible = false) : c.step cfg e = c := by
  cases e with
  | signal e =>
      cases e with
      | matterWrite path val =>
          simp only [Event.visible, Bool.or_eq_false_iff, decide_eq_false_iff_not] at h
          rw [step, signal, write, if_neg h.1, if_neg h.2]
      | buttonEdge tickNow => exact Bool.noConfusion h
      | zeroCross => rfl
      | timerAlarm => rfl
  | sliderTask inp => exact Bool.noConfusion h
  | appMain => exact Bool.noConfusion h

namespace System

theorem controller_unwinding (cfg : Kconfig) :
    Unwinding (System.step cfg) Event.visible fun s t => s.controller = t.controller := by
  apply Unwinding.of_observation
  · intro s t e _ h
    rw [controller_step, controller_step, h]
  · intro s e hv
    rw [controller_step, Controller.step_of_hidden cfg _ hv]

/-- Two runs that differ in the interrupts of the triac and in foreign attributes only take
the same decisions, whatever their gates, their LED registers and the rest of their stores
hold. -/
theorem controller_blind (cfg : Kconfig) {s t : System} (h : s.controller = t.controller)
    {es fs : List Event} (hf : es.filter Event.visible = fs.filter Event.visible) :
    (run (System.step cfg) s es).controller = (run (System.step cfg) t fs).controller :=
  (controller_unwinding cfg).run_of_filter_eq h hf

/-- A mains that is on against one that is not. -/
theorem controller_blind_mains :
    (run (System.step .noFade) (boot ⟨fun _ => 0, fun _ => false⟩ fun _ => ⟨0, 0⟩)
        [.signal .zeroCross, .appMain, .signal .timerAlarm, .appMain,
          .signal (.matterWrite (onOffPath 2) ⟨1, 1⟩), .sliderTask ⟨false, 0, 0⟩]).controller =
      (run (System.step .noFade) (boot ⟨fun _ => 7, fun _ => true⟩ fun _ => ⟨0, 0⟩)
        [.appMain, .appMain, .sliderTask ⟨false, 0, 0⟩]).controller := by
  refine controller_blind .noFade ?_ ?_
  · rw [controller_boot, controller_boot]
  · decide

end System

/-! ## Values stored before power-up -/

namespace Light

/-- The light without the attributes that are not known yet. -/
def known (level power : Bool) (l : Light) : Light :=
  { l with
    currentLevel := if level then l.currentLevel else 0
    onOff := if power then l.onOff else false }

variable (cfg : Kconfig) (level power : Bool) (l : Light)

/-- No event reads the attributes. -/
theorem known_step (o : LightEvent) :
    ((l.known level power).step cfg o).known level power =
      (l.step cfg o).known level power := by
  cases o with
  | power b => cases b <;> cases level <;> cases power <;> rfl
  | dim v => cases level <;> cases power <;> rfl
  | remember v => cases level <;> cases power <;> rfl
  | applyPower b => cases b <;> cases level <;> cases power <;> rfl
  | applyBrightness v => cases level <;> cases power <;> rfl

/-- A level write makes the level known. -/
theorem known_step_dim (v : UInt8) :
    ((l.known level power).step cfg (.dim v)).known true power =
      (l.step cfg (.dim v)).known true power := by
  cases power <;> rfl

/-- A power write makes the power known. -/
theorem known_step_power (b : Bool) :
    ((l.known level power).step cfg (.power b)).known level true =
      (l.step cfg (.power b)).known level true := by
  cases b <;> cases level <;> rfl

end Light

namespace Controller

/-- The controller without the attributes that are not known yet. -/
def known (level power : Bool) (c : Controller) : Controller :=
  { c with light := c.light.known level power }

variable (cfg : Kconfig) (level power : Bool) (c : Controller)

theorem known_dim (o : LightEvent) :
    ((c.known level power).dim cfg o).known level power = (c.dim cfg o).known level power := by
  have h := c.light.known_step cfg level power o
  simp only [known, dim, h]
  rfl

theorem known_power (b : Bool) (o : LightEvent) :
    ((c.known level power).power cfg b o).known level power =
      (c.power cfg b o).known level power := by
  have h := c.light.known_step cfg level power o
  simp only [known, Controller.power, h]
  rfl

theorem known_write (path : AttrPath) (val : AttrVal) :
    ((c.known level power).write cfg path val).known level power =
      (c.write cfg path val).known level power := by
  rw [write, write]
  split
  · exact known_power cfg level power c val.b (.power val.b)
  · split
    · exact known_dim cfg level power c (.dim val.u8)
    · cases level <;> cases power <;> rfl

theorem known_signal (e : Signal) :
    ((c.known level power).signal cfg e).known level power =
      (c.signal cfg e).known level power := by
  cases e with
  | matterWrite path val => exact known_write cfg level power c path val
  | _ => cases level <;> cases power <;> rfl

theorem known_sliderTask (inp : TaskInput) :
    ((c.known level power).sliderTask cfg inp).known level power =
      (c.sliderTask cfg inp).known level power := by
  have hw := fun path val pc => congrArg (fun c : Controller => { c with task := pc })
    (known_write cfg level power c path val)
  obtain ⟨light, saved, isPressed, oldState, clevel, oldTickBtn, oldTickTouch, task, main⟩ := c
  cases task with
  | updateOnOff attrVal => exact hw (onOffPath 1) attrVal .invertState
  | updateLevel attrVal => exact hw (currentLevelPath 1) attrVal (.saveLevel attrVal)
  | updateOn attrVal => exact hw (onOffPath 1) attrVal .invertOn
  | _ => cases level <;> cases power <;> rfl

end Controller

/-! ## Up to the return of `app_driver_set_default` -/

namespace MainPc

instance : DecidablePred PowerWritten := fun pc => by
  unfold PowerWritten
  split <;> infer_instance

end MainPc

namespace Controller

/-- The controller without the attributes that `app_driver_set_default` is yet to write. -/
def booted (c : Controller) : Controller :=
  c.known (decide c.main.LevelWritten) (decide c.main.PowerWritten)

theorem booted_of_returned {c : Controller} (h : c.main = .returned) : c.booted = c := by
  rw [booted, h]
  rfl

/-- The two writes of `app_driver_set_default` make their attributes known. -/
theorem booted_appMain (cfg : Kconfig) (c : Controller) :
    (c.booted.appMain cfg).booted = (c.appMain cfg).booted := by
  obtain ⟨light, saved, isPressed, oldState, level, oldTickBtn, oldTickTouch, task, main⟩ := c
  cases main with
  | loadLevel => rfl
  | updateLevel val =>
      have h := light.known_step_dim cfg false false val.u8
      exact congrArg (Controller.mk · light.level isPressed oldState level oldTickBtn oldTickTouch
        task (.applyBrightness val)) h
  | applyBrightness val =>
      have h := light.known_step cfg true false (.applyBrightness val.u8)
      exact congrArg (Controller.mk · light.level isPressed oldState level oldTickBtn oldTickTouch
        task .loadPower) h
  | loadPower => rfl
  | updatePower val =>
      have h := light.known_step_power cfg true false val.b
      exact congrArg (Controller.mk · (if val.b then saved else light.level) isPressed oldState
        level oldTickBtn oldTickTouch task (.applyPower val)) h
  | applyPower val => rfl
  | returned => rfl

theorem main_signal (cfg : Kconfig) (c : Controller) (e : Signal) :
    (c.signal cfg e).main = c.main := by
  cases e with
  | matterWrite path val =>
      rw [signal, write]
      split
      · rfl
      · split <;> rfl
  | _ => rfl

theorem main_sliderTask (cfg : Kconfig) (inp : TaskInput) (c : Controller) :
    (c.sliderTask cfg inp).main = c.main := by
  obtain ⟨light, saved, isPressed, oldState, level, oldTickBtn, oldTickTouch, task, main⟩ := c
  cases task <;> rfl

/-- A step is decided by what is known. -/
theorem booted_step (cfg : Kconfig) (c : Controller) (e : Event) :
    (c.booted.step cfg e).booted = (c.step cfg e).booted := by
  cases e with
  | signal e =>
      simp only [step, booted, main_signal]
      exact known_signal cfg _ _ c e
  | sliderTask inp =>
      simp only [step, booted, main_sliderTask]
      exact known_sliderTask cfg _ _ c inp
  | appMain => exact booted_appMain cfg c

end Controller

namespace System

theorem booted_unwinding (cfg : Kconfig) :
    Unwinding (System.step cfg) Event.visible
      fun s t => s.controller.booted = t.controller.booted := by
  refine Unwinding.of_observation (τ := Controller) ?_ ?_
  · intro s t e _ h
    rw [controller_step, controller_step, ← Controller.booted_step, h, Controller.booted_step]
  · intro s e hv
    rw [controller_step, Controller.step_of_hidden cfg _ hv]

/-- Power-up is the same for every content of the LED registers and of the store, the two
attributes apart. -/
theorem booted_boot (leds leds' : LedDriver) (attrs attrs' : AttrPath → AttrVal) :
    (boot leds attrs).controller.booted = (boot leds' attrs').controller.booted := by
  rw [controller_boot, controller_boot]
  rfl

theorem untyped_eq_returned_iff (pc : MainPc) : pc.untyped = .returned ↔ pc = .returned := by
  cases pc <;> simp [MainPc.untyped]

/-- Once `app_driver_set_default` has returned, the controller is decided by the visible events
since power-up: neither the attribute values in the store nor the LED registers have left a
trace. -/
theorem controller_forgets_store (cfg : Kconfig) (leds leds' : LedDriver)
    (attrs attrs' : AttrPath → AttrVal) {es fs : List Event}
    (hf : es.filter Event.visible = fs.filter Event.visible)
    (hm : (run (System.step cfg) (boot leds attrs) es).main = .returned) :
    (run (System.step cfg) (boot leds attrs) es).controller =
      (run (System.step cfg) (boot leds' attrs') fs).controller := by
  have h := (booted_unwinding cfg).run_of_filter_eq (booted_boot leds leds' attrs attrs') hf
  have hs : (run (System.step cfg) (boot leds attrs) es).controller.main = .returned :=
    (untyped_eq_returned_iff _).mpr hm
  have ht : (run (System.step cfg) (boot leds' attrs') fs).controller.main = .returned :=
    (congrArg Controller.main h).symm.trans hs
  rw [Controller.booted_of_returned hs, Controller.booted_of_returned ht] at h
  exact h

/-- A store that says full level and on, against a blank one. -/
theorem controller_forgets_full_level :
    (run (System.step .noFade) (boot ⟨fun _ => 0, fun _ => false⟩ fun _ => ⟨2, 254⟩)
        (List.replicate 6 .appMain ++ [.signal .zeroCross])).controller =
      (run (System.step .noFade) (boot ⟨fun _ => 0, fun _ => false⟩ fun _ => ⟨0, 0⟩)
        (List.replicate 6 .appMain)).controller :=
  controller_forgets_store .noFade _ _ _ _ (by decide) (by decide)

end System

end MatterSwitch
