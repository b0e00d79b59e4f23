import MatterSwitch.Verification.Command.Equations

/-! # Remote writes between the statements

Both tasks apply a value a second time after their `attribute::update` has returned: the
slider task assigns `old_level`, `app_driver_set_default` calls the driver. A remote write
that falls in between is undone by that second application. -/

namespace MatterSwitch

open SliderDriver Transition

namespace Device

/-- The driver level that a list of attribute writes commands, the latest first, each write
taking effect once and in its turn: a level write sets its level, switching off sets zero. -/
def commandedLevel : List (AttrPath × AttrVal) → UInt8
  | [] => 0
  | (path, val) :: writes =>
      if path = onOffPath 1 then if val.b then commandedLevel writes else 0
      else if path = currentLevelPath 1 then matterLevel val.u8
      else commandedLevel writes

/-- The driver has the level that the attribute writes command. -/
def LevelCommanded (d : Device) : Prop := d.slider.mLevel = commandedLevel d.matter.writes

theorem levelCommanded_attributeUpdate (cfg : Kconfig) (path : AttrPath) (val : AttrVal)
    {d : Device} (h : d.LevelCommanded) : (d.attributeUpdate cfg path val).LevelCommanded := by
  have hlight := congrArg Light.level (light_attributeUpdate cfg path val d)
  change (d.attributeUpdate cfg path val).slider.mLevel = _ at hlight
  rw [LevelCommanded, hlight, (attributeUpdate_recorded cfg path val d).writes, commandedLevel,
    ← h, writeEvents]
  by_cases hp : path = onOffPath 1
  · rw [if_pos hp, if_pos hp]
    exact Light.setPower_level cfg val.b { d.light with relay := val.b, onOff := val.b }
  · rw [if_neg hp, if_neg hp]
    split <;> rfl

theorem LevelCommanded.of_eq {d d' : Device} (h : d.LevelCommanded)
    (hw : d'.matter.writes = d.matter.writes) (hl : d'.slider.mLevel = d.slider.mLevel) :
    d'.LevelCommanded := by
  rw [LevelCommanded, hw, hl]
  exact h

theorem levelCommanded_signal (cfg : Kconfig) {d : Device} (h : d.LevelCommanded) (e : Signal) :
    (d.signal cfg e).LevelCommanded := by
  cases e with
  | matterWrite path val => exact levelCommanded_attributeUpdate cfg path val h
  | buttonEdge tickNow =>
      apply h.of_eq
      · simp only [signal, buttonCb]
        split <;> rfl
      · exact congrArg Light.level (light_buttonCb tickNow d)
  | zeroCross => exact h.of_eq rfl rfl
  | timerAlarm => exact h.of_eq rfl (onTimerAlarmCb_frame cfg d.slider).mLevel

theorem levelCommanded_sliderStmt (cfg : Kconfig) (inp : TaskInput) {d : Device}
    (h : d.LevelCommanded) (pc : SliderPc) : (d.sliderStmt cfg inp pc).1.LevelCommanded := by
  cases pc with
  | updateOnOff attrVal => exact levelCommanded_attributeUpdate cfg (onOffPath 1) attrVal h
  | updateLevel attrVal =>
      exact levelCommanded_attributeUpdate cfg (currentLevelPath 1) attrVal h
  | updateOn attrVal => exact levelCommanded_attributeUpdate cfg (onOffPath 1) attrVal h
  | readLevel =>
      simp only [sliderStmt, getLevel_eq]
      exact h.of_eq rfl rfl
  | _ => exact h.of_eq rfl rfl

/-- If the last attribute write was a `CurrentLevel` write, the driver has its level. -/
def LevelFollowed (d : Device) : Prop :=
  ∀ val, d.matter.writes.head? = some (currentLevelPath 1, val) →
    d.slider.mLevel = matterLevel val.u8

theorem LevelCommanded.followed {d : Device} (h : d.LevelCommanded) : d.LevelFollowed := by
  intro val hval
  obtain ⟨writes, hwrites⟩ := List.head?_eq_some_iff.mp hval
  rw [h, hwrites]
  rfl

/-- Every statement but the assignment of `old_level` acts on the light by attribute
writes only. -/
theorem write_sliderEvents (d : Device) {pc : SliderPc} (h : ∀ attrVal, pc ≠ .saveLevel attrVal) :
    ∀ o ∈ d.sliderEvents pc, o.Write := by
  cases pc with
  | saveLevel attrVal => exact absurd rfl (h attrVal)
  | _ => simp [sliderEvents, LightEvent.Write]

/-- What a device at rest owes to the remote commands: the copies agree with the attributes, and
the driver has the level that the writes command, that of the last write if it was a level. -/
structure Settled (d : Device) : Prop where
  oldLevel_eq : d.oldLevel = d.currentLevel.toUInt16
  relay_eq : d.relay = d.onOff
  mIsOn_eq : d.slider.mIsOn = d.onOff
  levelFollowed : d.LevelFollowed
  levelCommanded : d.LevelCommanded

end Device

/-- `app_driver_set_default` has written the level. -/
def MainPc.LevelWritten : MainPc → Prop
  | .loadLevel => False
  | .updateLevel _ => False
  | _ => True

instance : DecidablePred MainPc.LevelWritten := fun pc => by
  unfold MainPc.LevelWritten
  split <;> infer_instance

/-- `app_driver_set_default` has written the power. -/
def MainPc.PowerWritten : MainPc → Prop
  | .applyPower _ => True
  | .returned => True
  | _ => False

namespace System

/-- When `old_level` is assigned, the attribute still has the level that was written, or
`app_driver_set_default` is yet to write it; when `app_driver_set_default` calls
`set_brightness`, the writes so far still command that level; and when it calls `set_power`,
the attribute still has that power. -/
def NotOvertaken (s : System) : Event → Prop
  | .signal _ => True
  | .sliderTask _ =>
      match s.task with
      | .saveLevel _ => s.main.LevelWritten → s.dev.currentLevel = s.dev.level
      | _ => True
  | .appMain =>
      match s.main with
      | .applyBrightness val =>
          Device.commandedLevel s.dev.matter.writes = matterLevel val.u8
      | .applyPower val => s.dev.onOff = val.b
      | _ => True

instance (s : System) (e : Event) : Decidable (s.NotOvertaken e) := by
  unfold NotOvertaken
  split
  · infer_instance
  · split <;> infer_instance
  · split <;> infer_instance

/-- What holds between the statements, from the attribute write of each kind on. -/
structure Tracked (s : System) : Prop where
  remembered : s.main.LevelWritten → s.dev.light.Remembered
  powered : s.main.PowerWritten → s.dev.light.Powered
  levelCommanded : s.dev.LevelCommanded
  default_b : ∀ val, s.main = .updatePower val ∨ s.main = .applyPower val → val.b = true

theorem tracked_signal (cfg : Kconfig) {s : System} (h : Tracked s) (e : Signal) :
    Tracked (s.step cfg (.signal e)) where
  remembered hm := (refinement cfg).step_invariant Light.Remembered
    (fun _ _ hl ho => Light.remembered_step cfg hl ho)
    (h.remembered hm) (Device.write_signalEvents e)
  powered hm := (refinement cfg).step_invariant Light.Powered
    (fun _ _ hl ho => Light.powered_step cfg hl ho)
    (h.powered hm) (Device.regular_signalEvents e)
  levelCommanded := Device.levelCommanded_signal cfg h.levelCommanded e
  default_b := h.default_b

theorem tracked_sliderTask (cfg : Kconfig) {s : System} (h : Tracked s) (inp : TaskInput)
    (hn : s.NotOvertaken (.sliderTask inp)) : Tracked (s.step cfg (.sliderTask inp)) where
  remembered hm := by
    by_cases hpc : ∃ attrVal, s.task = .saveLevel attrVal
    · obtain ⟨attrVal, hpc⟩ := hpc
      rw [NotOvertaken, hpc] at hn
      rw [light_step, events, hpc]
      exact congrArg UInt8.toUInt16 (hn hm).symm
    · rw [not_exists] at hpc
      exact (refinement cfg).step_invariant Light.Remembered
        (fun _ _ hl ho => Light.remembered_step cfg hl ho)
        (h.remembered hm) (s.dev.write_sliderEvents hpc)
  powered hm := (refinement cfg).step_invariant Light.Powered
    (fun _ _ hl ho => Light.powered_step cfg hl ho)
    (h.powered hm) (s.dev.regular_sliderEvents s.task)
  levelCommanded := Device.levelCommanded_sliderStmt cfg inp h.levelCommanded s.task
  default_b := h.default_b

/-- The direct `set_brightness` changes nothing if the writes still command its level. -/
theorem tracked_applyBrightness (cfg : Kconfig) {d : Device} {task : SliderPc} {val : AttrVal}
    (h : Tracked ⟨d, task, .applyBrightness val⟩)
    (hn : Device.commandedLevel d.matter.writes = matterLevel val.u8) :
    Tracked (step cfg ⟨d, task, .applyBrightness val⟩ .appMain) := by
  have hl : (step cfg ⟨d, task, .applyBrightness val⟩ .appMain).dev.light =
      d.light.setLevel cfg (matterLevel val.u8) :=
    Device.light_appDriverLightSetBrightness cfg val d
  refine ⟨fun _ => ?_, False.elim, ?_, by simp [step, Device.mainStmt]⟩
  · rw [hl]
    exact h.remembered trivial
  · have hlevel := congrArg Light.level hl
    rw [Light.setLevel_level, ← hn] at hlevel
    exact hlevel

/-- The power write of `app_driver_set_default` brings the copies of the power together. -/
theorem tracked_updatePower (cfg : Kconfig) {d : Device} {task : SliderPc} {val : AttrVal}
    (h : Tracked ⟨d, task, .updatePower val⟩) :
    Tracked (step cfg ⟨d, task, .updatePower val⟩ .appMain) := by
  refine ⟨fun _ => ?_, fun _ => ?_, ?_, ?_⟩
  · rw [light_step]
    exact Light.remembered_step cfg (h.remembered trivial) (o := .power val.b) trivial
  · rw [light_step]
    exact ⟨by simp [events, Device.mainEvents, Light.step],
      by simp [events, Device.mainEvents, Light.step]⟩
  · exact Device.levelCommanded_attributeUpdate cfg (onOffPath 1) val h.levelCommanded
  · intro val' hval
    rcases hval with hval | hval
    · exact MainPc.noConfusion hval
    · rw [← MainPc.applyPower.inj hval]
      exact h.default_b val (.inl rfl)

/-- The direct `set_power` that follows keeps them together if the attribute still has that
power. -/
theorem tracked_applyPower (cfg : Kconfig) {d : Device} {task : SliderPc} {val : AttrVal}
    (h : Tracked ⟨d, task, .applyPower val⟩) (hn : d.onOff = val.b) :
    Tracked (step cfg ⟨d, task, .applyPower val⟩ .appMain) := by
  have hb : val.b = true := h.default_b val (.inr rfl)
  have hr : d.light.Remembered := h.remembered trivial
  have hp : d.light.Powered := h.powered trivial
  have hl : (step cfg ⟨d, task, .applyPower val⟩ .appMain).dev.light =
      d.light.setPower cfg val.b := Device.light_appDriverLightSetPower cfg val d
  refine ⟨fun _ => ?_, fun _ => ?_, ?_, by simp [step, Device.mainStmt]⟩
  · rw [hl, Light.Remembered, Light.setPower_oldLevel, Light.setPower_currentLevel]
    exact hr
  · rw [hl]
    refine ⟨?_, ?_⟩
    · rw [Light.setPower_relay, Light.setPower_onOff]
      exact hp.relay_eq
    · rw [Light.setPower_isOn, Light.setPower_onOff]
      exact hn.symm
  · refine Device.LevelCommanded.of_eq (d := d) h.levelCommanded rfl ?_
    have hlevel := congrArg Light.level hl
    rw [Light.setPower_level, hb, if_pos rfl] at hlevel
    exact hlevel

theorem tracked_appMain (cfg : Kconfig) {s : System} (h : Tracked s)
    (hn : s.NotOvertaken .appMain) : Tracked (s.step cfg .appMain) := by
  obtain ⟨d, task, main⟩ := s
  cases main with
  | loadLevel => exact ⟨False.elim, False.elim, h.levelCommanded, by simp [step, Device.mainStmt]⟩
  | updateLevel val =>
      refine ⟨fun _ => ?_, False.elim, ?_, by simp [step, Device.mainStmt]⟩
      · rw [light_step]
        rfl
      · exact Device.levelCommanded_attributeUpdate cfg (currentLevelPath 1) val h.levelCommanded
  | applyBrightness val => exact tracked_applyBrightness cfg h hn
  | loadPower =>
      refine ⟨fun _ => h.remembered trivial, False.elim, h.levelCommanded, ?_⟩
      intro val hval
      rcases hval with hval | hval
      · rw [← MainPc.updatePower.inj hval]
        exact AttrVal.setB_b _ _
      · exact MainPc.noConfusion hval
  | updatePower val => exact tracked_updatePower cfg h
  | applyPower val => exact tracked_applyPower cfg h hn
  | returned => exact h

theorem tracked_step (cfg : Kconfig) {s : System} {e : Event} (h : Tracked s)
    (hn : s.NotOvertaken e) : Tracked (s.step cfg e) := by
  cases e with
  | signal e => exact tracked_signal cfg h e
  | sliderTask inp => exact tracked_sliderTask cfg h inp hn
  | appMain => exact tracked_appMain cfg h hn

/-- A step that is overtaken undoes the remote write. -/
theorem not_settled_of_overtaken (cfg : Kconfig) {s : System} {e : Event}
    (h : ¬ s.NotOvertaken e) : ¬ (s.step cfg e).dev.Settled := by
  obtain ⟨d, task, main⟩ := s
  intro hs
  apply h
  cases e with
  | signal e => trivial
  | sliderTask inp =>
      cases task with
      | saveLevel attrVal =>
          intro _
          have hl : d.level.toUInt16 = d.currentLevel.toUInt16 := hs.oldLevel_eq
          apply UInt8.toNat_inj.mp
          rw [← UInt8.toNat_toUInt16, ← UInt8.toNat_toUInt16, hl]
      | _ => trivial
  | appMain =>
      cases main with
      | applyBrightness val =>
          have hlevel : (d.light.setLevel cfg (matterLevel val.u8)).level =
              Device.commandedLevel d.matter.writes := by
            rw [← Device.light_appDriverLightSetBrightness]
            exact hs.levelCommanded
          exact hlevel.symm
      | applyPower val =>
          have hon : (d.light.setPower cfg val.b).isOn = (d.light.setPower cfg val.b).onOff := by
            rw [← Device.light_appDriverLightSetPower]
            exact hs.mIsOn_eq
          rw [Light.setPower_isOn, Light.setPower_onOff] at hon
          exact hon.symm
      | _ => trivial

/-- Along a run that nothing overtakes, the device is settled once `app_driver_set_default`
has returned; and a step that is overtaken leaves it unsettled. -/
theorem settled_of_not_overtaken (cfg : Kconfig) (leds : LedDriver)
    (attrs : AttrPath → AttrVal) (es : List Event)
    (hn : Along (System.step cfg) NotOvertaken (boot leds attrs) es)
    (hm : (run (System.step cfg) (boot leds attrs) es).main = .returned) :
    (run (System.step cfg) (boot leds attrs) es).dev.Settled ∧
      ∀ s e, ¬ NotOvertaken s e → ¬ (s.step cfg e).dev.Settled := by
  have hboot : Tracked (boot leds attrs) := ⟨False.elim, False.elim, rfl, by simp [boot]⟩
  have h := run_invariant_of_along (System.step cfg) Tracked (fun _ _ => tracked_step cfg) hboot hn
  have hr := h.remembered (by rw [hm]; trivial)
  have hp := h.powered (by rw [hm]; trivial)
  have hl := h.levelCommanded
  exact ⟨⟨hr, hp.relay_eq, hp.isOn_eq, hl.followed, hl⟩, fun _ _ => not_settled_of_overtaken cfg⟩

/-- `app_driver_set_default`, and a touch of the top electrode up to the assignment of
`old_level`. -/
def touchUntilSave : List Event :=
  List.replicate 6 .appMain ++ List.replicate 10 (.sliderTask ⟨true, 100, 1⟩)

/-- The touch is saved before the remote level arrives. -/
theorem settled_late_remote_level :
    (run (System.step .noFade) (boot ⟨fun _ => 0, fun _ => false⟩ fun _ => ⟨0, 0⟩)
      (touchUntilSave ++
        [.sliderTask ⟨false, 0, 0⟩, .signal (.matterWrite (currentLevelPath 1) ⟨8, 100⟩)] ++
        List.replicate 4 (.sliderTask ⟨false, 0, 0⟩))).dev.Settled :=
  (settled_of_not_overtaken .noFade _ _ _ (by decide) (by decide)).1

/-- The remote level arrives first, and `old_level` keeps the touch. -/
theorem early_remote_level_is_forgotten :
    let s := run (System.step .noFade) (boot ⟨fun _ => 0, fun _ => false⟩ fun _ => ⟨0, 0⟩)
      (touchUntilSave ++
        [.signal (.matterWrite (currentLevelPath 1) ⟨8, 100⟩), .sliderTask ⟨false, 0, 0⟩] ++
        List.replicate 4 (.sliderTask ⟨false, 0, 0⟩))
    s.task = .testPressed ∧ s.main = .returned ∧ ¬ s.dev.Settled :=
  ⟨by decide, by decide, fun h => absurd h.oldLevel_eq (by decide)⟩

-- A remote level between the default level write and the direct call: 70 percent, not 39.
example :
    let s := run (System.step .noFade) (boot ⟨fun _ => 0, fun _ => false⟩ fun _ => ⟨0, 0⟩)
      (List.replicate 2 .appMain ++
        [.signal (.matterWrite (currentLevelPath 1) ⟨8, 100⟩)] ++ List.replicate 4 .appMain)
    s.main = .returned ∧ s.dev.currentLevel = 100 ∧ s.dev.slider.mLevel = 70 ∧
      Device.commandedLevel s.dev.matter.writes = 39 := by
  decide

-- And switched off between the default power write and the direct call.
example :
    let s := run (System.step .noFade) (boot ⟨fun _ => 0, fun _ => false⟩ fun _ => ⟨0, 0⟩)
      (List.replicate 5 .appMain ++
        [.signal (.matterWrite (onOffPath 1) ⟨1, 0⟩), .appMain])
    s.main = .returned ∧ s.dev.onOff = false ∧ s.dev.slider.mIsOn = true := by
  decide

end System

end MatterSwitch
