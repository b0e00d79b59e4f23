import MatterSwitch.Verification.Command.Alarm
import MatterSwitch.Verification.Task.Driver

/-! # From the level to the firing delay

A level reaches the timer with the next power command. Until another power command comes, the
alarm stays in force whatever else happens. In the build without fading it is the earlier the
higher the level. -/

namespace MatterSwitch

open SliderDriver Transition

/-! ## The dimming curve -/

/-- The higher the level, the earlier the gate fires. -/
theorem firingDelay_lt {a b : UInt8} (ha : ValidLevel a) (hb : ValidLevel b)
    (h : a.toNat < b.toNat) : firingDelay b < firingDelay a := by
  have hb2 : 2 ≤ b.toNat ∧ b.toNat ≤ 100 := by
    rcases hb with rfl | hb
    · exact absurd h (Nat.not_lt_zero _)
    · exact hb
  rw [firingDelay_of_two_le hb2.1 hb2.2]
  rcases ha with rfl | ⟨ha2, ha⟩
  · rw [firingDelay_zero, maxInterval]
    omega
  · rw [firingDelay_of_two_le ha2 ha]
    omega

theorem firingDelay_lt_iff {a b : UInt8} (ha : ValidLevel a) (hb : ValidLevel b) :
    firingDelay b < firingDelay a ↔ a.toNat < b.toNat := by
  constructor
  · intro h
    by_contra hle
    rcases Nat.lt_or_eq_of_le (Nat.le_of_not_lt hle) with hlt | heq
    · exact absurd (firingDelay_lt hb ha hlt) (Int.not_lt.mpr (Int.le_of_lt h))
    · rw [UInt8.toNat_inj.mp heq] at h
      exact Int.lt_irrefl _ h
  · exact firingDelay_lt ha hb

/-- A brighter attribute never asks for a lower level. -/
theorem matterLevel_mono {v v' : UInt8} (h : v.toNat ≤ v'.toNat) :
    (matterLevel v).toNat ≤ (matterLevel v').toNat := by
  have hv := remap_toNat v
  have hv' := remap_toNat v'
  rw [matterLevel, matterLevel, normLevel, normLevel]
  split
  · exact Nat.zero_le _
  · rename_i h1
    have hne : (UInt8.ofNat (v.toNat * 100 / 254)).toNat ≠ 1 :=
      fun he => h1 (UInt8.toNat_inj.mp he)
    split
    · rename_i h1'
      rw [h1'] at hv'
      change 1 = _ at hv'
      change _ ≤ 0
      omega
    · omega

namespace SliderDriver

/-- Committing an interval that the timer takes. -/
theorem alarm_commitInterval {d : SliderDriver} (h : Unfaded d) (h0 : 0 < d.interval)
    (h1 : d.interval ≤ maxInterval) :
    (d.commitInterval.timerHandle.alarm.alarmCount.toNat : ℤ) = d.interval := by
  have hcount := toNat_ofInt_interval (Int.le_of_lt h0) h1
  have htaken : ¬ (d.alarmConfig.autoReloadOnAlarm = true ∧
      UInt64.ofInt d.interval = d.alarmConfig.reloadCount) := by
    intro hr
    rw [h.reloadCount] at hr
    rw [hr.2] at hcount
    change (0 : ℤ) = _ at hcount
    omega
  rw [commitInterval]
  simp only [GpTimer.setAlarmAction]
  rw [if_neg htaken]
  exact hcount

end SliderDriver

/-! ## Between power commands -/

namespace System

/-- The step does not call `set_power`. -/
def KeepsPower (s : System) : Event → Prop
  | .signal (.matterWrite path _) => path ≠ onOffPath 1
  | .signal _ => True
  | .sliderTask _ => ¬ (s.task matches .updateOnOff _ | .updateOn _)
  | .appMain => ¬ (s.main matches .updatePower _ | .applyPower _)

instance (s : System) : (e : Event) → Decidable (s.KeepsPower e)
  | .signal (.matterWrite _ _) => inferInstanceAs (Decidable (_ ≠ _))
  | .signal (.buttonEdge _) => isTrue trivial
  | .signal .zeroCross => isTrue trivial
  | .signal .timerAlarm => isTrue trivial
  | .sliderTask _ => inferInstanceAs (Decidable (¬ _))
  | .appMain => inferInstanceAs (Decidable (¬ _))

theorem attributeUpdate_alarm (cfg : Kconfig) {path : AttrPath} (val : AttrVal) (d : Device)
    (h : path ≠ onOffPath 1) :
    (d.attributeUpdate cfg path val).slider.timerHandle.alarm = d.slider.timerHandle.alarm := by
  by_cases hc : path = currentLevelPath 1
  · rw [hc, Device.attributeUpdate_currentLevel, setBrightness_eq]
  · rw [Device.attributeUpdate_other cfg val d h hc]

theorem alarm_of_keepsPower (cfg : Kconfig) {s : System} {e : Event} (h : s.KeepsPower e) :
    (s.step cfg e).dev.slider.timerHandle.alarm = s.dev.slider.timerHandle.alarm := by
  cases e with
  | signal e =>
      cases e with
      | matterWrite path val => exact attributeUpdate_alarm cfg val s.dev h
      | buttonEdge tickNow =>
          rw [step, Device.signal, Device.buttonCb]
          split <;> rfl
      | zeroCross => exact start_alarm _
      | timerAlarm =>
          rw [step, Device.signal, onTimerAlarmCb_timerHandle]
          exact stop_alarm _
  | sliderTask inp =>
      obtain ⟨d, task, main⟩ := s
      cases task with
      | updateOnOff attrVal => exact absurd rfl h
      | updateOn attrVal => exact absurd rfl h
      | updateLevel attrVal =>
          exact attributeUpdate_alarm cfg attrVal d (onOffPath_ne_currentLevelPath 1 1).symm
      | readLevel =>
          simp only [step, Device.sliderStmt, Device.getLevel_eq]
      | _ => rfl
  | appMain =>
      obtain ⟨d, task, main⟩ := s
      cases main with
      | updatePower val => exact absurd rfl h
      | applyPower val => exact absurd rfl h
      | updateLevel val =>
          exact attributeUpdate_alarm cfg val d (onOffPath_ne_currentLevelPath 1 1).symm
      | applyBrightness val =>
          simp only [step, Device.mainStmt, Device.appDriverLightSetBrightness, setBrightness_eq]
      | _ => rfl

/-- A level write followed by switching on, both remote. -/
def switchOn (level power : AttrVal) : List Event :=
  [.signal (.matterWrite (currentLevelPath 1) level), .signal (.matterWrite (onOffPath 1) power)]

/-- Switching on puts in force what the level write has left in `interval`, and it stays. -/
theorem alarm_of_switchOn (cfg : Kconfig) (leds : LedDriver) (attrs : AttrPath → AttrVal)
    (pre : List Event) {level power : AttrVal} (hpower : power.b = true) {i : ℤ}
    (hi : ∀ actual, brightnessInterval cfg actual (matterLevel level.u8) = i) (h0 : 0 < i)
    (h1 : i ≤ maxInterval) {es : List Event}
    (hes : Along (System.step cfg) KeepsPower
      (run (System.step cfg) (boot leds attrs) (pre ++ switchOn level power)) es) :
    ((run (System.step cfg) (boot leds attrs)
      (pre ++ switchOn level power ++ es)).dev.slider.timerHandle.alarm.alarmCount.toNat : ℤ) =
      i := by
  have hkept := run_invariant_of_along (System.step cfg)
    (fun s => s.dev.slider.timerHandle.alarm = (run (System.step cfg) (boot leds attrs)
      (pre ++ switchOn level power)).dev.slider.timerHandle.alarm)
    (fun s e hs he => (alarm_of_keepsPower cfg he).trans hs) rfl hes
  rw [run_append, hkept, run_append]
  have hpre := unfaded_run cfg leds attrs pre
  generalize run (System.step cfg) (boot leds attrs) pre = s at hpre ⊢
  obtain ⟨d, task, main⟩ := s
  change ((((d.attributeUpdate cfg (currentLevelPath 1) level).slider.setPower cfg
    power.b).1.timerHandle.alarm.alarmCount.toNat : ℕ) : ℤ) = _
  rw [hpower, SliderDriver.setPower_true, Device.attributeUpdate_currentLevel, setBrightness_eq]
  have hinterval := hi d.slider.mLevel
  rw [← hinterval] at h0 h1
  rw [← hinterval]
  exact alarm_commitInterval
    ⟨hpre.startFade, hpre.stepCpt, hpre.handed, hpre.autoReload, hpre.reloadCount⟩ h0 h1

theorem alarm_of_switchOn_noFade (leds : LedDriver) (attrs : AttrPath → AttrVal)
    (pre : List Event) {level power : AttrVal} (hpower : power.b = true)
    (hlevel : level.u8.toNat < 254) {es : List Event}
    (hes : Along (System.step .noFade) KeepsPower
      (run (System.step .noFade) (boot leds attrs) (pre ++ switchOn level power)) es) :
    ((run (System.step .noFade) (boot leds attrs)
      (pre ++ switchOn level power ++ es)).dev.slider.timerHandle.alarm.alarmCount.toNat : ℤ) =
      firingDelay (matterLevel level.u8) := by
  have hv := matterLevel_valid level.u8
  have hne : matterLevel level.u8 ≠ 100 := by
    rw [ne_eq, matterLevel_eq_hundred_iff, UInt8.le_iff_toNat_le]
    change ¬ 254 ≤ level.u8.toNat
    omega
  exact alarm_of_switchOn .noFade leds attrs pre hpower (fun _ => rfl)
    ((firingDelay_pos_iff hv).mpr hne) (firingDelay_bounds hv).2 hes

/-- Of two switches, each anywhere in a run from power-up, that get a level and are then switched
on, the one with the higher driver level fires earlier in every half-cycle, and equal levels
fire at the same moment: whatever else then happens to each, as long as no power command
comes. -/
theorem brighter_fires_earlier (leds leds' : LedDriver) (attrs attrs' : AttrPath → AttrVal)
    (pre pre' : List Event) {level level' power power' : AttrVal} {es es' : List Event}
    (hpower : power.b = true) (hpower' : power'.b = true) (hlevel : level.u8.toNat < 254)
    (hlevel' : level'.u8.toNat < 254)
    (hes : Along (System.step .noFade) KeepsPower
      (run (System.step .noFade) (boot leds attrs) (pre ++ switchOn level power)) es)
    (hes' : Along (System.step .noFade) KeepsPower
      (run (System.step .noFade) (boot leds' attrs') (pre' ++ switchOn level' power')) es') :
    let t := (run (System.step .noFade) (boot leds attrs)
      (pre ++ switchOn level power ++ es)).dev.slider.timerHandle
    let t' := (run (System.step .noFade) (boot leds' attrs')
      (pre' ++ switchOn level' power' ++ es')).dev.slider.timerHandle
    (t'.alarm.alarmCount.toNat < t.alarm.alarmCount.toNat ↔
        (matterLevel level.u8).toNat < (matterLevel level'.u8).toNat) ∧
      (level.u8.toNat ≤ level'.u8.toNat →
        t'.alarm.alarmCount.toNat ≤ t.alarm.alarmCount.toNat) := by
  intro t t'
  have ht : (t.alarm.alarmCount.toNat : ℤ) = firingDelay (matterLevel level.u8) :=
    alarm_of_switchOn_noFade leds attrs pre hpower hlevel hes
  have ht' : (t'.alarm.alarmCount.toNat : ℤ) = firingDelay (matterLevel level'.u8) :=
    alarm_of_switchOn_noFade leds' attrs' pre' hpower' hlevel' hes'
  have hv := matterLevel_valid level.u8
  have hv' := matterLevel_valid level'.u8
  constructor
  · rw [← firingDelay_lt_iff hv hv']
    omega
  · intro hle
    have hmono := matterLevel_mono hle
    have hnot := mt (firingDelay_lt_iff hv' hv).mp (Nat.not_lt_of_le hmono)
    omega

/-- Ten percent and half, with a level write that comes too late for the first. -/
theorem brighter_fires_earlier_at_half :
    let leds : LedDriver := ⟨fun _ => 0, fun _ => false⟩
    let t := (run (System.step .noFade) (boot leds fun _ => ⟨0, 0⟩)
      ([.appMain] ++ switchOn ⟨2, 25⟩ ⟨1, 1⟩ ++
        [.signal .zeroCross, .signal (.matterWrite (currentLevelPath 1) ⟨2, 200⟩),
          .signal .timerAlarm])).dev.slider.timerHandle
    let t' := (run (System.step .noFade) (boot leds fun _ => ⟨0, 0⟩)
      ([] ++ switchOn ⟨2, 127⟩ ⟨1, 1⟩ ++
        [.sliderTask ⟨false, 0, 0⟩, .appMain])).dev.slider.timerHandle
    (t'.alarm.alarmCount.toNat < t.alarm.alarmCount.toNat ↔
        (matterLevel 25).toNat < (matterLevel 127).toNat) ∧
      ((25 : UInt8).toNat ≤ (127 : UInt8).toNat →
        t'.alarm.alarmCount.toNat ≤ t.alarm.alarmCount.toNat) :=
  brighter_fires_earlier _ _ _ _ [.appMain] [] rfl rfl (by decide) (by decide) (by decide)
    (by decide)

/-! ## The build with fading -/

/-- In the build with fading, where no fade ever starts, a light that is switched on fires after
one step of the fade instead of the delay of its level, and goes on doing so. -/
theorem fading_build_fires_at_step (leds : LedDriver) (attrs : AttrPath → AttrVal)
    (pre : List Event) {resolution : ℕ} {level power : AttrVal} {es : List Event}
    (hr : 2 ≤ resolution) (hr' : resolution ≤ 100) (hpower : power.b = true)
    (hlevel : 5 < level.u8.toNat) (hlevel' : level.u8.toNat < 252)
    (hes : Along (System.step ⟨some resolution⟩) KeepsPower
      (run (System.step ⟨some resolution⟩) (boot leds attrs) (pre ++ switchOn level power)) es) :
    let t := (run (System.step ⟨some resolution⟩) (boot leds attrs)
      (pre ++ switchOn level power ++ es)).dev.slider.timerHandle
    (t.alarm.alarmCount.toNat : ℤ) = firingDelay (matterLevel level.u8) / (resolution - 1) ∧
      (2 < resolution → (t.alarm.alarmCount.toNat : ℤ) < firingDelay (matterLevel level.u8)) := by
  intro t
  have hv := remap_toNat level.u8
  have hne : matterLevel level.u8 ≠ 0 := by
    rw [ne_eq, matterLevel_eq_zero_iff, UInt8.le_iff_toNat_le]
    exact Nat.not_le_of_lt hlevel
  obtain ⟨h2, h100⟩ := (matterLevel_valid level.u8).resolve_left hne
  obtain ⟨n, hn, hn166⟩ : ∃ n : ℕ, firingDelay (matterLevel level.u8) = n ∧ 166 ≤ n := by
    refine ⟨_, firingDelay_of_two_le h2 h100, ?_⟩
    have hle : (matterLevel level.u8).toNat ≤ 98 := by
      rw [matterLevel, normLevel]
      split
      · exact Nat.zero_le _
      · omega
    omega
  -- the driver divides by what is left of the resolution
  have hstep : ((resolution : ℤ) - 1) = ((resolution - 1 : ℕ) : ℤ) := by omega
  have hi : ∀ actual, brightnessInterval ⟨some resolution⟩ actual (matterLevel level.u8) =
      ((n / (resolution - 1) : ℕ) : ℤ) := by
    intro actual
    have hgt : matterLevel level.u8 > 1 := by
      rw [gt_iff_lt, UInt8.lt_iff_toNat_lt]
      exact h2
    rw [firingDelay, if_pos hgt] at hn
    simp only [brightnessInterval]
    rw [if_pos hgt, hn, hstep]
    rfl
  have hpos : 0 < n / (resolution - 1) := Nat.div_pos (by omega) (by omega)
  have hle : n / (resolution - 1) ≤ n := Nat.div_le_self n (resolution - 1)
  have hmax := (firingDelay_bounds (matterLevel_valid level.u8)).2
  have ht : (t.alarm.alarmCount.toNat : ℤ) = ((n / (resolution - 1) : ℕ) : ℤ) :=
    alarm_of_switchOn ⟨some resolution⟩ leds attrs pre hpower hi (by omega) (by omega) hes
  constructor
  · rw [ht, hn, hstep]
    rfl
  · intro hr2
    have hlt : n / (resolution - 1) < n := Nat.div_lt_self (by omega) (by omega)
    omega

/-- Half, with a resolution of 30. -/
theorem fading_build_fires_at_step_thirty :
    let t := (run (System.step ⟨some 30⟩) (boot ⟨fun _ => 0, fun _ => false⟩ fun _ => ⟨0, 0⟩)
      ([.appMain] ++ switchOn ⟨2, 127⟩ ⟨1, 1⟩ ++
        [.signal .zeroCross, .signal .timerAlarm])).dev.slider.timerHandle
    (t.alarm.alarmCount.toNat : ℤ) = firingDelay (matterLevel 127) / ((30 : ℕ) - 1) ∧
      (2 < 30 → (t.alarm.alarmCount.toNat : ℤ) < firingDelay (matterLevel 127)) :=
  fading_build_fires_at_step _ _ [.appMain] (by decide) (by decide) rfl (by decide) (by decide)
    (by decide)

end System

end MatterSwitch
