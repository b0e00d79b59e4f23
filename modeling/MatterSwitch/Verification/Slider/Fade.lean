import MatterSwitch.Transition.Ramp
import MatterSwitch.Transition.Run
import MatterSwitch.Verification.Slider.Equations

/-! # Where a fade ends

In the build with fading `set_brightness` leaves a step and a remainder that the timer
callback takes off the alarm count. The callback follows a ramp, so the end of a fade is
the sum of its steps; it is the delay of the new level in few cases only. -/

namespace MatterSwitch

open Transition

/-- The build with fading, at a `CONFIG_FADE_TIME`. -/
def Kconfig.fade (resolution : ℕ) : Kconfig := { fadeTime := some resolution }

/-- A brightness in percent. -/
abbrev Percent : Type := { brightness : UInt8 // brightness.toNat ≤ 100 }

namespace SliderDriver

/-- `set_brightness` at the start of a fade, with the alarm at the delay of the old level. -/
def beginFade (resolution : ℕ) (brightness : UInt8) (d : SliderDriver) : SliderDriver :=
  let old := d.mLevel
  let d := (d.setBrightness (.fade resolution) brightness).1
  { d with
    startFade := true
    stepCpt := 0
    alarmConfig := { d.alarmConfig with alarmCount := UInt64.ofInt (firingDelay old) } }

/-- The driver after some callbacks of a fade. -/
def fadeAt (resolution : ℕ) (brightness : UInt8) (d : SliderDriver) (k : ℕ) : SliderDriver :=
  (onTimerAlarmCb (.fade resolution))^[k] (d.beginFade resolution brightness)

/-- A complete fade: `CONFIG_FADE_TIME - 1` callbacks, none if that is negative. -/
def fade (resolution : ℕ) (d : SliderDriver) (brightness : Percent) : SliderDriver :=
  d.fadeAt resolution brightness (resolution - 1)

/-! ## The callback as a ramp -/

/-- The driver is on a ramp with the step, the remainder and the level of a fade. -/
structure OnRamp (interval reminder : ℤ) (level : UInt8) (d : SliderDriver) (r : Ramp) :
    Prop where
  alarm : d.alarmConfig.alarmCount = UInt64.ofInt r.value
  step : d.stepCpt.toNat = r.count
  active : d.startFade = r.active
  interval : d.interval = interval
  reminder : d.reminder = reminder
  level : d.mLevel = level

theorem ofInt_sub (x y : ℤ) : UInt64.ofInt (x - y) = UInt64.ofInt x - UInt64.ofInt y := by
  rw [UInt64.eq_sub_iff_add_eq, ← UInt64.ofInt_add, Int.sub_add_cancel]

/-- What a callback does to the members of a fade. -/
theorem onTimerAlarmCb_fade (resolution : ℕ) (d : SliderDriver) (h : d.startFade = true) :
    let d' := d.onTimerAlarmCb (.fade resolution)
    let alarmCount := d.alarmConfig.alarmCount - UInt64.ofInt d.interval
    d'.interval = d.interval ∧ d'.reminder = d.reminder ∧ d'.mLevel = d.mLevel ∧
      if ((d.stepCpt + 1).toNat : ℤ) = resolution - 1 then
        d'.alarmConfig.alarmCount = alarmCount - UInt64.ofInt d.reminder ∧
          d'.stepCpt = 0 ∧ d'.startFade = false
      else
        d'.alarmConfig.alarmCount = alarmCount ∧ d'.stepCpt = d.stepCpt + 1 ∧
          d'.startFade = true := by
  simp only [onTimerAlarmCb, Kconfig.fade, stopTimer, h, if_true, lowerAlarmCount]
  by_cases hlast : ((d.stepCpt + 1).toNat : ℤ) = resolution - 1
  · simp only [hlast, if_true, and_self]
  · simp only [hlast, if_false, and_self]

/-- As long as the byte that counts the steps does not wrap, a callback is a tick. -/
theorem onRamp_onTimerAlarmCb {resolution : ℕ} (hr : resolution ≤ 100) {interval reminder : ℤ}
    {level : UInt8} {d : SliderDriver} {r : Ramp} (h : OnRamp interval reminder level d r)
    (hc : r.count < resolution - 1) :
    OnRamp interval reminder level (d.onTimerAlarmCb (.fade resolution))
      (r.tick (resolution - 1) interval reminder) := by
  rw [Ramp.tick]
  cases ha : r.active with
  | false =>
      have hs : d.startFade = false := h.active.trans ha
      have hcb : d.onTimerAlarmCb (.fade resolution) =
          { d.stopTimer with triacPwm := (holdGateLow 63 d.triacPwm).setLevel true } := by
        simp [onTimerAlarmCb, Kconfig.fade, stopTimer, hs]
      rw [hcb]
      exact ⟨h.alarm, h.step, h.active, h.interval, h.reminder, h.level⟩
  | true =>
      obtain ⟨hi, hrem, hl, hcb⟩ := onTimerAlarmCb_fade resolution d (h.active.trans ha)
      have hstep : (d.stepCpt + 1).toNat = r.count + 1 := by
        rw [UInt8.toNat_add, h.step]
        change (r.count + 1) % 256 = _
        omega
      rw [hstep] at hcb
      rw [if_pos rfl]
      by_cases hlast : r.count + 1 = resolution - 1
      · rw [if_pos (by omega)] at hcb
        obtain ⟨halarm, hcpt, hdone⟩ := hcb
        rw [if_pos hlast]
        refine ⟨?_, ?_, hdone, hi.trans h.interval, hrem.trans h.reminder, hl.trans h.level⟩
        · rw [halarm, h.alarm, h.interval, h.reminder, ofInt_sub, ofInt_sub]
        · rw [hcpt]
          rfl
      · rw [if_neg (by omega)] at hcb
        obtain ⟨halarm, hcpt, hon⟩ := hcb
        rw [if_neg hlast]
        refine ⟨?_, ?_, hon, hi.trans h.interval, hrem.trans h.reminder, hl.trans h.level⟩
        · rw [halarm, h.alarm, h.interval, ofInt_sub]
        · rw [hcpt, hstep]

/-- The step and the remainder that `set_brightness` leaves for a fade. -/
def fadeInterval (resolution : ℕ) (brightness : UInt8) (d : SliderDriver) : ℤ :=
  brightnessInterval (.fade resolution) d.mLevel (normLevel brightness)

def fadeReminder (resolution : ℕ) (brightness : UInt8) (d : SliderDriver) : ℤ :=
  brightnessReminder (.fade resolution) d.mLevel (normLevel brightness) d.reminder

theorem onRamp_fadeAt {resolution : ℕ} (hr : resolution ≤ 100) (brightness : UInt8)
    (d : SliderDriver) {k : ℕ} (hk : k ≤ resolution - 1) :
    OnRamp (d.fadeInterval resolution brightness) (d.fadeReminder resolution brightness)
      (normLevel brightness) (d.fadeAt resolution brightness k)
      ((Ramp.tick (resolution - 1) (d.fadeInterval resolution brightness)
        (d.fadeReminder resolution brightness))^[k] (Ramp.start (firingDelay d.mLevel))) := by
  apply Ramp.follows_iterate _ _ _ _ hk
  · intro e r h hc
    exact onRamp_onTimerAlarmCb hr h hc
  · rw [beginFade, setBrightness_eq]
    exact ⟨rfl, rfl, rfl, rfl, rfl, rfl⟩

/-- The sum of all that a fade takes off the alarm count. -/
def fadeTotal (resolution : ℕ) (brightness : UInt8) (d : SliderDriver) : ℤ :=
  ((resolution : ℤ) - 1) * d.fadeInterval resolution brightness +
    d.fadeReminder resolution brightness

/-- The states of a fade. -/
theorem fadeAt_of_lt {resolution : ℕ} (hr : resolution ≤ 100) (brightness : UInt8)
    (d : SliderDriver) {k : ℕ} (hk : k < resolution - 1) :
    (d.fadeAt resolution brightness k).alarmConfig.alarmCount =
        UInt64.ofInt (firingDelay d.mLevel - k * d.fadeInterval resolution brightness) ∧
      (d.fadeAt resolution brightness k).stepCpt.toNat = k := by
  have h := onRamp_fadeAt hr brightness d (k := k) (by omega)
  rw [Ramp.tick_iterate_of_lt _ _ _ _ hk] at h
  exact ⟨h.alarm, h.step⟩

theorem fade_end {resolution : ℕ} (h2 : 2 ≤ resolution) (hr : resolution ≤ 100)
    (d : SliderDriver) (b : Percent) :
    (fade resolution d b).alarmConfig.alarmCount =
        UInt64.ofInt (firingDelay d.mLevel - d.fadeTotal resolution b) ∧
      (fade resolution d b).stepCpt = 0 ∧ (fade resolution d b).startFade = false ∧
      (fade resolution d b).interval = d.fadeInterval resolution b ∧
      (fade resolution d b).reminder = d.fadeReminder resolution b ∧
      (fade resolution d b).mLevel = normLevel b := by
  have h := onRamp_fadeAt hr b d (k := resolution - 1) le_rfl
  have hn : ((resolution - 1 : ℕ) : ℤ) = resolution - 1 := by omega
  rw [Ramp.tick_iterate_steps (by omega), hn] at h
  exact ⟨h.alarm, UInt8.toNat_inj.mp h.step, h.active, h.interval, h.reminder, h.level⟩

/-! ## Landing -/

/-- What a complete fade has to do: no division by zero; the counter of steps in step; every
alarm count on the way within the half-period; the delay of the new level at the end, with
the fade over; and steps that sum up to the difference of the delays. -/
structure FadeLands (resolution : ℕ) (d : SliderDriver) (b : Percent) : Prop where
  divides : (resolution : ℤ) - 1 ≠ 0
  counts : ∀ k < resolution - 1, (d.fadeAt resolution b k).stepCpt.toNat = k
  bounded : ∀ k ≤ resolution - 1,
    ((d.fadeAt resolution b k).alarmConfig.alarmCount.toNat : ℤ) ≤ maxInterval
  lands : ((fade resolution d b).alarmConfig.alarmCount.toNat : ℤ) =
    firingDelay (fade resolution d b).mLevel
  counter : (fade resolution d b).stepCpt = 0
  done : (fade resolution d b).startFade = false
  telescopes : ((resolution : ℤ) - 1) * (fade resolution d b).interval +
    (fade resolution d b).reminder = firingDelay d.mLevel - firingDelay (fade resolution d b).mLevel

/-- A fade up has to halve the delay, a fade down has to start at full level with a number
of steps that divides the half-period. -/
def Landable (resolution : ℕ) (d : SliderDriver) (b : Percent) : Prop :=
  2 ≤ resolution ∧
    if normLevel b > 1 then firingDelay d.mLevel = 2 * firingDelay (normLevel b)
    else d.mLevel = 100 ∧ (resolution : ℤ) - 1 ∣ 8333

instance (resolution : ℕ) (d : SliderDriver) (b : Percent) :
    Decidable (Landable resolution d b) :=
  inferInstanceAs (Decidable (2 ≤ resolution ∧
    if normLevel b > 1 then firingDelay d.mLevel = 2 * firingDelay (normLevel b)
    else d.mLevel = 100 ∧ (resolution : ℤ) - 1 ∣ 8333))

/-- A fade up takes off the delay of the new level, whatever the old one was. -/
theorem fadeTotal_up (resolution : ℕ) {brightness : UInt8} (d : SliderDriver)
    (hup : normLevel brightness > 1) :
    d.fadeTotal resolution brightness = firingDelay (normLevel brightness) := by
  rw [fadeTotal, fadeInterval, fadeReminder, firingDelay, if_pos hup]
  simp only [brightnessInterval, brightnessReminder, Kconfig.fade, if_pos hup]
  exact Int.mul_tdiv_add_tmod _ _

/-- A fade down converts the old level twice and negates the remainder. -/
theorem fadeTotal_down (resolution : ℕ) {brightness : UInt8} (d : SliderDriver)
    (hdown : ¬ normLevel brightness > 1) :
    d.fadeTotal resolution brightness =
      -intensity2Time (intensity2Time d.mLevel.toNat) -
        2 * (-intensity2Time (intensity2Time d.mLevel.toNat)).tmod ((resolution : ℤ) - 1) := by
  rw [fadeTotal, fadeInterval, fadeReminder]
  simp only [brightnessInterval, brightnessReminder, Kconfig.fade, if_neg hdown]
  exact Ramp.total_of_negated _ _

/-- `INTENSITY2TIME` beyond the percentages. -/
theorem intensity2Time_of_ge {x : ℕ} (h : 100 ≤ x) :
    intensity2Time x = -((8333 * (x - 100) / 100 : ℕ) : ℤ) := by
  have hx : maxInterval * (100 - (x : ℤ)) = -((8333 * (x - 100) : ℕ) : ℤ) := by
    unfold maxInterval
    omega
  rw [intensity2Time, hx, Int.neg_tdiv]
  rfl

/-- The twice converted level overshoots by far, except from full level. -/
theorem overshoot {level : UInt8} (h : ValidLevel level) (hne : level ≠ 100) :
    firingDelay level - maxInterval + 198 <
      -intensity2Time (intensity2Time level.toNat) := by
  rcases h with rfl | ⟨h2, h100⟩
  · decide
  · have hlt : level.toNat ≠ 100 := fun he => hne (UInt8.toNat_inj.mp he)
    rw [firingDelay_of_two_le h2 h100, intensity2Time_eq h100, maxInterval]
    by_cases h99 : level.toNat = 99
    · rw [h99]
      decide
    · rw [intensity2Time_of_ge (by omega)]
      omega

/-- A fade down is right by its sum from full level only, in a number of steps that divides
the half-period. -/
theorem fadeTotal_down_iff {resolution : ℕ} (h2 : 2 ≤ resolution) (hr : resolution ≤ 100)
    {brightness : UInt8} {d : SliderDriver} (h : ValidLevel d.mLevel)
    (hdown : ¬ normLevel brightness > 1) :
    d.fadeTotal resolution brightness = firingDelay d.mLevel - maxInterval ↔
      d.mLevel = 100 ∧ (resolution : ℤ) - 1 ∣ 8333 := by
  rw [fadeTotal_down resolution d hdown]
  have hlow := Int.lt_tmod_of_pos (-intensity2Time (intensity2Time d.mLevel.toNat))
    (show 0 < (resolution : ℤ) - 1 by omega)
  have hhigh := Int.tmod_lt_of_pos (-intensity2Time (intensity2Time d.mLevel.toNat))
    (show 0 < (resolution : ℤ) - 1 by omega)
  by_cases hfull : d.mLevel = 100
  · have hx : -intensity2Time (intensity2Time d.mLevel.toNat) = -8333 := by
      rw [hfull]
      decide
    have hd : firingDelay d.mLevel = 0 := by
      rw [hfull]
      decide
    rw [hx, hd, Int.neg_tmod, maxInterval]
    constructor
    · intro ht
      exact ⟨hfull, Int.dvd_of_tmod_eq_zero (by omega)⟩
    · intro hdvd
      have h0 := Int.tmod_eq_zero_of_dvd hdvd.2
      omega
  · have hover := overshoot h hfull
    constructor
    · intro ht
      omega
    · intro hc
      exact absurd hc.1 hfull

/-- The sum of a fade is the difference of the delays exactly if the fade is landable. -/
theorem fadeTotal_iff {resolution : ℕ} (h2 : 2 ≤ resolution) (hr : resolution ≤ 100)
    {d : SliderDriver} (h : ValidLevel d.mLevel) (b : Percent) :
    d.fadeTotal resolution b = firingDelay d.mLevel - firingDelay (normLevel b) ↔
      Landable resolution d b := by
  rw [Landable, and_iff_right h2]
  by_cases hup : normLevel b.1 > 1
  · rw [if_pos hup, fadeTotal_up resolution d hup]
    omega
  · have hzero : firingDelay (normLevel b) = maxInterval := if_neg hup
    rw [if_neg hup, hzero]
    exact fadeTotal_down_iff h2 hr h hup

/-- The steps of a landable fade and its remainder go the same way. -/
theorem Landable.signs {resolution : ℕ} {d : SliderDriver} {b : Percent}
    (h : Landable resolution d b) :
    0 ≤ d.fadeInterval resolution b ∧ 0 ≤ d.fadeReminder resolution b ∨
      d.fadeInterval resolution b ≤ 0 ∧ d.fadeReminder resolution b ≤ 0 := by
  obtain ⟨h2, h⟩ := h
  have hn : 0 ≤ (resolution : ℤ) - 1 := by omega
  rw [fadeInterval, fadeReminder]
  by_cases hup : normLevel b.1 > 1
  · left
    have hd : 0 ≤ intensity2Time (normLevel b.1).toNat := by
      have hb := firingDelay_bounds (validLevel_normLevel b.2)
      rw [firingDelay, if_pos hup] at hb
      exact hb.1
    simp only [brightnessInterval, brightnessReminder, Kconfig.fade, if_pos hup]
    exact ⟨Int.tdiv_nonneg hd hn, Int.tmod_nonneg _ hd⟩
  · right
    rw [if_neg hup] at h
    obtain ⟨hfull, hdvd⟩ := h
    have hx : intensity2Time (intensity2Time d.mLevel.toNat) = 8333 := by
      rw [hfull]
      decide
    have hq := Int.tdiv_nonneg (show (0 : ℤ) ≤ 8333 by decide) hn
    have h0 := Int.tmod_eq_zero_of_dvd hdvd
    simp only [brightnessInterval, brightnessReminder, Kconfig.fade, if_neg hup, hx,
      Int.neg_tdiv, Int.neg_tmod]
    omega

/-- A fade with the right sum and steps that go one way does all it has to. -/
theorem fadeLands_of_landable {resolution : ℕ} (hr : resolution ≤ 100) {d : SliderDriver}
    (h : ValidLevel d.mLevel) {b : Percent} (hl : Landable resolution d b) :
    FadeLands resolution d b := by
  have h2 := hl.1
  have ht := (fadeTotal_iff h2 hr h b).mpr hl
  obtain ⟨halarm, hcpt, hdone, hi, hrem, hlevel⟩ := fade_end h2 hr d b
  have hold := firingDelay_bounds h
  have hnew := firingDelay_bounds (validLevel_normLevel b.2)
  have hend : ((fade resolution d b).alarmConfig.alarmCount.toNat : ℤ) =
      firingDelay (normLevel b) := by
    have hv : firingDelay d.mLevel - d.fadeTotal resolution b = firingDelay (normLevel b) := by
      omega
    rw [halarm, hv]
    exact toNat_ofInt_interval hnew.1 hnew.2
  refine ⟨by omega, ?_, ?_, ?_, hcpt, hdone, ?_⟩
  · intro k hk
    exact (fadeAt_of_lt hr b d hk).2
  · intro k hk
    rcases Nat.lt_or_eq_of_le hk with hlt | rfl
    · -- on the way the alarm count is between the two delays
      rw [(fadeAt_of_lt hr b d hlt).1]
      have hn : ((resolution - 1 : ℕ) : ℤ) = resolution - 1 := by omega
      have hsum : firingDelay d.mLevel - (((resolution - 1 : ℕ) : ℤ) *
          d.fadeInterval resolution b + d.fadeReminder resolution b) =
          firingDelay (normLevel b) := by
        rw [hn]
        change firingDelay d.mLevel - d.fadeTotal resolution b = _
        omega
      have hway : 0 ≤ firingDelay d.mLevel - k * d.fadeInterval resolution b ∧
          firingDelay d.mLevel - k * d.fadeInterval resolution b ≤ maxInterval := by
        rcases hl.signs with ⟨hsi, hsr⟩ | ⟨hsi, hsr⟩
        · have hb := Ramp.value_between hsi hsr hk (firingDelay d.mLevel)
          rw [hsum] at hb
          omega
        · have hb := Ramp.value_between_of_nonpos hsi hsr hk (firingDelay d.mLevel)
          rw [hsum] at hb
          omega
      rw [toNat_ofInt_interval hway.1 hway.2]
      exact hway.2
    · change ((fade resolution d b).alarmConfig.alarmCount.toNat : ℤ) ≤ maxInterval
      rw [hend]
      exact hnew.2
  · rw [hend, hlevel]
  · rw [hi, hrem, hlevel]
    exact ht

/-- A fade lands exactly if it is landable. -/
theorem fadeLands_iff {resolution : ℕ} (hr : resolution ≤ 100) {d : SliderDriver}
    (h : ValidLevel d.mLevel) (b : Percent) :
    FadeLands resolution d b ↔ Landable resolution d b := by
  constructor
  · intro hf
    have h2 : 2 ≤ resolution := by
      have hdiv := hf.divides
      rcases Nat.eq_zero_or_pos resolution with rfl | hpos
      · exact Bool.noConfusion (hf.done : true = false)
      · omega
    obtain ⟨-, -, -, hi, hrem, hlevel⟩ := fade_end h2 hr d b
    have ht := hf.telescopes
    rw [hi, hrem, hlevel] at ht
    exact (fadeTotal_iff h2 hr h b).mp ht
  · intro hl
    exact fadeLands_of_landable hr h hl

theorem validLevel_fade {resolution : ℕ} (hr : resolution ≤ 100) (d : SliderDriver)
    (b : Percent) : ValidLevel (fade resolution d b).mLevel := by
  rw [fade, (onRamp_fadeAt hr b d le_rfl).level]
  exact validLevel_normLevel b.2

/-- For every resolution of the menu and every sequence of brightness values, from any level
the dimmer can hold: all fades land exactly if each is landable where it starts. -/
theorem fades_land_iff {resolution : ℕ} (hr : resolution ≤ 100) {d : SliderDriver}
    (h : ValidLevel d.mLevel) (bs : List Percent) :
    Along (fade resolution) (FadeLands resolution) d bs ↔
      Along (fade resolution) (Landable resolution) d bs := by
  apply along_iff_along (fade resolution) (fun d => ValidLevel d.mLevel)
  · intro d b _ _
    exact validLevel_fade hr d b
  · intro d b h
    exact fadeLands_iff hr h b
  · exact h

/-- From full level to full level and down, in thirteen steps each. -/
theorem fades_land_from_full :
    Along (fade 14) (FadeLands 14)
      ((construct ⟨fun _ => 0, fun _ => false⟩).setBrightness (.fade 14) 100).1
      [⟨100, by decide⟩, ⟨0, by decide⟩] :=
  (fades_land_iff (by decide) (.inr (by decide)) _).mpr (by decide)

/-- From off to eighty percent in the default resolution: the alarm count ends at 6667. -/
theorem fade_up_misses :
    ¬ Along (fade 20) (FadeLands 20) (construct ⟨fun _ => 0, fun _ => false⟩)
      [⟨80, by decide⟩] :=
  fun h => absurd h.1.lands (by decide)

end SliderDriver

end MatterSwitch
