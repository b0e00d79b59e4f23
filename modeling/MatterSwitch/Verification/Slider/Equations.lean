import MatterSwitch.Model.SliderDriver
import Mathlib.Tactic.Common

/-! # Computation rules for the slider driver -/

namespace MatterSwitch

/-- The build without fading. -/
def Kconfig.noFade : Kconfig := { fadeTime := none }

namespace SliderDriver

/-- The level that `set_brightness` stores: one percent counts as off. -/
def normLevel (brightness : UInt8) : UInt8 := if brightness = 1 then 0 else brightness

/-- The firing delay of a level. -/
def firingDelay (level : UInt8) : ℤ :=
  if level > 1 then intensity2Time level.toNat else maxInterval

/-- The `interval` that `set_brightness` leaves when it goes from one level to another. -/
def brightnessInterval (cfg : Kconfig) (actual level : UInt8) : ℤ :=
  match cfg.fadeTime with
  | none => firingDelay level
  | some resolution =>
      if level > 1 then (intensity2Time level.toNat).tdiv ((resolution : ℤ) - 1)
      else (-intensity2Time (intensity2Time actual.toNat)).tdiv ((resolution : ℤ) - 1)

/-- The `reminder` that `set_brightness` leaves, `old` being the one before. -/
def brightnessReminder (cfg : Kconfig) (actual level : UInt8) (old : ℤ) : ℤ :=
  match cfg.fadeTime with
  | none => old
  | some resolution =>
      if level > 1 then (intensity2Time level.toNat).tmod ((resolution : ℤ) - 1)
      else -((-intensity2Time (intensity2Time actual.toNat)).tmod ((resolution : ℤ) - 1))

theorem setBrightness_eq (cfg : Kconfig) (brightness : UInt8) (d : SliderDriver) :
    d.setBrightness cfg brightness =
      ({ d with
          mPreviousLevel := d.mLevel
          mLevel := normLevel brightness
          interval := brightnessInterval cfg d.mLevel (normLevel brightness)
          reminder := brightnessReminder cfg d.mLevel (normLevel brightness) d.reminder },
        .ok) := by
  obtain ⟨fadeTime⟩ := cfg
  cases fadeTime with
  | none =>
      by_cases h : brightness = 1
      · simp [setBrightness, normLevel, brightnessInterval, brightnessReminder, firingDelay, h]
      · by_cases hb : brightness > 1 <;>
          simp [setBrightness, normLevel, brightnessInterval, brightnessReminder,
            firingDelay, h, hb]
  | some resolution =>
      by_cases h : brightness = 1
      · simp [setBrightness, normLevel, brightnessInterval, brightnessReminder, h]
      · by_cases hb : brightness > 1 <;>
          simp [setBrightness, normLevel, brightnessInterval, brightnessReminder, h, hb]

theorem setPower_true (cfg : Kconfig) (d : SliderDriver) :
    d.setPower cfg true = (({ d with mIsOn := true } : SliderDriver).commitInterval, .ok) :=
  rfl

theorem setPower_false (cfg : Kconfig) (d : SliderDriver) :
    d.setPower cfg false =
      (((({ d with mIsOn := false } : SliderDriver).setBrightness cfg 0).1).commitInterval,
        .ok) :=
  rfl

/-! ## What a commit hands to the timer -/

@[simp] theorem commitInterval_handed (d : SliderDriver) :
    d.commitInterval.timerHandle.handed =
      { d.alarmConfig with alarmCount := UInt64.ofInt d.interval } ::
        d.timerHandle.handed := by
  simp only [commitInterval, GpTimer.setAlarmAction]
  split <;> rfl

/-- The members that a commit leaves alone. -/
theorem commitInterval_frame (d : SliderDriver) :
    d.commitInterval.mIsOn = d.mIsOn ∧ d.commitInterval.mLevel = d.mLevel ∧
      d.commitInterval.mPreviousLevel = d.mPreviousLevel ∧
      d.commitInterval.interval = d.interval :=
  ⟨rfl, rfl, rfl, rfl⟩

/-- An interval within the half-period survives the conversion to 64 bits. -/
theorem toNat_ofInt_interval {i : ℤ} (h0 : 0 ≤ i) (h1 : i ≤ maxInterval) :
    ((UInt64.ofInt i).toNat : ℤ) = i := by
  simp only [maxInterval] at h1
  simp [UInt64.ofInt]
  omega

/-! ## Levels and delays -/

/-- A level that the dimmer can hold: off, or between two and a hundred percent. -/
def ValidLevel (level : UInt8) : Prop := level = 0 ∨ 2 ≤ level.toNat ∧ level.toNat ≤ 100

theorem validLevel_normLevel {brightness : UInt8} (h : brightness.toNat ≤ 100) :
    ValidLevel (normLevel brightness) := by
  unfold ValidLevel normLevel
  by_cases h1 : brightness = 1
  · simp [h1]
  · simp only [h1, if_false]
    have ht : brightness.toNat ≠ 1 := fun he => h1 (UInt8.toNat_inj.mp he)
    by_cases h0 : brightness = 0
    · exact .inl h0
    · have h0' : brightness.toNat ≠ 0 := fun he => h0 (UInt8.toNat_inj.mp he)
      exact .inr ⟨by omega, h⟩

theorem ValidLevel.le {level : UInt8} (h : ValidLevel level) : level.toNat ≤ 100 := by
  rcases h with rfl | h
  · decide
  · exact h.2

/-- `INTENSITY2TIME` on percentages, in natural numbers. -/
theorem intensity2Time_eq {x : ℕ} (h : x ≤ 100) :
    intensity2Time x = ((8333 * (100 - x) / 100 : ℕ) : ℤ) := by
  have hx : (maxInterval * (100 - (x : ℤ))) = ((8333 * (100 - x) : ℕ) : ℤ) := by
    unfold maxInterval
    omega
  rw [intensity2Time, hx]
  rfl

theorem firingDelay_zero : firingDelay 0 = maxInterval := rfl

theorem firingDelay_of_two_le {level : UInt8} (h2 : 2 ≤ level.toNat)
    (h : level.toNat ≤ 100) :
    firingDelay level = ((8333 * (100 - level.toNat) / 100 : ℕ) : ℤ) := by
  have hgt : level > 1 := by
    rw [gt_iff_lt, UInt8.lt_iff_toNat_lt]
    exact h2
  rw [firingDelay, if_pos hgt, intensity2Time_eq h]

/-- The delay of a level that the dimmer can hold. -/
theorem firingDelay_eq {level : UInt8} (h : ValidLevel level) :
    firingDelay level =
      if level = 0 then maxInterval
      else ((8333 * (100 - level.toNat) / 100 : ℕ) : ℤ) := by
  rcases h with rfl | ⟨h2, h100⟩
  · rw [if_pos rfl, firingDelay_zero]
  · have hne : level ≠ 0 := by
      intro he
      rw [he] at h2
      exact absurd h2 (by decide)
    rw [if_neg hne, firingDelay_of_two_le h2 h100]

theorem firingDelay_bounds {level : UInt8} (h : ValidLevel level) :
    0 ≤ firingDelay level ∧ firingDelay level ≤ maxInterval := by
  rcases h with rfl | ⟨h2, h100⟩
  · decide
  · rw [firingDelay_of_two_le h2 h100, maxInterval]
    omega

/-- Different levels have different delays. -/
theorem firingDelay_inj {a b : UInt8} (ha : ValidLevel a) (hb : ValidLevel b)
    (h : firingDelay a = firingDelay b) : a = b := by
  rcases ha with rfl | ⟨ha2, ha⟩ <;> rcases hb with rfl | ⟨hb2, hb⟩
  · rfl
  · rw [firingDelay_zero, firingDelay_of_two_le hb2 hb, maxInterval] at h
    omega
  · rw [firingDelay_zero, firingDelay_of_two_le ha2 ha, maxInterval] at h
    omega
  · rw [firingDelay_of_two_le ha2 ha, firingDelay_of_two_le hb2 hb] at h
    apply UInt8.toNat_inj.mp
    omega

/-! ## Interrupt handlers -/

@[simp] theorem start_handed (t : GpTimer) : t.start.1.handed = t.handed := by
  unfold GpTimer.start
  split <;> rfl

@[simp] theorem stop_handed (t : GpTimer) : t.stop.1.handed = t.handed := by
  unfold GpTimer.stop
  split <;> rfl

/-- The members that the two interrupts leave alone. -/
structure HandlerFrame (d d' : SliderDriver) : Prop where
  mIsOn : d'.mIsOn = d.mIsOn
  mLevel : d'.mLevel = d.mLevel
  mPreviousLevel : d'.mPreviousLevel = d.mPreviousLevel
  interval : d'.interval = d.interval
  handed : d'.timerHandle.handed = d.timerHandle.handed

theorem gpioIsrHandler_frame (d : SliderDriver) : HandlerFrame d d.gpioIsrHandler := by
  constructor <;> simp [gpioIsrHandler, restartTimer]

theorem onTimerAlarmCb_frame (cfg : Kconfig) (d : SliderDriver) :
    HandlerFrame d (d.onTimerAlarmCb cfg) := by
  obtain ⟨fadeTime⟩ := cfg
  cases fadeTime with
  | none => constructor <;> simp [onTimerAlarmCb, stopTimer, GpTimer.setRawCount]
  | some resolution =>
      simp only [onTimerAlarmCb]
      split
      · split <;> constructor <;> simp [lowerAlarmCount, stopTimer, GpTimer.setRawCount]
      · constructor <;> simp [stopTimer, GpTimer.setRawCount]

end SliderDriver

end MatterSwitch
