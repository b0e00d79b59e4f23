import MatterSwitch.Transition.Registers
import MatterSwitch.Verification.Command.Leds
import MatterSwitch.Verification.Command.Level

/-! # What the level bar shows

The LEDs that are lit at the end of an iteration, whatever the registers held before, and
when they are those of the attribute. -/

namespace MatterSwitch

open SliderDriver Transition

/-! ## Registers after a list of calls -/

namespace LedCall

/-- The write to a PWM register. -/
def pwm? : LedCall → Option (ℤ × UInt8)
  | .setPWM channel value => some (channel, value)
  | .setLEDControl _ _ => none
  | .updatePWM => none

/-- The write to a control register. -/
def control? : LedCall → Option (ℤ × Bool)
  | .setPWM _ _ => none
  | .setLEDControl channel status => some (channel, status)
  | .updatePWM => none

end LedCall

namespace LedDriver

theorem calls_append (l : LedDriver) (cs cs' : List LedCall) :
    l.calls (cs ++ cs') = (l.calls cs).calls cs' :=
  List.foldl_append

theorem calls_pwm (l : LedDriver) (cs : List LedCall) :
    (l.calls cs).pwm = writeAll l.pwm (cs.filterMap LedCall.pwm?) := by
  induction cs generalizing l with
  | nil => rfl
  | cons c cs ih =>
      change ((l.call c).calls cs).pwm = _
      rw [ih]
      cases c with
      | setPWM channel value => rfl
      | setLEDControl channel status => rfl
      | updatePWM => rfl

theorem calls_control (l : LedDriver) (cs : List LedCall) :
    (l.calls cs).control = writeAll l.control (cs.filterMap LedCall.control?) := by
  induction cs generalizing l with
  | nil => rfl
  | cons c cs ih =>
      change ((l.call c).calls cs).control = _
      rw [ih]
      cases c with
      | setPWM channel value => rfl
      | setLEDControl channel status => rfl
      | updatePWM => rfl

/-- A LED is lit when its control is on and its PWM is above zero. -/
def Lit (l : LedDriver) (channel : ℤ) : Prop := l.control channel = true ∧ 0 < l.pwm channel

instance (l : LedDriver) (channel : ℤ) : Decidable (l.Lit channel) :=
  inferInstanceAs (Decidable (_ ∧ _))

end LedDriver

namespace SliderDriver

/-! ## The bar -/

/-- The writes of the two loops of `set_level_led`, `a` in the first and `b` in the second. -/
def loopWrites {β : Type*} (n : ℕ) (a b : β) : List (ℤ × β) :=
  ((List.range n).map fun i : ℕ => ((7 - i : ℤ), a)) ++
    ((List.range' n (8 - n)).map fun i : ℕ => ((7 - i : ℤ), b))

theorem mem_loopWrites {β : Type*} (n : ℕ) (a b : β) (channel : ℤ) (v : β) :
    (channel, v) ∈ loopWrites n a b ↔
      ∃ i : ℕ, channel = 7 - i ∧ (i < n ∧ v = a ∨ n ≤ i ∧ i < 8 ∧ v = b) := by
  simp only [loopWrites, List.mem_append, List.mem_map, List.mem_range, List.mem_range'_1,
    Prod.mk.injEq]
  constructor
  · intro h
    rcases h with ⟨i, hi, rfl, rfl⟩ | ⟨i, hi, rfl, rfl⟩
    · exact ⟨i, rfl, .inl ⟨hi, rfl⟩⟩
    · exact ⟨i, rfl, .inr ⟨hi.1, by omega, rfl⟩⟩
  · intro h
    rcases h with ⟨i, rfl, ⟨hi, rfl⟩ | ⟨hn, hi, rfl⟩⟩
    · exact .inl ⟨i, hi, rfl, rfl⟩
    · exact .inr ⟨i, by omega, rfl, rfl⟩

/-- Each of the channels 7 to 0 holds what its loop has written. -/
theorem writeAll_loopWrites {β : Type*} (m : ℤ → β) (n : ℕ) (a b : β) {i : ℕ} (hi : i < 8) :
    writeAll m (loopWrites n a b) (7 - i) = if i < n then a else b := by
  apply writeAll_of_agree
  · rw [mem_loopWrites]
    by_cases h : i < n
    · exact ⟨i, rfl, .inl ⟨h, if_pos h⟩⟩
    · exact ⟨i, rfl, .inr ⟨by omega, hi, if_neg h⟩⟩
  · intro w hw hk
    obtain ⟨j, hj, hv⟩ := (mem_loopWrites n a b w.1 w.2).mp hw
    obtain rfl : j = i := by omega
    rcases hv with ⟨hn, hv⟩ | ⟨hn, -, hv⟩
    · rw [hv, if_pos hn]
    · rw [hv, if_neg (by omega)]

/-- The loops do not reach the front LEDs. -/
theorem writeAll_loopWrites_front {β : Type*} (m : ℤ → β) (n : ℕ) (a b : β) {channel : ℤ}
    (h : 7 < channel) : writeAll m (loopWrites n a b) channel = m channel := by
  apply writeAll_of_not_written
  intro w hw hk
  obtain ⟨j, hj, -⟩ := (mem_loopWrites n a b w.1 w.2).mp hw
  omega

theorem setLevelLed_pwm (level : UInt8) :
    (setLevelLed level).filterMap LedCall.pwm? = loopWrites (nLed level) 100 0 := by
  simp only [setLevelLed_eq, loopWrites, List.filterMap_append, List.filterMap_flatMap,
    LedCall.pwm?, List.map_eq_flatMap, List.filterMap_cons, List.filterMap_nil]

theorem setLevelLed_control (level : UInt8) :
    (setLevelLed level).filterMap LedCall.control? =
      loopWrites (nLed level) (decide (0 < 8 * level.toNat / 100))
        (!decide (0 < 8 * level.toNat / 100)) := by
  simp only [setLevelLed_eq, loopWrites, List.filterMap_append, List.filterMap_flatMap,
    LedCall.control?, List.map_eq_flatMap, List.filterMap_cons, List.filterMap_nil]

/-- The LEDs of the bar are lit from channel 7 down, whatever the registers held. A level
below 13 lights none: of its two loops one writes a zero PWM and the other switches off. -/
theorem lit_setLevelLed_iff (l : LedDriver) (level : UInt8) {i : ℕ} (hi : i < 8) :
    (l.calls (setLevelLed level)).Lit (7 - i) ↔ i < 8 * level.toNat / 100 := by
  rw [LedDriver.Lit, LedDriver.calls_pwm, LedDriver.calls_control, setLevelLed_pwm,
    setLevelLed_control, writeAll_loopWrites _ _ _ _ hi, writeAll_loopWrites _ _ _ _ hi]
  by_cases h0 : level = 0
  · subst h0
    have h8 : i < nLed 0 := hi
    simp [h8]
  · have hn : nLed level = 8 * level.toNat / 100 := if_neg h0
    rw [hn]
    by_cases h : i < 8 * level.toNat / 100
    · have hpos : 0 < 8 * level.toNat / 100 := by omega
      simp only [h, if_true, hpos, decide_true, true_and]
      decide
    · have hdark : ¬ (0 : UInt8) < 0 := by decide
      simp only [h, if_false, hdark, and_false]

theorem lit_setLevelLed_front (l : LedDriver) (level : UInt8) {channel : ℤ} (h : 7 < channel) :
    (l.calls (setLevelLed level)).Lit channel ↔ l.Lit channel := by
  rw [LedDriver.Lit, LedDriver.calls_pwm, LedDriver.calls_control, setLevelLed_pwm,
    setLevelLed_control, writeAll_loopWrites_front _ _ _ _ h,
    writeAll_loopWrites_front _ _ _ _ h, LedDriver.Lit]

/-- Channel 9 is lit for a light that is on, channel 8 for one that is off. -/
theorem lit_setFrontLed (l : LedDriver) (power : Bool) :
    ((l.calls (setFrontLed power)).Lit 9 ↔ power = true) ∧
      ((l.calls (setFrontLed power)).Lit 8 ↔ power = false) := by
  cases power with
  | true => simp [LedDriver.Lit, LedDriver.calls, setFrontLed, LedDriver.call]
  | false => simp [LedDriver.Lit, LedDriver.calls, setFrontLed, LedDriver.call]

end SliderDriver

namespace Device

/-! ## One iteration -/

/-- The LEDs of a `CurrentLevel` value. -/
def attrLeds (v : UInt8) : ℕ := 8 * (100 * v.toNat / 254) / 100

theorem attrLeds_le (v : UInt8) : attrLeds v ≤ 8 := by
  have hv := v.toNat_lt
  rw [attrLeds]
  omega

/-- The LEDs that the bar is to show. -/
def barLeds (d : Device) : ℕ := if d.oldState then attrLeds d.currentLevel else 0

theorem barLeds_le (d : Device) : d.barLeds ≤ 8 := by
  have h := attrLeds_le d.currentLevel
  rw [barLeds]
  split <;> omega

/-- The bar shows the level of the attribute while `old_state` is on, and one of the front
LEDs shows `old_state`. -/
structure ShowsTruth (d : Device) : Prop where
  bar : ∀ channel : ℤ, 0 ≤ channel → channel ≤ 7 →
    (d.slider.ledLevelDriver.Lit channel ↔ 8 - (d.barLeds : ℤ) ≤ channel)
  front_on : d.slider.ledLevelDriver.Lit 9 ↔ d.oldState = true
  front_off : d.slider.ledLevelDriver.Lit 8 ↔ d.oldState = false

/-- What one step has to leave behind. -/
def BarTrue (cfg : Kconfig) (d : Device) : Command → Prop
  | .signal _ => True
  | .sliderTask inp => (d.sliderTask cfg inp).ShowsTruth

/-- The LEDs after an iteration, whatever the registers held before it. -/
theorem lit_sliderTask_iff (cfg : Kconfig) (inp : TaskInput) (d : Device) {i : ℕ} (hi : i < 8) :
    (d.sliderTask cfg inp).slider.ledLevelDriver.Lit (7 - i) ↔
      i < 8 * (d.ledLevel cfg inp).toNat / 100 := by
  rw [sliderTask_leds, LedDriver.calls_append, lit_setLevelLed_iff _ _ hi]

theorem lit_sliderTask_front (cfg : Kconfig) (inp : TaskInput) (d : Device) :
    ((d.sliderTask cfg inp).slider.ledLevelDriver.Lit 9 ↔
        (d.sliderTask cfg inp).oldState = true) ∧
      ((d.sliderTask cfg inp).slider.ledLevelDriver.Lit 8 ↔
        (d.sliderTask cfg inp).oldState = false) := by
  rw [sliderTask_leds, LedDriver.calls_append, lit_setLevelLed_front _ _ (by decide),
    lit_setLevelLed_front _ _ (by decide)]
  exact lit_setFrontLed _ _

/-- Two bars of at most `n` LEDs are equal when they light the same ones. -/
theorem min_eq_iff_lit (a : ℕ) {b n : ℕ} (hb : b ≤ n) :
    min n a = b ↔ ∀ i < n, (i < a ↔ i < b) := by
  constructor
  · intro h i hi
    omega
  · intro h
    by_contra hne
    -- the first LED that only one of the two lights
    have hi := h (min a b) (by omega)
    omega

/-- The front LEDs are always right, so the bar alone decides. -/
theorem barTrue_sliderTask_iff (cfg : Kconfig) (inp : TaskInput) (d : Device) :
    BarTrue cfg d (.sliderTask inp) ↔
      min 8 (8 * (d.ledLevel cfg inp).toNat / 100) = (d.sliderTask cfg inp).barLeds := by
  rw [min_eq_iff_lit _ (barLeds_le (d.sliderTask cfg inp))]
  constructor
  · intro h i hi
    have hb := h.bar (7 - i) (by omega) (by omega)
    rw [lit_sliderTask_iff cfg inp d hi] at hb
    omega
  · intro h
    obtain ⟨hon, hoff⟩ := lit_sliderTask_front cfg inp d
    refine ⟨?_, hon, hoff⟩
    intro channel h0 h7
    obtain ⟨i, rfl⟩ : ∃ i : ℕ, channel = 7 - i := ⟨(7 - channel).toNat, by omega⟩
    rw [lit_sliderTask_iff cfg inp d (by omega), h i (by omega)]
    omega

/-! ## When the two agree -/

theorem matterLevel_toNat {v : UInt8} (h : matterLevel v ≠ 0) :
    (matterLevel v).toNat = 100 * v.toNat / 254 := by
  have hv := remap_toNat v
  rw [matterLevel, normLevel] at h ⊢
  split at h
  · exact absurd rfl h
  · rename_i h1
    rw [if_neg h1, hv, Nat.mul_comm]

/-- An attribute that drives the light at its lowest level asks for no LED. -/
theorem attrLeds_eq_zero {v : UInt8} (h : v ≤ 5) : attrLeds v = 0 := by
  rw [UInt8.le_iff_toNat_le] at h
  change v.toNat ≤ 5 at h
  rw [attrLeds]
  omega

theorem attrLeds_of_level {v level : UInt8} (h : level = matterLevel v) (hne : level ≠ 0) :
    min 8 (8 * level.toNat / 100) = attrLeds v := by
  have hle := attrLeds_le v
  subst h
  rw [attrLeds] at hle ⊢
  rw [matterLevel_toNat hne]
  exact min_eq_right hle

/-- The bar after a touch block. A touch at the bottom of the scale shows the level before it,
and a lit light at level zero the saved one. -/
theorem leds_touchBlock_iff (cfg : Kconfig) (inp : TaskInput) {d : Device}
    (hs : d.light.Stored) :
    min 8 (8 * (d.touchBlock cfg inp).shownLevel.toNat / 100) =
        (d.touchBlock cfg inp).barLeds ↔
      (Relevels inp d → touchValue d.slider.mPreviousLevel inp.touches ≤ 5 →
        d.slider.mLevel.toNat ≤ 12) ∧
      (¬ Relevels inp d → d.oldState = true → d.slider.mLevel = 0 →
        min 8 (8 * (fallback inp d).toNat / 100) = attrLeds d.currentLevel) := by
  rw [shownLevel, getLevelRaw, barLeds, touchBlock_oldState, touchBlock_mLevel,
    touchBlock_mPreviousLevel, touchBlock_currentLevel]
  by_cases hr : Relevels inp d
  · simp only [hr, if_true, not_true_eq_false, false_implies, and_true, true_implies]
    by_cases h0 : matterLevel (touchValue d.slider.mPreviousLevel inp.touches) = 0
    · have h5 := (matterLevel_eq_zero_iff _).mp h0
      rw [if_pos h0, attrLeds_eq_zero h5]
      constructor
      · intro h _
        omega
      · intro h
        have hle := h h5
        omega
    · have h5 : ¬ touchValue d.slider.mPreviousLevel inp.touches ≤ 5 :=
        fun h => h0 ((matterLevel_eq_zero_iff _).mpr h)
      simp only [h0, if_false, h5, false_implies, iff_true]
      exact attrLeds_of_level rfl h0
  · simp only [hr, if_false, false_implies, true_and, not_false_eq_true, true_implies]
    cases d.oldState with
    | false => simp
    | true =>
        simp only [if_true, true_implies]
        by_cases h0 : d.slider.mLevel = 0
        · simp only [h0, if_true, true_implies]
          exact Iff.rfl
        · simp only [h0, if_false, false_implies, iff_true]
          exact attrLeds_of_level (hs.resolve_left h0) h0

/-- What an iteration has to find. A touch at the bottom of the scale, for which the bar shows
the level before it, follows a level too low for any LED. A light that stays lit at level
zero, for which it shows the saved level, has one with as many LEDs as the attribute. -/
def SavedAgrees (d : Device) : Command → Prop
  | .signal _ => True
  | .sliderTask inp =>
      (¬ (d.isPressed = true ∧ d.oldState = true) → Relevels inp d →
        touchValue d.slider.mPreviousLevel inp.touches ≤ 5 → d.slider.mLevel.toNat ≤ 12) ∧
      ((if d.isPressed then d.oldState = false else d.oldState = true) →
        ¬ Relevels inp d → d.slider.mLevel = 0 →
        min 8 (8 * (fallback inp d).toNat / 100) = 8 * (100 * d.currentLevel.toNat / 254) / 100)

theorem stored_pressBlock (cfg : Kconfig) {d : Device} (hs : d.light.Stored) :
    (d.pressBlock cfg).light.Stored := by
  rw [light_pressBlock]
  exact run_invariant_of_forall (Light.step cfg) Light.Stored
    (fun _ _ hl ho => Light.stored_step cfg hl ho) hs
    fun o ho => (write_pressEvents d o ho).regular

theorem pressBlock_currentLevel (cfg : Kconfig) (d : Device) :
    (d.pressBlock cfg).currentLevel = d.currentLevel := by
  change (d.pressBlock cfg).light.currentLevel = d.light.currentLevel
  rw [light_pressBlock, pressEvents]
  cases d.isPressed <;> simp [Light.step]

theorem fallback_pressBlock (cfg : Kconfig) (inp : TaskInput) {d : Device}
    (hoff : ¬ (d.isPressed = true ∧ d.oldState = true)) :
    fallback inp (d.pressBlock cfg) = fallback inp d := by
  have ht := touchAccepted_pressBlock_iff cfg inp d
  rw [fallback, fallback, pressBlock_mPreviousLevel, if_neg hoff]
  by_cases ha : TouchAccepted inp d
  · rw [if_pos ha, if_pos (ht.mpr ha)]
  · rw [if_neg ha, if_neg fun h => ha (ht.mp h)]

theorem barTrue_iff (cfg : Kconfig) {d : Device} (hs : d.light.Stored) (c : Command) :
    BarTrue cfg d c ↔ SavedAgrees d c := by
  cases c with
  | signal e => exact Iff.rfl
  | sliderTask inp =>
      rw [barTrue_sliderTask_iff]
      change min 8 (8 * ((d.pressBlock cfg).touchBlock cfg inp).shownLevel.toNat / 100) =
        ((d.pressBlock cfg).touchBlock cfg inp).barLeds ↔ _
      rw [leds_touchBlock_iff cfg inp (stored_pressBlock cfg hs), SavedAgrees]
      by_cases hoff : d.isPressed = true ∧ d.oldState = true
      · -- a press that switches off leaves level zero and `old_state` off
        simp [pressBlock_mLevel, hoff.1, hoff.2]
      · have hlit : (if d.isPressed then !d.oldState else d.oldState) = true ↔
            (if d.isPressed then d.oldState = false else d.oldState = true) := by
          cases d.isPressed <;> simp
        rw [relevels_pressBlock_of_not_off cfg inp hoff, fallback_pressBlock cfg inp hoff,
          pressBlock_mLevel, pressBlock_mPreviousLevel, pressBlock_oldState,
          pressBlock_currentLevel, if_neg hoff, if_neg hoff, hlit]
        constructor
        · intro h
          exact ⟨fun _ => h.1, fun ho hn => h.2 hn ho⟩
        · intro h
          exact ⟨h.1 hoff, fun hn ho => h.2 ho hn⟩

/-- After start-up every iteration shows the level of the attribute exactly along the runs
in which the saved level agrees with it. -/
theorem bar_true_iff (cfg : Kconfig) (d₀ : Device) (cs : List Command) :
    Along (Device.command cfg) (BarTrue cfg) (d₀.appDriverSetDefault cfg 1).1 cs ↔
      Along (Device.command cfg) SavedAgrees (d₀.appDriverSetDefault cfg 1).1 cs := by
  apply along_iff_along (Device.command cfg) (fun d => d.light.Stored)
  · intro d c hs _
    exact stored_command cfg hs c
  · intro d c hs
    exact barTrue_iff cfg hs c
  · exact .inr (level_appDriverSetDefault cfg d₀)

/-- A remote level of zero leaves five LEDs lit, those of the saved default. -/
theorem remote_zero_keeps_bar :
    ¬ Along (Device.command .noFade) (BarTrue .noFade) (cold.appDriverSetDefault .noFade 1).1
      [.signal (.matterWrite (currentLevelPath 1) ⟨2, 0⟩), .sliderTask ⟨false, 100, 0⟩] :=
  fun h => absurd ((h.2.1.bar 7 (by decide) (by decide)).mp (by decide)) (by decide)

end Device

end MatterSwitch
