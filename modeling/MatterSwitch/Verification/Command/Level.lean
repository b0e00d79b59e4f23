import MatterSwitch.Verification.Command.Equations

/-! # The level and the timer

`set_brightness` changes the level and its interval but hands nothing to the timer, and
`set_power(false)` overwrites the level. So the timer follows the level, and the level
survives a power cycle, exactly along the runs described here. The build is the one
without fading. -/

namespace MatterSwitch

open SliderDriver Transition

namespace Light

/-! ## The alarm of the current level -/

/-- A lit light has the delay of its level in the timer. -/
def Committed (l : Light) : Prop := l.isOn = true → (l.handed : ℤ) = firingDelay l.level

theorem commit_handed {l : Light} (h : Timed l) :
    (l.commit.handed : ℤ) = firingDelay l.level := by
  rw [← h.interval_eq]
  exact toNat_ofInt_interval h.bounds.1 h.bounds.2

theorem committed_setPower (b : Bool) {l : Light} (h : Timed l) :
    Committed (l.setPower .noFade b) := by
  intro hon
  rw [setPower_isOn] at hon
  subst hon
  exact commit_handed (l := { l with isOn := true }) ⟨h.level_valid, h.interval_eq⟩

/-- A level change under a lit light keeps the timer right only if it is none. -/
theorem committed_dim_iff {l : Light} (h : Timed l) (hc : Committed l) (v : UInt8) :
    Committed (l.step .noFade (.dim v)) ↔ (l.isOn = true → matterLevel v = l.level) := by
  constructor
  · intro hd hon
    have hnew : (l.handed : ℤ) = firingDelay (matterLevel v) := hd hon
    apply firingDelay_inj (matterLevel_valid v) h.level_valid
    rw [← hnew, hc hon]
  · intro hv hon
    change (l.handed : ℤ) = firingDelay (matterLevel v)
    rw [hv hon]
    exact hc hon

/-! ## The level of the attribute -/

/-- A lit light has the level of its attribute. -/
def Kept (l : Light) : Prop := l.isOn = true → l.level = matterLevel l.currentLevel

/-- The level is the one of the attribute, unless it was overwritten by a switch-off. -/
def Stored (l : Light) : Prop := l.level = 0 ∨ l.level = matterLevel l.currentLevel

/-- The level has not been lost: it is not zero, or the attribute asks for no more. -/
def Recalls (level currentLevel : UInt8) : Prop := level ≠ 0 ∨ currentLevel ≤ 5

instance (level currentLevel : UInt8) : Decidable (Recalls level currentLevel) :=
  inferInstanceAs (Decidable (_ ∨ _))

theorem Stored.recalls_iff {l : Light} (h : Stored l) :
    Recalls l.level l.currentLevel ↔ l.level = matterLevel l.currentLevel := by
  constructor
  · intro hrec
    rcases hrec with hne | hle
    · exact h.resolve_left hne
    · rcases h with h0 | h
      · rw [h0, (matterLevel_eq_zero_iff l.currentLevel).mpr hle]
      · exact h
  · intro he
    by_cases h0 : l.level = 0
    · right
      rw [← matterLevel_eq_zero_iff, ← he, h0]
    · exact .inl h0

theorem stored_setPower (cfg : Kconfig) (b : Bool) {l : Light} (h : Stored l) :
    Stored (l.setPower cfg b) := by
  cases b with
  | true => exact h
  | false => exact .inl rfl

theorem stored_step (cfg : Kconfig) {l : Light} (h : Stored l) {o : LightEvent}
    (ho : o.Regular) : Stored (l.step cfg o) := by
  cases o with
  | power b => exact stored_setPower cfg b (l := { l with relay := b, onOff := b }) h
  | dim v => exact .inr rfl
  | remember v => exact h
  | applyPower b => exact ho.elim
  | applyBrightness v => exact ho.elim

/-- Switching off, any number of times, and on again leaves level zero. -/
theorem power_cycle (l : Light) (n : ℕ) :
    let l' := run (step .noFade) l ((List.replicate (n + 1) false ++ [true]).map .power)
    l'.level = 0 ∧ l'.interval = maxInterval := by
  induction n generalizing l with
  | zero => exact ⟨rfl, rfl⟩
  | succ n ih => exact ih (l.step .noFade (.power false))

end Light

namespace Device

/-! ## The timer follows the level -/

/-- What one step has to leave behind: a lit light whose timer has the delay of the
level. -/
def LevelCommitted (d : Device) (c : Command) : Prop :=
  (d.command .noFade c).slider.mIsOn = true →
    ((d.command .noFade c).handedCount : ℤ) =
      firingDelay (d.command .noFade c).slider.mLevel

/-- No level write that changes the level reaches a lit light: neither a `CurrentLevel`
write, nor a touch that `sliderTask` takes for one on a lit light. -/
def LevelsInTheDark (d : Device) : Command → Prop
  | .signal (.matterWrite path val) =>
      path = currentLevelPath 1 → d.slider.mIsOn = true →
        matterLevel val.u8 = d.slider.mLevel
  | .signal _ => True
  | .sliderTask inp =>
      (if d.isPressed then d.oldState = false else d.oldState = true ∧ d.slider.mIsOn = true) →
        Relevels inp d →
        matterLevel (touchValue d.slider.mPreviousLevel inp.touches) = d.slider.mLevel

theorem timed_pressBlock {d : Device} (h : d.light.Timed) :
    (d.pressBlock .noFade).light.Timed := by
  rw [light_pressBlock]
  exact run_invariant (Light.step .noFade) Light.Timed (fun _ o hl => Light.timed_step hl o) h _

theorem committed_pressBlock {d : Device} (h : d.light.Timed) (hc : d.light.Committed) :
    (d.pressBlock .noFade).light.Committed := by
  rw [light_pressBlock, pressEvents]
  cases d.isPressed with
  | true =>
      exact Light.committed_setPower _
        (l := { d.light with relay := !d.oldState, onOff := !d.oldState })
        ⟨h.level_valid, h.interval_eq⟩
  | false => exact hc

theorem committed_touchBlock_iff {inp : TaskInput} {d : Device} (h : d.light.Timed)
    (hc : d.light.Committed) :
    (d.touchBlock .noFade inp).light.Committed ↔
      (d.oldState = true → d.slider.mIsOn = true → Relevels inp d →
        matterLevel (touchValue d.slider.mPreviousLevel inp.touches) = d.slider.mLevel) := by
  by_cases hr : Relevels inp d
  · rw [light_touchBlock_of_relevels .noFade hr]
    cases hs : d.oldState with
    | true =>
        have hdim := Light.committed_dim_iff h hc
          (touchValue d.slider.mPreviousLevel inp.touches)
        simp only [hr, if_true, true_implies]
        exact hdim
    | false =>
        have ht := Light.timed_step h (.dim (touchValue d.slider.mPreviousLevel inp.touches))
        simp only [Bool.false_eq_true, if_false, false_implies, iff_true]
        exact Light.committed_setPower true ⟨ht.level_valid, ht.interval_eq⟩
  · rw [light_touchBlock_of_not_relevels .noFade hr]
    simp [hr, hc]

theorem levelCommitted_signal_iff {d : Device} (h : d.light.Timed) (hc : d.light.Committed)
    (e : Signal) : LevelCommitted d (.signal e) ↔ LevelsInTheDark d (.signal e) := by
  change (d.signal .noFade e).light.Committed ↔ _
  rw [light_signal]
  cases e with
  | matterWrite path val =>
      rw [signalEvents]
      by_cases hp : path = onOffPath 1
      · rw [hp, writeEvents_onOff]
        have hne := onOffPath_ne_currentLevelPath 1 1
        simp only [LevelsInTheDark, hne, false_implies, iff_true]
        exact Light.committed_setPower val.b
          (l := { d.light with relay := val.b, onOff := val.b })
          ⟨h.level_valid, h.interval_eq⟩
      · by_cases hcl : path = currentLevelPath 1
        · rw [hcl, writeEvents_currentLevel]
          simp only [LevelsInTheDark, true_implies]
          exact Light.committed_dim_iff h hc val.u8
        · rw [writeEvents, if_neg hp, if_neg hcl, run_nil]
          simpa only [LevelsInTheDark, hcl, false_implies, iff_true] using hc
  | _ =>
      rw [signalEvents, run_nil]
      simpa only [LevelsInTheDark, iff_true] using hc

/-- A press recommits the timer, so a touch after it is the only way to lose the level. -/
theorem levelCommitted_sliderTask_iff {d : Device} (h : d.light.Timed)
    (hc : d.light.Committed) (inp : TaskInput) :
    LevelCommitted d (.sliderTask inp) ↔ LevelsInTheDark d (.sliderTask inp) := by
  change ((d.pressBlock .noFade).touchBlock .noFade inp).light.Committed ↔ _
  rw [committed_touchBlock_iff (timed_pressBlock h) (committed_pressBlock h hc),
    pressBlock_oldState, pressBlock_mIsOn, pressBlock_mPreviousLevel, pressBlock_mLevel,
    LevelsInTheDark]
  by_cases hoff : d.isPressed = true ∧ d.oldState = true
  · simp [hoff.1, hoff.2]
  · rw [relevels_pressBlock_of_not_off .noFade inp hoff, if_neg hoff, if_neg hoff]
    cases d.isPressed <;> cases d.oldState <;> simp

theorem levelCommitted_iff {d : Device} (h : d.light.Timed) (hc : d.light.Committed)
    (c : Command) : LevelCommitted d c ↔ LevelsInTheDark d c := by
  cases c with
  | signal e => exact levelCommitted_signal_iff h hc e
  | sliderTask inp => exact levelCommitted_sliderTask_iff h hc inp

/-- Along a run after start-up the timer always has the delay of the level of a lit light,
exactly when no level changes under a lit light. -/
theorem brightness_reaches_timer_iff (d₀ : Device) (cs : List Command) :
    Along (Device.command .noFade) LevelCommitted (d₀.appDriverSetDefault .noFade 1).1 cs ↔
      Along (Device.command .noFade) LevelsInTheDark
        (d₀.appDriverSetDefault .noFade 1).1 cs := by
  apply along_iff_along (Device.command .noFade)
    (fun d => d.light.WellFormed ∧ d.light.Committed)
  · intro d c hinv hstep
    exact ⟨wellFormed_command hinv.1 c, hstep⟩
  · intro d c hinv
    obtain ⟨hw, hc⟩ := hinv
    exact levelCommitted_iff hw.timed hc c
  · refine ⟨wellFormed_appDriverSetDefault d₀, ?_⟩
    rw [light_appDriverSetDefault]
    intro _
    rfl

/-- A remote level on a lit light waits for the next power command. -/
theorem remote_level_misses_timer :
    ¬ Along (Device.command .noFade) LevelCommitted (cold.appDriverSetDefault .noFade 1).1
      [.signal (.matterWrite (currentLevelPath 1) ⟨8, 254⟩)] :=
  fun h => absurd (h.1 (by decide)) (by decide)

/-! ## The level survives a power cycle -/

/-- What one step has to leave behind: a lit light at the level of the attribute. -/
def LevelKept (d : Device) (c : Command) : Prop :=
  (d.command .noFade c).slider.mIsOn = true →
    (d.command .noFade c).slider.mLevel = matterLevel (d.command .noFade c).currentLevel

/-- Power is switched on, remotely or by a press, only over a level that was written since
the last switch-off or that is off anyway, or together with a touch of another level. -/
def LevelRecalled (d : Device) : Command → Prop
  | .signal (.matterWrite path val) =>
      path = onOffPath 1 → val.b = true → Light.Recalls d.slider.mLevel d.currentLevel
  | .signal _ => True
  | .sliderTask inp =>
      d.isPressed = true → d.oldState = false → ¬ Relevels inp d →
        Light.Recalls d.slider.mLevel d.currentLevel

/-- Start-up leaves the level of the attribute. -/
theorem level_appDriverSetDefault (cfg : Kconfig) (d : Device) :
    (d.appDriverSetDefault cfg 1).1.light.level =
      matterLevel (d.appDriverSetDefault cfg 1).1.light.currentLevel := by
  rw [light_appDriverSetDefault]
  simp [Light.step, Light.setPower_level, defaultPower]

theorem stored_command (cfg : Kconfig) {d : Device} (h : d.light.Stored) (c : Command) :
    (d.command cfg c).light.Stored :=
  (refinement cfg).step_invariant Light.Stored
    (fun _ _ hl ho => Light.stored_step cfg hl ho) h
    (regular_commandEvents cfg d c)

theorem kept_touchBlock {inp : TaskInput} {d : Device} (hr : Relevels inp d) :
    (d.touchBlock .noFade inp).light.Kept := by
  rw [light_touchBlock_of_relevels .noFade hr]
  intro _
  cases d.oldState <;> rfl

theorem levelKept_signal_iff {d : Device} (hs : d.light.Stored) (hk : d.light.Kept)
    (e : Signal) : LevelKept d (.signal e) ↔ LevelRecalled d (.signal e) := by
  change (d.signal .noFade e).light.Kept ↔ _
  rw [light_signal]
  cases e with
  | matterWrite path val =>
      rw [signalEvents]
      by_cases hp : path = onOffPath 1
      · rw [hp, writeEvents_onOff]
        simp only [LevelRecalled, true_implies]
        cases val.b with
        | true =>
            have hrec := hs.recalls_iff
            exact ⟨fun h _ => hrec.mpr (h rfl), fun h _ => hrec.mp (h rfl)⟩
        | false =>
            simp only [Bool.false_eq_true, false_implies, iff_true]
            intro hon
            exact Bool.noConfusion hon
      · by_cases hcl : path = currentLevelPath 1
        · rw [hcl, writeEvents_currentLevel]
          have hne := (onOffPath_ne_currentLevelPath 1 1).symm
          simp only [LevelRecalled, hne, false_implies, iff_true]
          exact fun _ => rfl
        · rw [writeEvents, if_neg hp, if_neg hcl, run_nil]
          simpa only [LevelRecalled, hp, false_implies, iff_true] using hk
  | _ =>
      rw [signalEvents, run_nil]
      simpa only [LevelRecalled, iff_true] using hk

/-- Of the iterations only a press that switches on can bring up a lost level. -/
theorem levelKept_sliderTask_iff {d : Device} (hs : d.light.Stored) (hk : d.light.Kept)
    (inp : TaskInput) : LevelKept d (.sliderTask inp) ↔ LevelRecalled d (.sliderTask inp) := by
  change ((d.pressBlock .noFade).touchBlock .noFade inp).light.Kept ↔ _
  by_cases hr : Relevels inp (d.pressBlock .noFade)
  · have hkept := kept_touchBlock hr
    simp only [hkept, true_iff]
    intro hp ho hn
    have hoff : ¬ (d.isPressed = true ∧ d.oldState = true) := by simp [ho]
    exact absurd ((relevels_pressBlock_of_not_off .noFade inp hoff).mp hr) hn
  · rw [light_touchBlock_of_not_relevels .noFade hr, light_pressBlock, pressEvents]
    cases hp : d.isPressed with
    | false => simpa [LevelRecalled, hp] using hk
    | true =>
        cases ho : d.oldState with
        | true =>
            simp only [LevelRecalled, ho, Bool.true_eq_false, false_implies, implies_true,
              iff_true]
            intro hon
            exact Bool.noConfusion hon
        | false =>
            have hoff : ¬ (d.isPressed = true ∧ d.oldState = true) := by simp [ho]
            rw [relevels_pressBlock_of_not_off .noFade inp hoff] at hr
            have hrec := hs.recalls_iff
            simp only [LevelRecalled, hp, ho, hr, not_false_eq_true, true_implies]
            exact ⟨fun h => hrec.mpr (h rfl), fun h _ => hrec.mp h⟩

theorem levelKept_iff {d : Device} (hs : d.light.Stored) (hk : d.light.Kept) (c : Command) :
    LevelKept d c ↔ LevelRecalled d c := by
  cases c with
  | signal e => exact levelKept_signal_iff hs hk e
  | sliderTask inp => exact levelKept_sliderTask_iff hs hk inp

/-- A remote `OnOff` write. -/
def powerWrite (b : Bool) : Command :=
  .signal (.matterWrite (onOffPath 1) (AttrVal.setB b ⟨1, 0⟩))

theorem labels_powerWrites (d : Device) (bs : List Bool) :
    (refinement .noFade).labels d (bs.map powerWrite) = bs.map .power := by
  induction bs generalizing d with
  | nil => rfl
  | cons b bs ih =>
      have hlabel : (refinement .noFade).label d (powerWrite b) = [.power b] := by
        cases b <;> rfl
      rw [List.map_cons, List.map_cons, Refinement.labels, ih, hlabel]
      rfl

theorem along_levelKept_iff (d₀ : Device) (cs : List Command) :
    Along (Device.command .noFade) LevelKept (d₀.appDriverSetDefault .noFade 1).1 cs ↔
      Along (Device.command .noFade) LevelRecalled (d₀.appDriverSetDefault .noFade 1).1 cs := by
  apply along_iff_along (Device.command .noFade) (fun d => d.light.Stored ∧ d.light.Kept)
  · intro d c hinv hstep
    exact ⟨stored_command .noFade hinv.1 c, hstep⟩
  · intro d c hinv
    exact levelKept_iff hinv.1 hinv.2 c
  · have hl := level_appDriverSetDefault .noFade d₀
    exact ⟨.inr hl, fun _ => hl⟩

/-- The light is switched off, any number of times, and on again, and no level is written: by
remote writes or presses, with any steps between them that do not reach the light. -/
def PowerCycle (d : Device) (cs : List Command) : Prop :=
  ∃ n, (refinement .noFade).labels d cs = (List.replicate (n + 1) false ++ [true]).map .power

/-- A power cycle brings back level and interval only of a light at level zero. -/
theorem power_cycle_iff {d : Device} (hw : d.light.WellFormed) {cs : List Command}
    (hc : PowerCycle d cs) :
    let d' := run (Device.command .noFade) d cs
    (d'.slider.mLevel = d.slider.mLevel ∧ d'.slider.interval = d.slider.interval) ↔
      d.slider.mLevel = 0 := by
  intro d'
  obtain ⟨n, hn⟩ := hc
  have hcycle := Light.power_cycle d.light n
  have hlight : d'.light = run (Light.step .noFade) d.light _ :=
    (refinement .noFade).abs_run d cs
  rw [hn] at hlight
  rw [← hlight] at hcycle
  have hl : d'.slider.mLevel = 0 := hcycle.1
  have hi : d'.slider.interval = maxInterval := hcycle.2
  have htimed : d.slider.interval = firingDelay d.slider.mLevel := hw.timed.interval_eq
  rw [hl, hi, htimed]
  constructor
  · intro h
    exact h.1.symm
  · intro h
    rw [h]
    exact ⟨rfl, firingDelay_zero.symm⟩

/-- Along a run after start-up a lit light always has the level of its attribute, exactly
when power is never switched on over a lost level; and from any state of the run, a power
cycle brings level and interval back exactly when the level was zero. Remote writes of false and
then of true are a power cycle. -/
theorem level_survives_iff (d₀ : Device) (cs : List Command) :
    (Along (Device.command .noFade) LevelKept (d₀.appDriverSetDefault .noFade 1).1 cs ↔
      Along (Device.command .noFade) LevelRecalled
        (d₀.appDriverSetDefault .noFade 1).1 cs) ∧
      let d := run (Device.command .noFade) (d₀.appDriverSetDefault .noFade 1).1 cs
      (∀ cs', PowerCycle d cs' →
        let d' := run (Device.command .noFade) d cs'
        (d'.slider.mLevel = d.slider.mLevel ∧ d'.slider.interval = d.slider.interval) ↔
          d.slider.mLevel = 0) ∧
      ∀ n, PowerCycle d ((List.replicate (n + 1) false ++ [true]).map powerWrite) := by
  have hw := run_invariant (Device.command .noFade) (fun d => d.light.WellFormed)
    (fun _ c h => wellFormed_command h c) (wellFormed_appDriverSetDefault d₀) cs
  exact ⟨along_levelKept_iff d₀ cs, fun _ hc => power_cycle_iff hw hc,
    fun n => ⟨n, labels_powerWrites _ _⟩⟩

/-- A press of a light that a remote write has switched off switches it off once more, and the
next one on. -/
example : PowerCycle (cold.appDriverSetDefault .noFade 1).1
    [powerWrite false, .signal (.buttonEdge 1000), .sliderTask ⟨false, 1001, 0⟩,
      .signal .zeroCross, .signal (.buttonEdge 2000), .sliderTask ⟨false, 2001, 0⟩] :=
  ⟨1, by decide⟩

/-- Off and on again: the attribute still says 180, the driver has forgotten it. -/
theorem power_cycle_loses_level :
    ¬ Along (Device.command .noFade) LevelKept (cold.appDriverSetDefault .noFade 1).1
      [powerWrite false, powerWrite true] :=
  fun h => absurd (h.2.1 (by decide)) (by decide)

end Device

end MatterSwitch
