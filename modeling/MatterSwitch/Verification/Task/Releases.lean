import MatterSwitch.Verification.Command.Release
import MatterSwitch.Verification.Task.Serial

/-! # Releases die out in every interleaving

What is proved of complete steps is carried over to the statements: the saved level is followed
through the positions of `sliderTask`, and a stretch of the interleaved system is taken for the
complete steps that it amounts to. -/

namespace MatterSwitch

open SliderDriver Transition

namespace Device

/-! ## The saved level, statement by statement -/

theorem saves_mainStmt (cfg : Kconfig) (d : Device) (pc : MainPc) :
    Saves d (d.mainStmt cfg pc).1 := by
  cases pc with
  | updateLevel val => exact saves_attributeUpdate cfg (currentLevelPath 1) val d
  | applyBrightness val => exact saves_appDriverLightSetBrightness cfg val d
  | updatePower val => exact saves_attributeUpdate cfg (onOffPath 1) val d
  | applyPower val => exact saves_appDriverLightSetPower cfg val d
  | _ => exact .inl ⟨rfl, rfl⟩

/-- Between the reading of a touch and the end of its handling the saved level may be the touch
itself. -/
def SavedAt (d : Device) : SliderPc → Prop
  | .testLevel => d.SavedLow ∨ d.slider.mPreviousLevel = d.level
  | .chooseLevel => True
  | .updateLevel _ => True
  | .saveLevel _ => d.slider.mPreviousLevel.toNat ≤ 100
  | _ => d.SavedLow

theorem SavedAt.of_saves {d d' : Device} {pc : SliderPc} (hv : ValidLevel d.slider.mLevel)
    (h : d.SavedAt pc) (hs : Saves d d') (hl : d'.level = d.level) : d'.SavedAt pc := by
  cases pc with
  | testLevel =>
      rcases h with h | h
      · exact .inl (h.of_saves hv hs)
      · rcases hs with ⟨hp, -⟩ | hp
        · right
          rw [hp, hl, h]
        · left
          left
          rw [hp]
          exact hv.le
  | chooseLevel => trivial
  | updateLevel attrVal => trivial
  | saveLevel attrVal =>
      change d'.slider.mPreviousLevel.toNat ≤ 100
      rcases hs with ⟨hp, -⟩ | hp
      · rw [hp]
        exact h
      · rw [hp]
        exact hv.le
  | _ => exact SavedLow.of_saves hv h hs

theorem savedAt_sliderStmt (cfg : Kconfig) (inp : TaskInput) {d : Device} {pc : SliderPc}
    (hv : ValidLevel d.slider.mLevel) (h : d.SavedAt pc) :
    (d.sliderStmt cfg inp pc).1.SavedAt (d.sliderStmt cfg inp pc).2 := by
  cases pc with
  | testPressed =>
      simp only [sliderStmt]
      split <;> exact h
  | updateOnOff attrVal =>
      exact SavedLow.of_saves hv h (saves_attributeUpdate cfg (onOffPath 1) attrVal d)
  | testTouches =>
      simp only [sliderStmt]
      split <;> exact h
  | testTick tickNow =>
      simp only [sliderStmt]
      split <;> exact h
  | readLevel =>
      simp only [sliderStmt, getLevel_eq]
      exact .inr rfl
  | testLevel =>
      simp only [sliderStmt]
      split
      · trivial
      · rename_i heq
        rcases h with h | h
        · exact h
        · right
          rw [h]
          exact not_not.mp heq
  | updateLevel attrVal =>
      change (d.attributeUpdate cfg (currentLevelPath 1) attrVal).slider.mPreviousLevel.toNat ≤ 100
      rw [attributeUpdate_currentLevel, setBrightness_eq]
      exact hv.le
  | saveLevel attrVal => exact .inl h
  | testState attrVal =>
      simp only [sliderStmt]
      split <;> exact h
  | updateOn attrVal =>
      exact SavedLow.of_saves hv h (saves_attributeUpdate cfg (onOffPath 1) attrVal d)
  | chooseLevel => trivial
  | _ => exact h

end Device

namespace System

/-! ## From power-up -/

/-- The saved level in every interleaving. -/
def SavedTracked (s : System) : Prop := ValidLevel s.dev.slider.mLevel ∧ s.dev.SavedAt s.task

theorem savedTracked_step (cfg : Kconfig) {s : System} (h : SavedTracked s) (e : Event) :
    SavedTracked (s.step cfg e) := by
  obtain ⟨hv, hs⟩ := h
  refine ⟨(refinement cfg).step_invariant (fun l => ValidLevel l.level)
    (fun _ o hl _ => Light.validLevel_step cfg hl o) hv (G := fun _ => True) fun _ _ => trivial, ?_⟩
  cases e with
  | signal e =>
      have hkept := Device.globalsKept_signal cfg s.dev e
      exact hs.of_saves hv (Device.saves_signal cfg s.dev e) hkept.level
  | sliderTask inp => exact Device.savedAt_sliderStmt cfg inp hv hs
  | appMain =>
      have hkept := Device.globalsKept_mainStmt cfg s.dev s.main
      exact hs.of_saves hv (Device.saves_mainStmt cfg s.dev s.main) hkept.level

theorem savedTracked_run (cfg : Kconfig) (leds : LedDriver) (attrs : AttrPath → AttrVal)
    (es : List Event) : SavedTracked (run (System.step cfg) (boot leds attrs) es) := by
  have hboot : SavedTracked (boot leds attrs) := ⟨Or.inl rfl, Or.inl (Nat.zero_le _)⟩
  exact run_invariant (System.step cfg) SavedTracked (fun _ e h => savedTracked_step cfg h e)
    hboot es

end System

/-! ## Stretches in which electrodes are only let go -/

/-- No write, no edge, and an empty mask wherever one is read. -/
def Event.Untouching : Event → Prop
  | .signal e => e.source = .triac
  | .sliderTask inp => inp.touches = 0
  | .appMain => True

instance : DecidablePred Event.Untouching
  | .signal _ => inferInstanceAs (Decidable (_ = _))
  | .sliderTask _ => inferInstanceAs (Decidable (_ = _))
  | .appMain => isTrue trivial

namespace System

/-- What the watched loop has met. -/
structure MetUntouching (w : WatchedTask) : Prop where
  arrivals : ∀ x ∈ w.arrivals, x.1.source = .triac
  reading : w.reading.touches = 0
  readings : ∀ inp ∈ w.readings, inp.touches = 0

theorem metUntouching_step (cfg : Kconfig) {w : WatchedTask} (h : MetUntouching w) {e : Event}
    (he : e.Untouching) : MetUntouching (watch cfg w e) := by
  cases e with
  | signal e =>
      refine ⟨?_, h.reading, h.readings⟩
      intro x hx
      rcases List.mem_append.mp hx with hx | hx
      · exact h.arrivals x hx
      · rw [List.mem_singleton.mp hx]
        exact he
  | sliderTask inp =>
      rw [watch, Watched.stmt]
      split
      · refine ⟨h.arrivals, h.reading, ?_⟩
        intro r hr
        rcases List.mem_append.mp hr with hr | hr
        · exact h.readings r hr
        · rw [List.mem_singleton.mp hr]
          exact h.reading
      · refine ⟨h.arrivals, ?_, h.readings⟩
        change ((Device.sliderLoop cfg).collect w.position inp w.reading).touches = 0
        cases w.position with
        | readLevel => exact he
        | _ => exact h.reading
  | appMain => exact h

theorem undisturbed_of_untouching {e : Event} (he : e.Untouching) (w : WatchedTask) :
    Undisturbed w e := by
  cases e with
  | signal e =>
      cases e with
      | matterWrite path val => exact Source.noConfusion he
      | _ => trivial
  | _ => trivial

/-- The complete steps of such a stretch are releases and interrupts. -/
theorem untouched_of_met {w : WatchedTask} (h : MetUntouching w)
    {cs : List (Signal ⊕ TaskInput)}
    (horder : ∀ source : Source, List.Forall₂ Near
      (w.arrivals.filter fun x => x.1.source = source)
      ((placed 0 cs).filter fun x => x.1.source = source))
    (hreadings : cs.filterMap Sum.getRight? = w.readings) :
    ∀ c ∈ cs.map Command.ofSum, ∀ d, Device.Untouched d c := by
  intro c hc d
  obtain ⟨c, hmem, rfl⟩ := List.mem_map.mp hc
  cases c with
  | inl e =>
      have htriac : e.source = .triac := by
        by_contra hne
        -- no signal of another source has come
        have hnone : w.arrivals.filter (fun x => x.1.source = e.source) = [] := by
          rw [List.filter_eq_nil_iff]
          intro x hx
          simpa [h.arrivals x hx] using Ne.symm hne
        have hplaced := horder e.source
        rw [hnone, List.forall₂_nil_left_iff] at hplaced
        obtain ⟨k, hk⟩ := exists_placed hmem 0
        have hin : (e, k) ∈ (placed 0 cs).filter fun x => x.1.source = e.source :=
          List.mem_filter.mpr ⟨hk, by simp⟩
        rw [hplaced] at hin
        exact List.not_mem_nil hin
      cases e with
      | matterWrite path val => exact Source.noConfusion htriac
      | buttonEdge tickNow => exact Source.noConfusion htriac
      | zeroCross => trivial
      | timerAlarm => trivial
  | inr inp =>
      have hin : inp ∈ w.readings := by
        rw [← hreadings]
        exact List.mem_filterMap.mpr ⟨.inr inp, hmem, rfl⟩
      exact h.readings inp hin

/-- From the start of any iteration of any run from power-up to the start of another, without a
press, an edge or a remote write in between: however the interrupts fall among the statements
and however many releases `sliderTask` finds, it writes `OnOff` and `CurrentLevel` at most ten
times. -/
theorem releases_die_out_in_every_interleaving (cfg : Kconfig) (leds : LedDriver)
    (attrs : AttrPath → AttrVal) {pre es : List Event} (hes : ∀ e ∈ es, e.Untouching) :
    let s := run (System.step cfg) (boot leds attrs) pre
    let s' := run (System.step cfg) s es
    s.task = .testPressed → s.main = .returned → s'.task = .testPressed →
      s.dev.isPressed = false → s'.dev.lightWrites ≤ s.dev.lightWrites + 10 := by
  intro s s' htask hmain hend hp
  have hunfading : s.dev.Unfading := (unfaded_run cfg leds attrs pre).startFade
  obtain ⟨hv, hsaved⟩ := savedTracked_run cfg leds attrs pre
  change s.dev.SavedAt s.task at hsaved
  rw [htask] at hsaved
  have hs' : s' = ofWatched (run (watch cfg) (watched s.dev) es) := by
    have hrun := run_watch cfg (watched s.dev) es
    rw [ofWatched_watched htask hmain] at hrun
    exact hrun
  have hmet := run_invariant_of_forall (watch cfg) MetUntouching
    (fun _ _ h he => metUntouching_step cfg h he)
    (s := watched s.dev) ⟨by simp [watched], rfl, by simp [watched]⟩ hes
  have hundisturbed : Along (watch cfg) Undisturbed (watched s.dev) es :=
    along_of_forall (watch cfg) (fun e he w => undisturbed_of_untouching (hes e he) w) _
  rw [hs'] at hend ⊢
  obtain ⟨cs, hrun, horder, hreadings⟩ :=
    serial_of_undisturbed cfg hunfading hundisturbed hend
  have huntouched := along_of_forall (Device.command cfg)
    (untouched_of_met hmet horder hreadings) s.dev
  have hle := Device.lightWrites_run_le cfg hv hsaved hp huntouched
  rw [run_ofSum, hrun] at hle
  exact hle

/-- Two releases after start-up, with a half-cycle of the mains around the second. -/
theorem releases_die_out_in_every_interleaving_of_two :
    let pre : List Event := List.replicate 6 .appMain
    let es : List Event := List.replicate 15 (.sliderTask ⟨true, 100, 0⟩) ++
      [.signal .zeroCross] ++ List.replicate 5 (.sliderTask ⟨true, 200, 0⟩) ++
      [.signal .timerAlarm] ++ List.replicate 6 (.sliderTask ⟨true, 200, 0⟩)
    let s := run (System.step .noFade) (boot ⟨fun _ => 0, fun _ => false⟩ fun _ => ⟨0, 0⟩) pre
    let s' := run (System.step .noFade) s es
    s'.dev.lightWrites ≤ s.dev.lightWrites + 10 :=
  releases_die_out_in_every_interleaving .noFade _ _ (by decide) (by decide) (by decide)
    (by decide) (by decide)

end System

end MatterSwitch
