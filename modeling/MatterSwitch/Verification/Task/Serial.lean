import MatterSwitch.Transition.Reduction
import MatterSwitch.Verification.Task.Driver
import MatterSwitch.Verification.Task.Movers

/-! # Interleavings as complete steps

A run of the two-level system in which no remote write falls between the statements of an
iteration that touch the light is, to the last register, a run of complete steps: signals that
fall into an iteration move to its start or to its end. -/

namespace MatterSwitch

open SliderDriver Transition

/-! ## The loop of `sliderTask` -/

namespace Device

def sliderLoop (cfg : Kconfig) : Loop TaskInput Device SliderPc where
  stmt inp d pc := d.sliderStmt cfg inp pc
  collect
    | .testTouches => fun now inp => { inp with newTouches := now.newTouches }
    | .readTick => fun now inp => { inp with tickNow := now.tickNow }
    | .readLevel => fun now inp => { inp with touches := now.touches }
    | _ => fun _ inp => inp
  first := .testPressed
  last := .delay

variable {cfg : Kconfig} {inp : TaskInput} {d u : Device}

theorem completes_sliderStmt {pc : SliderPc} (hpc : pc ≠ .delay) :
    (sliderLoop cfg).Completes inp pc d u ↔
      (sliderLoop cfg).Completes inp (d.sliderStmt cfg inp pc).2 (d.sliderStmt cfg inp pc).1 u :=
  Loop.completes_iff hpc

theorem completes_pressBlock
    (h : (sliderLoop cfg).Completes inp .testTouches (d.pressBlock cfg) u) :
    (sliderLoop cfg).Completes inp .testPressed d u := by
  cases hp : d.isPressed with
  | true =>
      rw [pressBlock_of_pressed cfg hp] at h
      cases hs : d.oldState <;>
        simpa [completes_sliderStmt, sliderStmt, hp, hs, pressVal, attributeUpdate_onOff] using h
  | false =>
      rw [pressBlock_of_not_pressed cfg hp] at h
      simpa [completes_sliderStmt, sliderStmt, hp] using h

theorem completes_touchBlock
    (h : (sliderLoop cfg).Completes inp .setFrontLed (d.touchBlock cfg inp) u) :
    (sliderLoop cfg).Completes inp .testTouches d u := by
  by_cases ha : TouchAccepted inp d
  · obtain ⟨hn, ht⟩ := ha
    by_cases hr : Relevels inp d
    · have hne := hr.2
      rw [touchBlock_of_relevels cfg hr] at h
      cases hs : d.oldState with
      | true =>
          simpa [completes_sliderStmt, sliderStmt, hn, ht, hne, hs, getLevel_eq, sampled,
            levelVal, attributeUpdate_currentLevel] using h
      | false =>
          simpa [completes_sliderStmt, sliderStmt, hn, ht, hne, hs, getLevel_eq, sampled,
            levelVal, attributeUpdate_currentLevel, attributeUpdate_onOff] using h
    · have hsame : (touchValue d.slider.mPreviousLevel inp.touches).toUInt16 = d.oldLevel := by
        by_contra hne
        exact hr ⟨⟨hn, ht⟩, hne⟩
      rw [touchBlock_of_same cfg ⟨hn, ht⟩ hr] at h
      simpa [completes_sliderStmt, sliderStmt, hn, ht, getLevel_eq, hsame, sampled] using h
  · rw [touchBlock_of_not_accepted cfg ha] at h
    cases hn : inp.newTouches with
    | false => simpa [completes_sliderStmt, sliderStmt, hn] using h
    | true =>
        have ht : ¬ inp.tickNow - d.oldTickTouch > debounceTimeTouch := fun ht => ha ⟨hn, ht⟩
        simpa [completes_sliderStmt, sliderStmt, hn, ht] using h

/-- Statement by statement an undisturbed iteration is `Device.sliderTask`. -/
theorem completes_sliderTask (cfg : Kconfig) (inp : TaskInput) (d : Device) :
    (sliderLoop cfg).Completes inp .testPressed d (d.sliderTask cfg inp) := by
  apply completes_pressBlock
  apply completes_touchBlock
  rw [completes_sliderStmt SliderPc.noConfusion, completes_sliderStmt SliderPc.noConfusion]
  exact .last _

end Device

/-- Where a statement stands in the body of the loop. -/
def SliderPc.position : SliderPc → ℕ
  | .testPressed => 0
  | .chooseValue => 1
  | .updateOnOff _ => 2
  | .invertState => 3
  | .clearPressed => 4
  | .testTouches => 5
  | .readTick => 6
  | .testTick _ => 7
  | .stampTick _ => 8
  | .updateTouchStatus => 9
  | .readLevel => 10
  | .testLevel => 11
  | .chooseLevel => 12
  | .updateLevel _ => 13
  | .saveLevel _ => 14
  | .testState _ => 15
  | .chooseOn _ => 16
  | .updateOn _ => 17
  | .invertOn => 18
  | .setFrontLed => 19
  | .setLevelLed => 20
  | .delay => 21

theorem SliderPc.Next.position_lt {pc pc' : SliderPc} (h : pc.Next pc') (hpc : pc ≠ .delay) :
    pc.position < pc'.position := by
  cases h with
  | delayed => exact absurd rfl hpc
  | _ => simp [SliderPc.position]

/-! ## Which signals move -/

/-- Who sends a signal. -/
inductive Source where
  | matter
  | button
  | triac
  deriving DecidableEq, Repr

def Signal.source : Signal → Source
  | .matterWrite _ _ => .matter
  | .buttonEdge _ => .button
  | .zeroCross => .triac
  | .timerAlarm => .triac

/-- With the statements `ps` of the iteration executed and `pc` the next. -/
def Signal.Early (ps : List SliderPc) (pc : SliderPc) : Signal → Prop
  | .matterWrite _ _ => pc ≠ .delay ∧ ∀ q ∈ ps, q.touchesLight = false
  | .buttonEdge _ => ∀ q ∈ pc :: ps, q.position ≤ SliderPc.clearPressed.position
  | .zeroCross => pc ≠ .delay
  | .timerAlarm => pc ≠ .delay

def Signal.Late (pc : SliderPc) (e : Signal) : Prop :=
  pc = .delay ∨ e.source = .button ∧ SliderPc.clearPressed.position < pc.position

namespace Device

/-- No fade is under way, as in every state of a run from power-up. -/
def Unfading (d : Device) : Prop := d.slider.startFade = false

theorem unfading_of_calls {cfg : Kconfig} {d d' : Device} (h : Unfading d)
    (hcalls : Calls cfg d.slider d'.slider) : Unfading d' := by
  apply hcalls.invariant (P := fun d => d.startFade = false) _ h
  intro e e' he hcall
  rcases hcall.unset_or_commit he with hu | ⟨f, hu, rfl⟩
  · exact hu.startFade.trans he
  · exact hu.startFade.trans he

theorem unfading_sliderStmt (cfg : Kconfig) (inp : TaskInput) (d : Device) (pc : SliderPc)
    (h : Unfading d) : Unfading (d.sliderStmt cfg inp pc).1 :=
  unfading_of_calls h (System.calls_step cfg ⟨d, pc, .returned⟩ (.sliderTask inp))

theorem unfading_signal (cfg : Kconfig) (d : Device) (e : Signal) (h : Unfading d) :
    Unfading (d.signal cfg e) :=
  unfading_of_calls h (System.calls_step cfg ⟨d, .delay, .returned⟩ (.signal e))

theorem signal_timerAlarm (cfg : Kconfig) {d : Device} (h : Unfading d) :
    d.signal cfg .timerAlarm = d.interrupt alarmInterrupt := by
  rw [signal, onTimerAlarmCb_eq cfg h]
  rfl

theorem signal_zeroCross (cfg : Kconfig) (d : Device) :
    d.signal cfg .zeroCross = d.interrupt zeroCrossInterrupt := by
  rw [signal, gpioIsrHandler_eq]
  rfl

theorem sliderStmt_early {cfg : Kconfig} {ps : List SliderPc} {pc : SliderPc} {e : Signal}
    (he : e.Early ps pc) {q : SliderPc} (hq : q ∈ ps) {inp : TaskInput} {d : Device}
    (hd : Unfading d) (hnext : (d.sliderStmt cfg inp q).2 ∈ pc :: ps) :
    (d.signal cfg e).sliderStmt cfg inp q =
      ((d.sliderStmt cfg inp q).1.signal cfg e, (d.sliderStmt cfg inp q).2) := by
  cases e with
  | matterWrite path val => exact sliderStmt_attributeUpdate cfg inp path val d (he.2 q hq)
  | buttonEdge tickNow =>
      have hle := he _ hnext
      apply sliderStmt_buttonCb
      · rintro rfl
        by_contra hp
        simp [sliderStmt, hp, SliderPc.position] at hle
      · rintro rfl
        simp [sliderStmt, SliderPc.position] at hle
  | zeroCross =>
      rw [signal_zeroCross, signal_zeroCross]
      exact sliderStmt_interrupt cfg inp zeroCrossInterrupt d q
  | timerAlarm =>
      rw [signal_timerAlarm cfg hd, signal_timerAlarm cfg (unfading_sliderStmt cfg inp d q hd)]
      exact sliderStmt_interrupt cfg inp alarmInterrupt d q

theorem buttonEdge_of_late {ps : List SliderPc} {pc : SliderPc} {e e' : Signal}
    (he : e.Early ps pc) (hl : e'.Late pc) :
    e.source ≠ .button ∧ ∃ tickNow, e' = .buttonEdge tickNow := by
  have hne : e.source ≠ .button ∧ pc ≠ .delay := by
    cases e with
    | matterWrite path val => exact ⟨Source.noConfusion, he.1⟩
    | buttonEdge tickNow =>
        have hle := he pc List.mem_cons_self
        rcases hl with rfl | ⟨-, hlt⟩
        · simp [SliderPc.position] at hle
        · omega
    | zeroCross => exact ⟨Source.noConfusion, he⟩
    | timerAlarm => exact ⟨Source.noConfusion, he⟩
  have hb := hl.resolve_left hne.2
  refine ⟨hne.1, ?_⟩
  cases e' with
  | buttonEdge tickNow => exact ⟨tickNow, rfl⟩
  | _ => exact Source.noConfusion hb.1

theorem signal_comm {cfg : Kconfig} {e : Signal} (he : e.source ≠ .button) (tickNow : UInt32)
    {d : Device} (hd : Unfading d) :
    (d.signal cfg e).buttonCb tickNow = (d.buttonCb tickNow).signal cfg e := by
  cases e with
  | matterWrite path val => exact (attributeUpdate_buttonCb cfg path val tickNow d).symm
  | buttonEdge _ => exact absurd rfl he
  | zeroCross =>
      rw [signal_zeroCross, signal_zeroCross]
      exact buttonCb_interrupt tickNow zeroCrossInterrupt d
  | timerAlarm =>
      have hb : Unfading (d.buttonCb tickNow) := unfading_signal cfg d (.buttonEdge tickNow) hd
      rw [signal_timerAlarm cfg hd, signal_timerAlarm cfg hb]
      exact buttonCb_interrupt tickNow alarmInterrupt d

theorem sliderStmt_late {cfg : Kconfig} {pc : SliderPc} {e : Signal} (he : e.Late pc)
    (hpc : pc ≠ .delay) (inp : TaskInput) (d : Device) :
    (d.signal cfg e).sliderStmt cfg inp pc =
      ((d.sliderStmt cfg inp pc).1.signal cfg e, (d.sliderStmt cfg inp pc).2) := by
  obtain ⟨hb, hlt⟩ := he.resolve_left hpc
  cases e with
  | buttonEdge tickNow =>
      apply sliderStmt_buttonCb
      · rintro rfl
        exact absurd hlt (by decide)
      · rintro rfl
        exact Nat.lt_irrefl _ hlt
  | _ => exact Source.noConfusion hb

/-- What is early and what is late moves. -/
def sliderMovers (cfg : Kconfig) :
    Movers (sliderLoop cfg) (Device.signal cfg) Signal.source Unfading where
  position := SliderPc.position
  Early ps pc e := e.Early ps pc
  Late pc e := e.Late pc
  position_first := rfl
  position_lt inp d _ hpc := (Device.next_sliderStmt cfg inp d _).position_lt hpc
  last_stmt _ _ := rfl
  collect_self inp now d pc := by cases pc <;> rfl
  collect_of_ne inp now d pc q hne := by
    cases pc with
    | testTouches => cases q with
      | testTouches => exact absurd rfl hne
      | _ => rfl
    | readTick => cases q with
      | readTick => exact absurd rfl hne
      | _ => rfl
    | readLevel => cases q with
      | readLevel => exact absurd rfl hne
      | _ => rfl
    | _ => rfl
  inv_stmt inp d pc := unfading_sliderStmt cfg inp d pc
  inv_signal d e := unfading_signal cfg d e
  early_stmt _ _ _ he q hq _ d hd hnext := sliderStmt_early he hq hd hnext
  early_signal _ _ e e' he hl d hd := by
    obtain ⟨hne, tickNow, rfl⟩ := buttonEdge_of_late he hl
    exact signal_comm hne tickNow hd
  early_source _ _ e e' he hl := by
    obtain ⟨hne, tickNow, rfl⟩ := buttonEdge_of_late he hl
    exact hne.symm
  late_stmt _ _ he hpc inp d _ := sliderStmt_late he hpc inp d
  late_next pc e he hpc inp d := by
    obtain ⟨hb, hlt⟩ := he.resolve_left hpc
    exact .inr ⟨hb, Nat.lt_trans hlt ((Device.next_sliderStmt cfg inp d _).position_lt hpc)⟩
  late_first e he := by
    rcases he with heq | ⟨-, hlt⟩
    · exact SliderPc.noConfusion heq
    · exact Nat.not_lt_zero _ hlt

end Device

/-! ## Whole runs -/

def Command.ofSum : Signal ⊕ TaskInput → Command := Sum.elim .signal .sliderTask

def Command.toSum : Command → Signal ⊕ TaskInput
  | .signal e => .inl e
  | .sliderTask inp => .inr inp

theorem toSum_ofSum (cs : List (Signal ⊕ TaskInput)) :
    (cs.map Command.ofSum).map Command.toSum = cs := by
  induction cs with
  | nil => rfl
  | cons c cs ih => cases c <;> exact congrArg (_ :: ·) ih

theorem run_ofSum (cfg : Kconfig) (d : Device) (cs : List (Signal ⊕ TaskInput)) :
    run (Device.command cfg) d (cs.map Command.ofSum) =
      run (serial (Device.signal cfg) fun inp d => Device.sliderTask cfg inp d) d cs := by
  induction cs generalizing d with
  | nil => rfl
  | cons c cs ih => cases c <;> exact ih _

namespace System

abbrev WatchedTask := Watched TaskInput Device SliderPc Signal

/-- Once `app_main` has returned, the device with the iteration under way, what the complete
iterations read and when the signals came. -/
def watch (cfg : Kconfig) (w : WatchedTask) : Event → WatchedTask
  | .signal e => w.signal (Device.signal cfg) e
  | .sliderTask inp => w.stmt (Device.sliderLoop cfg) inp
  | .appMain => w

/-- Between two iterations, with nothing read yet. -/
def watched (d : Device) : WatchedTask := ⟨d, .testPressed, [], ⟨false, 0, 0⟩, [], []⟩

/-- The system that the watched loop is part of. -/
def ofWatched (w : WatchedTask) : System := ⟨w.state, w.position, .returned⟩

theorem run_watch (cfg : Kconfig) (w : WatchedTask) (es : List Event) :
    run (System.step cfg) (ofWatched w) es = ofWatched (run (watch cfg) w es) := by
  induction es generalizing w with
  | nil => rfl
  | cons e es ih =>
      have hstep : (ofWatched w).step cfg e = ofWatched (watch cfg w e) := by
        cases e with
        | signal e => rfl
        | sliderTask inp =>
            rw [watch, Watched.stmt]
            split <;> rfl
        | appMain => rfl
      rw [run_cons, run_cons, hstep, ih]

/-- No remote write falls between the first statement of an iteration that touches the light
and its end. -/
def Undisturbed (w : WatchedTask) : Event → Prop
  | .signal (.matterWrite _ _) =>
      w.position = .delay ∨ ∀ pc ∈ w.executed, pc.touchesLight = false
  | _ => True

instance (w : WatchedTask) : (e : Event) → Decidable (Undisturbed w e)
  | .signal (.matterWrite _ _) => inferInstanceAs (Decidable (_ ∨ _))
  | .signal (.buttonEdge _) => isTrue trivial
  | .signal .zeroCross => isTrue trivial
  | .signal .timerAlarm => isTrue trivial
  | .sliderTask _ => isTrue trivial
  | .appMain => isTrue trivial

abbrev Serialized (cfg : Kconfig) (d : Device) :=
  Movers.Serialized (Device.sliderMovers cfg) (fun inp d => Device.sliderTask cfg inp d) d

/-- Every signal that does not disturb the iteration is early or late. -/
theorem early_or_late {cfg : Kconfig} {d : Device} {w : WatchedTask}
    {cs : List (Signal ⊕ TaskInput)} {after : List Signal} {m : Device}
    (h : Serialized cfg d w cs after m) {e : Signal} (he : Undisturbed w (.signal e)) :
    e.Early w.executed w.position ∨ e.Late w.position := by
  by_cases hd : w.position = .delay
  · exact .inr (.inl hd)
  · cases e with
    | matterWrite path val => exact .inl ⟨hd, he.resolve_left hd⟩
    | buttonEdge tickNow =>
        by_cases hle : w.position.position ≤ SliderPc.clearPressed.position
        · left
          intro q hq
          rcases List.mem_cons.mp hq with rfl | hq
          · exact hle
          · have hlt := h.underway.position_lt SliderPc.position
              (fun _ _ hpc => (Device.next_sliderStmt cfg w.reading _ _).position_lt hpc) q hq
            omega
        · exact .inr (.inr ⟨rfl, Nat.lt_of_not_le hle⟩)
    | zeroCross => exact .inl hd
    | timerAlarm => exact .inl hd

theorem serialized_step {cfg : Kconfig} {d : Device} {w : WatchedTask}
    {cs : List (Signal ⊕ TaskInput)} {after : List Signal} {m : Device}
    (h : Serialized cfg d w cs after m) {e : Event} (he : Undisturbed w e) :
    ∃ cs after m, Serialized cfg d (watch cfg w e) cs after m := by
  cases e with
  | signal e =>
      rcases early_or_late h he with hm | hm
      · exact ⟨_, _, _, h.early hm⟩
      · exact ⟨_, _, _, h.wait hm⟩
  | sliderTask inp =>
      by_cases hd : w.position = .delay
      · exact ⟨_, _, _, h.last inp (fun inp d => Device.completes_sliderTask cfg inp d) hd⟩
      · exact ⟨_, _, _, h.stmt inp hd⟩
  | appMain => exact ⟨_, _, _, h⟩

/-- From between two iterations to between two others the loop takes complete steps. -/
theorem serial_of_undisturbed (cfg : Kconfig) {d : Device} (hd : d.Unfading) {es : List Event}
    (hes : Along (watch cfg) Undisturbed (watched d) es)
    (hend : (run (watch cfg) (watched d) es).position = .testPressed) :
    ∃ cs : List (Signal ⊕ TaskInput),
      run (serial (Device.signal cfg) fun inp d => Device.sliderTask cfg inp d) d cs =
        (run (watch cfg) (watched d) es).state ∧
      (∀ source : Source, List.Forall₂ Near
        ((run (watch cfg) (watched d) es).arrivals.filter fun x => x.1.source = source)
        ((placed 0 cs).filter fun x => x.1.source = source)) ∧
      cs.filterMap Sum.getRight? = (run (watch cfg) (watched d) es).readings := by
  have hstart : Serialized cfg d (watched d) [] [] d :=
    Movers.serialized_start hd (⟨false, 0, 0⟩ : TaskInput)
  obtain ⟨cs, after, m, h⟩ := run_invariant_of_along (watch cfg)
    (fun w => ∃ cs after m, Serialized cfg d w cs after m)
    (fun _ _ ⟨_, _, _, h⟩ he => serialized_step h he) ⟨_, _, _, hstart⟩ hes
  exact ⟨cs, h.complete hend⟩

theorem ofWatched_watched {s : System} (htask : s.task = .testPressed)
    (hmain : s.main = .returned) : ofWatched (watched s.dev) = s := by
  obtain ⟨d, task, main⟩ := s
  subst htask
  subst hmain
  rfl

/-- Once `app_main` has returned, take any stretch of a run from the start of an iteration to
the start of another in which no remote write falls between the statements of an iteration that
touch the light. However the signals fall among the statements, the stretch leaves the device as
a run of complete steps does: the iterations are those of the stretch, each with what it read,
the signals of each source come in their order, and each signal comes right before or right
after the iteration it fell into. -/
theorem iterations_are_atomic (cfg : Kconfig) (leds : LedDriver) (attrs : AttrPath → AttrVal)
    {pre es : List Event} :
    let s := run (System.step cfg) (boot leds attrs) pre
    let s' := run (System.step cfg) s es
    let w := run (watch cfg) (watched s.dev) es
    s.task = .testPressed → s.main = .returned → s'.task = .testPressed →
      Along (watch cfg) Undisturbed (watched s.dev) es →
      ∃ cs : List Command,
        run (Device.command cfg) s.dev cs = s'.dev ∧
        (cs.map Command.toSum).filterMap Sum.getRight? = w.readings ∧
        ∀ source : Source,
          List.Forall₂ Near (w.arrivals.filter fun x => x.1.source = source)
            ((placed 0 (cs.map Command.toSum)).filter fun x => x.1.source = source) := by
  intro s s' w htask hmain hend hes
  have hunfading : s.dev.Unfading := (unfaded_run cfg leds attrs pre).startFade
  have hs' : s' = ofWatched w := by
    have hrun := run_watch cfg (watched s.dev) es
    rw [ofWatched_watched htask hmain] at hrun
    exact hrun
  have hposition : w.position = .testPressed := by
    rw [hs'] at hend
    exact hend
  obtain ⟨cs, hrun, horder, hreadings⟩ := serial_of_undisturbed cfg hunfading hes hposition
  refine ⟨cs.map Command.ofSum, ?_, ?_, ?_⟩
  · rw [run_ofSum, hrun, hs']
    rfl
  · rw [toSum_ofSum]
    exact hreadings
  · rw [toSum_ofSum]
    exact horder

/-- A press is handled while a write, a crossing, an alarm and another edge fall into the
iteration. -/
theorem iterations_are_atomic_around_press :
    let pre : List Event := List.replicate 6 .appMain
    let es : List Event := [.signal (.buttonEdge 1000), .sliderTask ⟨false, 0, 0⟩,
      .signal (.matterWrite (currentLevelPath 1) ⟨2, 127⟩), .sliderTask ⟨false, 0, 0⟩,
      .signal .zeroCross, .sliderTask ⟨false, 0, 0⟩, .sliderTask ⟨false, 0, 0⟩,
      .signal .timerAlarm, .sliderTask ⟨false, 0, 0⟩, .signal (.buttonEdge 2000),
      .sliderTask ⟨false, 0, 0⟩, .sliderTask ⟨false, 0, 0⟩, .sliderTask ⟨false, 0, 0⟩,
      .signal (.matterWrite (onOffPath 1) ⟨1, 1⟩), .sliderTask ⟨false, 0, 0⟩]
    let s := run (System.step .noFade) (boot ⟨fun _ => 0, fun _ => false⟩ fun _ => ⟨0, 0⟩) pre
    let s' := run (System.step .noFade) s es
    let w := run (watch .noFade) (watched s.dev) es
    ∃ cs : List Command,
      run (Device.command .noFade) s.dev cs = s'.dev ∧
      (cs.map Command.toSum).filterMap Sum.getRight? = w.readings ∧
      ∀ source : Source,
        List.Forall₂ Near (w.arrivals.filter fun x => x.1.source = source)
          ((placed 0 (cs.map Command.toSum)).filter fun x => x.1.source = source) :=
  iterations_are_atomic .noFade _ _ (by decide) (by decide) (by decide) (by decide)

end System

end MatterSwitch
