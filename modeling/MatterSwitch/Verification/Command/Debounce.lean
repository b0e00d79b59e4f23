import MatterSwitch.Transition.Debounce
import MatterSwitch.Verification.Command.Equations

/-! # Debouncing across wraps of the tick counter

Real ticks are natural numbers and the tick count is their residue modulo `2 ^ 32`. The
button re-arms at every edge, the touch branch holds off after an accepted touch. -/

namespace MatterSwitch

open Transition

namespace Device

/-! ## The two tick stamps -/

/-- The stamps that the two filters compare with are kept. -/
structure SameTicks (d d' : Device) : Prop where
  btn : d'.oldTickBtn = d.oldTickBtn
  touch : d'.oldTickTouch = d.oldTickTouch

theorem SameTicks.trans {d d' d'' : Device} (h : SameTicks d d') (h' : SameTicks d' d'') :
    SameTicks d d'' :=
  ⟨h'.btn.trans h.btn, h'.touch.trans h.touch⟩

theorem sameTicks_attributeUpdate (cfg : Kconfig) (path : AttrPath) (val : AttrVal)
    (d : Device) : SameTicks d (d.attributeUpdate cfg path val) :=
  ⟨(attributeUpdate_recorded cfg path val d).oldTickBtn,
    (attributeUpdate_recorded cfg path val d).oldTickTouch⟩

theorem sameTicks_pressBlock (cfg : Kconfig) (d : Device) : SameTicks d (d.pressBlock cfg) :=
  pressBlock_invariant cfg (P := SameTicks d)
    (fun path val d' h => h.trans (sameTicks_attributeUpdate cfg path val d'))
    (fun _ _ h => ⟨h.btn, h.touch⟩) ⟨rfl, rfl⟩

theorem sameTicks_appDriverSetDefault (cfg : Kconfig) (d : Device) :
    SameTicks d (d.appDriverSetDefault cfg 1).1 := by
  have hlevel := sameTicks_attributeUpdate cfg (currentLevelPath 1)
    { d.matter.attrs (currentLevelPath 1) with u8 := defaultBrightness } d
  apply hlevel.trans
  exact ⟨rfl, rfl⟩

/-- Only an accepted touch sets its stamp. -/
theorem touchBlock_oldTickTouch (cfg : Kconfig) (inp : TaskInput) (d : Device) :
    (d.touchBlock cfg inp).oldTickTouch =
      if TouchAccepted inp d then inp.tickNow else d.oldTickTouch := by
  by_cases ha : TouchAccepted inp d
  · rw [if_pos ha]
    by_cases hr : Relevels inp d
    · rw [touchBlock_of_relevels cfg hr]
      cases d.oldState <;> simp [attributeUpdate_currentLevel, attributeUpdate_onOff, sampled]
    · rw [touchBlock_of_same cfg ha hr]
      rfl
  · rw [touchBlock_of_not_accepted cfg ha, if_neg ha]

theorem touchBlock_oldTickBtn (cfg : Kconfig) (inp : TaskInput) (d : Device) :
    (d.touchBlock cfg inp).oldTickBtn = d.oldTickBtn :=
  touchBlock_invariant cfg (P := fun d' => d'.oldTickBtn = d.oldTickBtn)
    (fun path val d' h => (attributeUpdate_recorded cfg path val d').oldTickBtn.trans h)
    (fun _ _ _ h => h) rfl rfl

/-- `buttonCb` sets `is_pressed` itself. -/
def setsPressed (tickNow : UInt32) (d : Device) : Bool :=
  (({ d with isPressed := false } : Device).buttonCb tickNow).isPressed

theorem setsPressed_iff (tickNow : UInt32) (d : Device) :
    d.setsPressed tickNow = true ↔ tickNow - d.oldTickBtn > debounceTime := by
  rw [setsPressed, buttonCb]
  by_cases h : tickNow - d.oldTickBtn > debounceTime <;> simp [h]

/-- An iteration moves the stamp of the touch branch. -/
def stampsTouch (cfg : Kconfig) (inp : TaskInput) (d : Device) : Bool :=
  (d.sliderTask cfg inp).oldTickTouch != d.oldTickTouch

/-- A tick at which the test passes is not the tick of the stamp. -/
theorem stampsTouch_iff (cfg : Kconfig) (inp : TaskInput) (d : Device) :
    d.stampsTouch cfg inp = true ↔ TouchAccepted inp (d.pressBlock cfg) := by
  have hstamp : (d.sliderTask cfg inp).oldTickTouch =
      if TouchAccepted inp (d.pressBlock cfg) then inp.tickNow
      else (d.pressBlock cfg).oldTickTouch :=
    touchBlock_oldTickTouch cfg inp (d.pressBlock cfg)
  rw [(sameTicks_pressBlock cfg d).touch] at hstamp
  rw [stampsTouch, bne_iff_ne, hstamp]
  by_cases ha : TouchAccepted inp (d.pressBlock cfg)
  · rw [if_pos ha]
    refine iff_of_true ?_ ha
    intro heq
    have hgap := ha.2
    rw [heq, (sameTicks_pressBlock cfg d).touch, UInt32.sub_self] at hgap
    exact absurd hgap (by decide)
  · rw [if_neg ha]
    exact iff_of_false (fun hne => hne rfl) ha

/-- An iteration that does not move the stamp is the press block and the LEDs. -/
theorem sliderTask_of_not_stampsTouch (cfg : Kconfig) {inp : TaskInput} {d : Device}
    (h : d.stampsTouch cfg inp = false) :
    d.sliderTask cfg inp = (d.pressBlock cfg).ledBlock := by
  have ha : ¬ TouchAccepted inp (d.pressBlock cfg) := by
    rw [← stampsTouch_iff, h]
    exact Bool.false_ne_true
  rw [sliderTask, touchBlock_of_not_accepted cfg ha]

theorem buttonCb_oldTickTouch (tickNow : UInt32) (d : Device) :
    (d.buttonCb tickNow).oldTickTouch = d.oldTickTouch := by
  rw [buttonCb]
  split <;> rfl

end Device

/-- A wrapped difference of tick counts, in real ticks. -/
theorem tick_sub_gt_iff (hold : UInt32) (t l : ℕ) :
    UInt32.ofNat t - UInt32.ofNat l > hold ↔
      (hold.toNat : ℤ) < ((t : ℤ) - l) % (2 ^ 32 : ℕ) := by
  rw [gt_iff_lt, UInt32.lt_iff_toNat_lt, UInt32.toNat_sub, UInt32.toNat_ofNat',
    UInt32.toNat_ofNat']
  omega

/-! ## Runs on real time -/

/-- A device with the logs of its button edges and of the polls of `sliderTask`. -/
structure Clocked where
  dev : Device
  edges : List Sample
  polls : List Sample

/-- The tick count that a step reads at real tick `t`. -/
def BootStep.stamp (t : ℕ) : BootStep → BootStep
  | .command (.signal (.buttonEdge _)) => .command (.signal (.buttonEdge (UInt32.ofNat t)))
  | .command (.signal e) => .command (.signal e)
  | .command (.sliderTask inp) => .command (.sliderTask { inp with tickNow := UInt32.ofNat t })
  | .setDefault => .setDefault

namespace Clocked

def boot (leds : LedDriver) (attrs : AttrPath → AttrVal) : Clocked :=
  { dev := Device.boot leds attrs, edges := [], polls := [] }

/-- The button edge of a step, accepted if `buttonCb` sets `is_pressed`. -/
def edge (t : ℕ) (d : Device) : BootStep → List Sample
  | .command (.signal (.buttonEdge _)) =>
      [{ tick := t, pending := true, accepted := d.setsPressed (UInt32.ofNat t) }]
  | _ => []

/-- The poll of a step, accepted if the iteration moves the stamp. -/
def poll (cfg : Kconfig) (t : ℕ) (d : Device) : BootStep → List Sample
  | .command (.sliderTask inp) =>
      [{ tick := t
         pending := inp.newTouches
         accepted := d.stampsTouch cfg { inp with tickNow := UInt32.ofNat t } }]
  | _ => []

/-- A step taken at a real tick. -/
def step (cfg : Kconfig) (s : Clocked) (e : ℕ × BootStep) : Clocked :=
  { dev := s.dev.bootStep cfg (e.2.stamp e.1)
    edges := edge e.1 s.dev e.2 ++ s.edges
    polls := poll cfg e.1 s.dev e.2 ++ s.polls }

/-- A poll that is not accepted does what it would do without a touch. -/
def InertWhenRefused (cfg : Kconfig) (s : Clocked) (e : ℕ × BootStep) : Prop :=
  ∀ p ∈ poll cfg e.1 s.dev e.2, p.accepted = false →
    (s.step cfg e).dev = (s.dev.pressBlock cfg).ledBlock

theorem inertWhenRefused (cfg : Kconfig) (s : Clocked) (e : ℕ × BootStep) :
    s.InertWhenRefused cfg e := by
  obtain ⟨t, b⟩ := e
  intro p hp hrefused
  cases b with
  | setDefault => exact absurd hp List.not_mem_nil
  | command c =>
      cases c with
      | signal e => exact absurd hp List.not_mem_nil
      | sliderTask inp =>
          rw [List.mem_singleton.mp hp] at hrefused
          exact Device.sliderTask_of_not_stampsTouch cfg hrefused

/-- The stamps of the device are the ticks that the logs call for, modulo `2 ^ 32`. -/
structure Tracked (s : Clocked) : Prop where
  btn : s.dev.oldTickBtn = UInt32.ofNat (Sample.lastTick s.edges)
  touch : s.dev.oldTickTouch = UInt32.ofNat (Sample.lastAccepted s.polls)
  edges : Sample.Rearming (2 ^ 32) 300 s.edges
  polls : Sample.HoldingOff (2 ^ 32) 20 s.polls

theorem tracked_of_sameTicks {s : Clocked} (h : Tracked s) {d : Device}
    (hd : s.dev.SameTicks d) : Tracked ⟨d, s.edges, s.polls⟩ :=
  ⟨hd.btn.trans h.btn, hd.touch.trans h.touch, h.edges, h.polls⟩

theorem tracked_buttonEdge {s : Clocked} (h : Tracked s) (t : ℕ) :
    Tracked ⟨s.dev.buttonCb (UInt32.ofNat t),
      ⟨t, true, s.dev.setsPressed (UInt32.ofNat t)⟩ :: s.edges, s.polls⟩ := by
  refine ⟨rfl, (Device.buttonCb_oldTickTouch _ s.dev).trans h.touch, ?_, h.polls⟩
  apply Sample.Rearming.sample _ h.edges
  rw [Device.setsPressed_iff, h.btn]
  exact tick_sub_gt_iff Device.debounceTime t _

theorem tracked_sliderTask (cfg : Kconfig) {s : Clocked} (h : Tracked s) (inp : TaskInput)
    (t : ℕ) (ht : inp.tickNow = UInt32.ofNat t) :
    Tracked ⟨s.dev.sliderTask cfg inp, s.edges,
      ⟨t, inp.newTouches, s.dev.stampsTouch cfg inp⟩ :: s.polls⟩ := by
  have haccepted := Device.stampsTouch_iff cfg inp s.dev
  have hp := Device.sameTicks_pressBlock cfg s.dev
  have hbtn := Device.touchBlock_oldTickBtn cfg inp (s.dev.pressBlock cfg)
  have htouch := Device.touchBlock_oldTickTouch cfg inp (s.dev.pressBlock cfg)
  refine ⟨(hbtn.trans hp.btn).trans h.btn, ?_, h.edges, ?_⟩
  · refine htouch.trans ?_
    simp only [Sample.lastAccepted, haccepted]
    by_cases ha : Device.TouchAccepted inp (s.dev.pressBlock cfg)
    · rw [if_pos ha, if_pos ha, ht]
    · rw [if_neg ha, if_neg ha, hp.touch, h.touch]
  · apply Sample.HoldingOff.sample _ h.polls
    have hgap := tick_sub_gt_iff Device.debounceTimeTouch t (Sample.lastAccepted s.polls)
    rw [← ht, ← h.touch, ← hp.touch] at hgap
    exact haccepted.trans (and_congr_right fun _ => hgap)

theorem tracked_step (cfg : Kconfig) {s : Clocked} (h : Tracked s) (e : ℕ × BootStep) :
    Tracked (s.step cfg e) := by
  obtain ⟨t, b⟩ := e
  cases b with
  | setDefault => exact tracked_of_sameTicks h (Device.sameTicks_appDriverSetDefault cfg s.dev)
  | command c =>
      cases c with
      | sliderTask inp =>
          exact tracked_sliderTask cfg h { inp with tickNow := UInt32.ofNat t } t rfl
      | signal e =>
          cases e with
          | buttonEdge tickNow => exact tracked_buttonEdge h t
          | matterWrite path val =>
              exact tracked_of_sameTicks h (Device.sameTicks_attributeUpdate cfg path val s.dev)
          | zeroCross => exact tracked_of_sameTicks h ⟨rfl, rfl⟩
          | timerAlarm => exact tracked_of_sameTicks h ⟨rfl, rfl⟩

/-- From power-up the logs of every run are those of the two filters. -/
theorem tracked_run (cfg : Kconfig) (leds : LedDriver) (attrs : AttrPath → AttrVal)
    (es : List (ℕ × BootStep)) : Tracked (run (step cfg) (boot leds attrs) es) :=
  run_invariant (step cfg) Tracked (fun _ e h => tracked_step cfg h e)
    ⟨rfl, rfl, .nil, .nil⟩ es

/-! ## The debouncing laws -/

/-- From power-up, whatever else happens. Button edges in order, with gaps below `2 ^ 32`,
set `is_pressed` exactly where they open a burst; so a burst gives at most one press and
presses are more than 300 ticks apart. Polls in order accept touches more than 20 ticks
apart, and do not refuse a pending touch at two polls between 21 and `2 ^ 32 - 21` ticks
apart without having accepted one in between. A refused poll leaves no trace of the touch. -/
theorem debounced_run (cfg : Kconfig) (leds : LedDriver) (attrs : AttrPath → AttrVal)
    (es : List (ℕ × BootStep)) :
    let s := run (step cfg) (boot leds attrs) es
    (Sample.Paced (2 ^ 32) s.edges →
      (∀ e pre, e :: pre <:+ s.edges →
        (e.accepted = true ↔ 300 < e.tick - Sample.lastTick pre)) ∧
      (∀ burst, burst <:+: s.edges →
        (burst.IsChain fun later earlier => later.tick - earlier.tick ≤ 300) →
        burst.countP Sample.accepted ≤ 1) ∧
      (s.edges.filter Sample.accepted).Pairwise
        fun later earlier => 300 < later.tick - earlier.tick) ∧
    (Sample.Ordered s.polls →
      ((s.polls.filter Sample.accepted).Pairwise
        fun later earlier => 20 < later.tick - earlier.tick) ∧
      ∀ s₂ mid s₁, s₂ :: (mid ++ [s₁]) <:+: s.polls →
        s₁.pending = true → s₂.pending = true → (∀ e ∈ mid, e.accepted = false) →
        21 ≤ s₂.tick - s₁.tick → s₂.tick - s₁.tick ≤ 2 ^ 32 - 21 →
        s₁.accepted = true ∨ s₂.accepted = true) ∧
    Along (step cfg) (InertWhenRefused cfg) (boot leds attrs) es := by
  intro s
  have h : Tracked s := tracked_run cfg leds attrs es
  refine ⟨?_, ?_, along_of_forall (step cfg) (fun e _ s => inertWhenRefused cfg s e) _⟩
  · intro hp
    refine ⟨fun e pre he => h.edges.accepted_iff hp he, ?_, ?_⟩
    · intro burst hb hgap
      obtain ⟨post, pre, hlog⟩ := hb
      have hsuf : burst ++ pre <:+ s.edges := ⟨post, by rw [← hlog, List.append_assoc]⟩
      exact h.edges.burst_le_one hp hsuf hgap
    · rw [List.pairwise_filter]
      exact (h.edges.pairwise hp.ordered).imp fun hr ha _ => hr ha
  · intro ho
    refine ⟨?_, ?_⟩
    · rw [List.pairwise_filter]
      exact h.polls.pairwise ho
    · intro s₂ mid s₁ hl hp₁ hp₂ hmid hlow hhigh
      obtain ⟨post, pre, hlog⟩ := hl
      have hsuf : s₂ :: (mid ++ s₁ :: pre) <:+ s.polls := ⟨post, by rw [← hlog]; simp⟩
      exact h.polls.not_refused_twice hsuf hp₁ hp₂ hmid (by omega) (by omega) (by omega)

/-- Edges and touches on both sides of a wrap of the tick counter. -/
theorem debounced_across_wrap :
    let s := run (step .noFade) (boot ⟨fun _ => 0, fun _ => false⟩ fun _ => ⟨0, 0⟩)
      [(4294967000, .command (.signal (.buttonEdge 0))),
        (4294967290, .command (.sliderTask ⟨true, 0, 1⟩)),
        (4294967295, .command (.signal (.buttonEdge 0))),
        (4294967300, .command (.sliderTask ⟨true, 0, 1⟩)),
        (4294967311, .command (.sliderTask ⟨true, 0, 1⟩)),
        (4294967600, .command (.signal (.buttonEdge 0)))]
    (s.edges.filter Sample.accepted).Pairwise
        (fun later earlier => 300 < later.tick - earlier.tick) ∧
      (s.polls.filter Sample.accepted).Pairwise
        fun later earlier => 20 < later.tick - earlier.tick :=
  ⟨((debounced_run .noFade _ _ _).1 (by decide)).2.2,
    ((debounced_run .noFade _ _ _).2.1 (by decide)).1⟩

end Clocked

end MatterSwitch
