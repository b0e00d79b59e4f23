import Mathlib.Algebra.Ring.Nat
import Mathlib.Logic.Function.Iterate
import MatterSwitch.Transition.Run

/-! # One-shot timers under a trigger

A trigger comes again and again, with a number of ticks after each. A one-shot timer that
a trigger starts, and that ignores triggers while it counts, raises its alarm at a fixed
delay after the trigger exactly when the triggers are far enough apart. -/

namespace MatterSwitch.Transition

section Segment

variable {σ τ : Type*} (trigger tick : σ → σ) (pulses : σ → ℕ)

/-- The state a number of ticks after a trigger. -/
def segment (s : σ) (n : ℕ) : σ := tick^[n] (trigger s)

/-- In the ticks after a trigger, a pulse comes only at the delay, and at most one comes. -/
structure InPhase (delay : ℕ) (s : σ) (n : ℕ) : Prop where
  on_time : ∀ k < n, pulses (segment trigger tick s (k + 1)) ≠
    pulses (segment trigger tick s k) → k + 1 = delay
  at_most_one : pulses (segment trigger tick s n) ≤ pulses s + 1

variable {trigger tick pulses} {trigger' tick' : τ → τ} {pulses' : τ → ℕ}

theorem rel_segment (Rel : σ → τ → Prop)
    (htrigger : ∀ s t, Rel s t → Rel (trigger s) (trigger' t))
    (htick : ∀ s t, Rel s t → Rel (tick s) (tick' t)) {s : σ} {t : τ} (h : Rel s t) (n : ℕ) :
    Rel (segment trigger tick s n) (segment trigger' tick' t n) := by
  induction n with
  | zero => exact htrigger s t h
  | succ n ih =>
      rw [segment, segment, Function.iterate_succ_apply', Function.iterate_succ_apply']
      exact htick _ _ ih

/-- Timers in lock-step that count the same pulses are in phase together. -/
theorem inPhase_iff_of_rel (Rel : σ → τ → Prop)
    (htrigger : ∀ s t, Rel s t → Rel (trigger s) (trigger' t))
    (htick : ∀ s t, Rel s t → Rel (tick s) (tick' t))
    (hpulses : ∀ s t, Rel s t → pulses s = pulses' t) (delay : ℕ) {s : σ} {t : τ}
    (h : Rel s t) (n : ℕ) :
    InPhase trigger tick pulses delay s n ↔ InPhase trigger' tick' pulses' delay t n := by
  have hseg : ∀ k, pulses (segment trigger tick s k) = pulses' (segment trigger' tick' t k) :=
    fun k => hpulses _ _ (rel_segment Rel htrigger htick h k)
  have hs := hpulses s t h
  constructor
  · intro hp
    refine ⟨fun k hk => ?_, ?_⟩
    · rw [← hseg, ← hseg]
      exact hp.on_time k hk
    · rw [← hseg, ← hs]
      exact hp.at_most_one
  · intro hp
    refine ⟨fun k hk => ?_, ?_⟩
    · rw [hseg, hseg]
      exact hp.on_time k hk
    · rw [hseg, hs]
      exact hp.at_most_one

end Segment

/-- `elapsed` is the count of a running timer. -/
structure OneShot where
  elapsed : Option ℕ
  alarms : ℕ
  deriving DecidableEq, Repr

namespace OneShot

/-- A running timer is not started anew. -/
def trigger (t : OneShot) : OneShot := { t with elapsed := some (t.elapsed.getD 0) }

/-- The timer stops at its alarm. -/
def tick (alarm : ℕ) (t : OneShot) : OneShot :=
  match t.elapsed with
  | none => t
  | some c =>
      if c + 1 = alarm then { elapsed := none, alarms := t.alarms + 1 }
      else { t with elapsed := some (c + 1) }

/-- A running timer after some ticks: still counting, or stopped after one alarm. -/
theorem iterate_tick_some {alarm c : ℕ} (hc : c < alarm) (a n : ℕ) :
    (tick alarm)^[n] ⟨some c, a⟩ =
      if c + n < alarm then ⟨some (c + n), a⟩ else ⟨none, a + 1⟩ := by
  induction n with
  | zero => simp [hc]
  | succ n ih =>
      rw [Function.iterate_succ_apply', ih]
      rcases Nat.lt_trichotomy (c + n + 1) alarm with h | h | h
      · rw [if_pos (by omega), if_pos (by omega), tick]
        exact if_neg (Nat.ne_of_lt h)
      · rw [if_pos (by omega), if_neg (by omega), tick]
        exact if_pos h
      · rw [if_neg (by omega), if_neg (by omega), tick]

theorem segment_none {alarm : ℕ} (ha : 0 < alarm) (a n : ℕ) :
    segment trigger (tick alarm) ⟨none, a⟩ n =
      if n < alarm then ⟨some n, a⟩ else ⟨none, a + 1⟩ := by
  have h := iterate_tick_some ha a n
  rw [Nat.zero_add] at h
  exact h

theorem segment_some {alarm c : ℕ} (hc : c < alarm) (a n : ℕ) :
    segment trigger (tick alarm) ⟨some c, a⟩ n =
      if c + n < alarm then ⟨some (c + n), a⟩ else ⟨none, a + 1⟩ :=
  iterate_tick_some hc a n

/-- A stopped timer is in phase for as long as one likes. -/
theorem inPhase_none {alarm : ℕ} (ha : 0 < alarm) (a n : ℕ) :
    InPhase trigger (tick alarm) alarms alarm ⟨none, a⟩ n := by
  constructor
  · intro k _ hne
    rw [segment_none ha, segment_none ha] at hne
    by_contra hk
    apply hne
    by_cases h : k + 1 < alarm
    · rw [if_pos h, if_pos (by omega)]
    · rw [if_neg h, if_neg (by omega)]
  · rw [segment_none ha]
    split <;> simp

/-- A timer caught counting is in phase only while its alarm does not come. -/
theorem inPhase_some_iff {alarm c : ℕ} (h0 : 0 < c) (hc : c < alarm) (a n : ℕ) :
    InPhase trigger (tick alarm) alarms alarm ⟨some c, a⟩ n ↔ c + n < alarm := by
  constructor
  · intro h
    by_contra hle
    have htime := h.on_time (alarm - c - 1) (by omega)
    rw [segment_some hc, segment_some hc, if_neg (by omega), if_pos (by omega)] at htime
    have := htime (by simp)
    omega
  · intro h
    constructor
    · intro k hk hne
      rw [segment_some hc, segment_some hc, if_pos (by omega), if_pos (by omega)] at hne
      exact absurd rfl hne
    · rw [segment_some hc, if_pos h]
      exact Nat.le_succ a

/-- Every spacing lasts until the alarm, or the alarm does not come any more. -/
def Separated (alarm : ℕ) : List ℕ → Prop
  | [] => True
  | n :: ns => (alarm ≤ n ∨ n + ns.sum < alarm) ∧ Separated alarm ns

instance (alarm : ℕ) : (ns : List ℕ) → Decidable (Separated alarm ns)
  | [] => isTrue trivial
  | n :: ns =>
      haveI := instDecidableSeparated alarm ns
      inferInstanceAs (Decidable ((alarm ≤ n ∨ n + ns.sum < alarm) ∧ Separated alarm ns))

theorem separated_of_sum_lt {alarm : ℕ} {ns : List ℕ} (h : ns.sum < alarm) :
    Separated alarm ns := by
  induction ns with
  | nil => trivial
  | cons n ns ih =>
      rw [List.sum_cons] at h
      exact ⟨.inr h, ih (by omega)⟩

theorem along_inPhase_some_iff {alarm c : ℕ} (h0 : 0 < c) (hc : c < alarm) (a : ℕ)
    (ns : List ℕ) :
    Along (segment trigger (tick alarm)) (InPhase trigger (tick alarm) alarms alarm)
      ⟨some c, a⟩ ns ↔ c + ns.sum < alarm := by
  induction ns generalizing c with
  | nil => simpa using hc
  | cons n ns ih =>
      rw [along_cons, inPhase_some_iff h0 hc, List.sum_cons]
      constructor
      · intro h
        obtain ⟨hn, h⟩ := h
        rw [segment_some hc, if_pos hn, ih (by omega) hn] at h
        omega
      · intro h
        have hn : c + n < alarm := by omega
        refine ⟨hn, ?_⟩
        rw [segment_some hc, if_pos hn, ih (by omega) hn]
        omega

/-- From rest, the alarms stay in phase with the triggers exactly when these are
separated. -/
theorem along_inPhase_none_iff {alarm : ℕ} (ha : 0 < alarm) (a : ℕ) {ns : List ℕ}
    (hpos : ∀ n ∈ ns, 0 < n) :
    Along (segment trigger (tick alarm)) (InPhase trigger (tick alarm) alarms alarm)
      ⟨none, a⟩ ns ↔ Separated alarm ns := by
  induction ns generalizing a with
  | nil => exact Iff.rfl
  | cons n ns ih =>
      have hn : 0 < n := hpos n (by simp)
      have hns : ∀ m ∈ ns, 0 < m := fun m hm => hpos m (by simp [hm])
      rw [along_cons, segment_none ha, Separated]
      simp only [inPhase_none ha, true_and]
      by_cases h : n < alarm
      · rw [if_pos h, along_inPhase_some_iff hn h]
        constructor
        · intro hsum
          exact ⟨.inr hsum, separated_of_sum_lt (by omega)⟩
        · intro hsep
          exact hsep.1.resolve_left (by omega)
      · rw [if_neg h, ih (a + 1) hns]
        constructor
        · intro hsep
          exact ⟨.inl (by omega), hsep⟩
        · exact fun hsep => hsep.2

end OneShot

end MatterSwitch.Transition
