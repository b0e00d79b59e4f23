import Mathlib.Data.Int.Notation
import Mathlib.Data.List.Chain
import Mathlib.Tactic.Common

/-! # Debouncing on a counter that wraps

Samples are taken at real ticks, natural numbers, while the filter only sees their
differences modulo `m`. A filter that re-arms at every sample compares with the sample
before, one that holds off compares with the last acceptance. Logs have the latest sample
first and start at tick zero. -/

namespace MatterSwitch.Transition

/-- A sample of a signal: when, whether it was pending, and whether the filter took it. -/
structure Sample where
  tick : ℕ
  pending : Bool
  accepted : Bool
  deriving DecidableEq, Repr

namespace Sample

/-- The tick of the latest sample. -/
def lastTick : List Sample → ℕ
  | [] => 0
  | s :: _ => s.tick

/-- The tick of the latest accepted sample. -/
def lastAccepted : List Sample → ℕ
  | [] => 0
  | s :: log => if s.accepted then s.tick else lastAccepted log

/-- Ticks do not decrease. -/
def Ordered : List Sample → Prop
  | [] => True
  | s :: log => lastTick log ≤ s.tick ∧ Ordered log

/-- Ticks do not decrease, and no gap takes the counter all the way around. -/
def Paced (m : ℕ) : List Sample → Prop
  | [] => True
  | s :: log => (lastTick log ≤ s.tick ∧ s.tick - lastTick log < m) ∧ Paced m log

instance (m : ℕ) : (log : List Sample) → Decidable (Paced m log)
  | [] => isTrue trivial
  | s :: log =>
      haveI := instDecidablePaced m log
      inferInstanceAs (Decidable ((lastTick log ≤ s.tick ∧ s.tick - lastTick log < m) ∧ _))

instance : (log : List Sample) → Decidable (Ordered log)
  | [] => isTrue trivial
  | s :: log =>
      haveI := instDecidableOrdered log
      inferInstanceAs (Decidable (lastTick log ≤ s.tick ∧ _))

/-- Logs of a filter that re-arms at every sample. -/
inductive Rearming (m hold : ℕ) : List Sample → Prop where
  | nil : Rearming m hold []
  | sample {log : List Sample} (s : Sample) (h : Rearming m hold log)
      (hs : s.accepted = true ↔ (hold : ℤ) < ((s.tick : ℤ) - lastTick log) % m) :
      Rearming m hold (s :: log)

/-- Logs of a filter that takes a pending sample and then holds off. -/
inductive HoldingOff (m hold : ℕ) : List Sample → Prop where
  | nil : HoldingOff m hold []
  | sample {log : List Sample} (s : Sample) (h : HoldingOff m hold log)
      (hs : s.accepted = true ↔
        s.pending = true ∧ (hold : ℤ) < ((s.tick : ℤ) - lastAccepted log) % m) :
      HoldingOff m hold (s :: log)

/-! ## Order -/

theorem Paced.ordered {m : ℕ} {log : List Sample} (h : Paced m log) : Ordered log := by
  induction log with
  | nil => trivial
  | cons s log ih => exact ⟨h.1.1, ih h.2⟩

/-- What a log shares with the log before its latest sample, it shares with every log of the
past. -/
theorem of_suffix {P : List Sample → Prop} (hcons : ∀ s log, P (s :: log) → P log)
    {pre log : List Sample} (h : P log) (hp : pre <:+ log) : P pre := by
  induction log with
  | nil =>
      rw [List.suffix_nil.mp hp]
      exact h
  | cons s log ih =>
      rcases List.suffix_cons_iff.mp hp with rfl | hp
      · exact h
      · exact ih (hcons s log h) hp

theorem Paced.of_suffix {m : ℕ} {pre log : List Sample} (h : Paced m log) (hp : pre <:+ log) :
    Paced m pre :=
  Sample.of_suffix (fun _ _ h => h.2) h hp

/-- No sample is later than the latest. -/
theorem Ordered.le_lastTick {log : List Sample} (h : Ordered log) :
    ∀ s ∈ log, s.tick ≤ lastTick log := by
  induction log with
  | nil => simp
  | cons s log ih =>
      intro e he
      rcases List.mem_cons.mp he with rfl | he
      · exact le_rfl
      · exact (ih h.2 e he).trans h.1

/-- No accepted sample is later than the latest of them. -/
theorem Ordered.le_lastAccepted {log : List Sample} (h : Ordered log) :
    ∀ s ∈ log, s.accepted = true → s.tick ≤ lastAccepted log := by
  induction log with
  | nil => simp
  | cons s log ih =>
      intro e he ha
      rw [lastAccepted]
      split
      · exact h.le_lastTick e he
      · rename_i hs
        rcases List.mem_cons.mp he with rfl | he
        · exact absurd ha hs
        · exact ih h.2 e he ha

theorem Ordered.lastAccepted_le {log : List Sample} (h : Ordered log) :
    lastAccepted log ≤ lastTick log := by
  induction log with
  | nil => exact le_rfl
  | cons s log ih =>
      rw [lastAccepted]
      split
      · exact le_rfl
      · exact (ih h.2).trans h.1

/-- A wrapped difference never exceeds the real one. -/
theorem lt_sub_of_lt_emod {m hold t l : ℕ} (hl : l ≤ t)
    (h : (hold : ℤ) < ((t : ℤ) - l) % m) : hold < t - l := by
  have hc : ((t : ℤ) - l) % m = ((t - l) % m : ℕ) := by
    rw [← Int.ofNat_sub hl]
    rfl
  rw [hc] at h
  have hle := Nat.mod_le (t - l) m
  omega

/-! ## Re-arming -/

theorem Rearming.of_suffix {m hold : ℕ} {pre log : List Sample} (h : Rearming m hold log)
    (hp : pre <:+ log) : Rearming m hold pre := by
  apply Sample.of_suffix _ h hp
  intro s log h
  cases h with
  | sample _ h _ => exact h

/-- With gaps below `m` the filter takes exactly the samples that come more than `hold`
after the sample before. -/
theorem Rearming.accepted_iff {m hold : ℕ} {log : List Sample} (h : Rearming m hold log)
    (hp : Paced m log) {s : Sample} {pre : List Sample} (hs : s :: pre <:+ log) :
    s.accepted = true ↔ hold < s.tick - lastTick pre := by
  obtain ⟨⟨hle, hlt⟩, -⟩ := hp.of_suffix hs
  cases h.of_suffix hs with
  | sample _ _ ha =>
      have hmod : ((s.tick : ℤ) - lastTick pre) % m = (s.tick - lastTick pre : ℕ) := by
        rw [← Int.ofNat_sub hle]
        exact Int.emod_eq_of_lt (by omega) (by omega)
      rw [ha, hmod, Int.ofNat_lt]

/-- A run of samples with gaps of at most `hold` is taken at most once. -/
theorem Rearming.burst_le_one {m hold : ℕ} {log : List Sample} (h : Rearming m hold log)
    (hp : Paced m log) {burst pre : List Sample} (hb : burst ++ pre <:+ log)
    (hgap : burst.IsChain fun later earlier => later.tick - earlier.tick ≤ hold) :
    burst.countP Sample.accepted ≤ 1 := by
  induction burst with
  | nil => simp
  | cons s burst ih =>
      cases burst with
      | nil => exact List.countP_le_length
      | cons e burst =>
          obtain ⟨hse, hgap⟩ := List.isChain_cons_cons.mp hgap
          have hacc := h.accepted_iff hp hb
          have hs : ¬ s.accepted = true := by
            rw [hacc]
            exact Nat.not_lt.mpr hse
          rw [List.countP_cons_of_neg hs]
          exact ih ((List.suffix_cons s _).trans hb) hgap

/-- Whatever the filter takes comes more than `hold` after every sample before. -/
theorem Rearming.pairwise {m hold : ℕ} {log : List Sample} (h : Rearming m hold log)
    (ho : Ordered log) :
    log.Pairwise fun later earlier =>
      later.accepted = true → hold < later.tick - earlier.tick := by
  induction h with
  | nil => exact List.Pairwise.nil
  | @sample log s _ hs ih =>
      refine List.Pairwise.cons ?_ (ih ho.2)
      intro e he ha
      have hgap := lt_sub_of_lt_emod ho.1 (hs.mp ha)
      have hle := ho.2.le_lastTick e he
      omega

/-! ## Holding off -/

theorem HoldingOff.of_suffix {m hold : ℕ} {pre log : List Sample} (h : HoldingOff m hold log)
    (hp : pre <:+ log) : HoldingOff m hold pre := by
  apply Sample.of_suffix _ h hp
  intro s log h
  cases h with
  | sample _ h _ => exact h

/-- Two accepted samples are more than `hold` apart, whatever the gaps. -/
theorem HoldingOff.pairwise {m hold : ℕ} {log : List Sample} (h : HoldingOff m hold log)
    (ho : Ordered log) :
    log.Pairwise fun later earlier =>
      later.accepted = true → earlier.accepted = true → hold < later.tick - earlier.tick := by
  induction h with
  | nil => exact List.Pairwise.nil
  | @sample log s _ hs ih =>
      refine List.Pairwise.cons ?_ (ih ho.2)
      intro e he ha hea
      have hacc := ho.2.lastAccepted_le
      have hgap := lt_sub_of_lt_emod (hacc.trans ho.1) (hs.mp ha).2
      have hle := ho.2.le_lastAccepted e he hea
      omega

theorem lastAccepted_append {mid pre : List Sample} (h : ∀ s ∈ mid, s.accepted = false) :
    lastAccepted (mid ++ pre) = lastAccepted pre := by
  induction mid with
  | nil => rfl
  | cons s mid ih =>
      have hs := h s (by simp)
      have hmid : ∀ e ∈ mid, e.accepted = false := fun e he => h e (by simp [he])
      rw [List.cons_append, lastAccepted, hs, if_neg (by decide), ih hmid]

/-- A signal that stays pending is not refused at both of two samples that are more than
`hold` apart and as far from a full turn, however many turns ago the last acceptance was. -/
theorem HoldingOff.not_refused_twice {m hold : ℕ} {log : List Sample}
    (h : HoldingOff m hold log) {s₁ s₂ : Sample} {mid pre : List Sample}
    (hl : s₂ :: (mid ++ s₁ :: pre) <:+ log) (hp₁ : s₁.pending = true) (hp₂ : s₂.pending = true)
    (hmid : ∀ s ∈ mid, s.accepted = false) (hle : s₁.tick ≤ s₂.tick)
    (hlow : hold < s₂.tick - s₁.tick) (hhigh : s₂.tick - s₁.tick + hold < m) :
    s₁.accepted = true ∨ s₂.accepted = true := by
  by_contra hno
  obtain ⟨h₁, h₂⟩ := not_or.mp hno
  have hl₁ : s₁ :: pre <:+ log :=
    ((List.suffix_append mid _).trans (List.suffix_cons s₂ _)).trans hl
  have hlast : lastAccepted (mid ++ s₁ :: pre) = lastAccepted pre := by
    rw [lastAccepted_append hmid, lastAccepted, if_neg h₁]
  cases h.of_suffix hl with
  | sample _ _ ha₂ =>
      cases h.of_suffix hl₁ with
      | sample _ _ ha₁ =>
          rw [hlast] at ha₂
          have hr₁ : ((s₁.tick : ℤ) - lastAccepted pre) % m ≤ hold :=
            Int.not_lt.mp fun hlt => h₁ (ha₁.mpr ⟨hp₁, hlt⟩)
          have hr₂ : ((s₂.tick : ℤ) - lastAccepted pre) % m ≤ hold :=
            Int.not_lt.mp fun hlt => h₂ (ha₂.mpr ⟨hp₂, hlt⟩)
          have h0 := Int.emod_nonneg ((s₁.tick : ℤ) - lastAccepted pre)
            (b := (m : ℤ)) (by omega)
          -- the second difference is the first one moved on by the real gap, with no wrap
          have hmove : ((s₂.tick : ℤ) - lastAccepted pre) % m =
              ((s₁.tick : ℤ) - lastAccepted pre) % m + (s₂.tick - s₁.tick) := by
            rw [← Int.emod_eq_of_lt (a := ((s₁.tick : ℤ) - lastAccepted pre) % m +
              (s₂.tick - s₁.tick)) (b := (m : ℤ)) (by omega) (by omega), Int.emod_add_emod]
            congr 1
            omega
          omega

end Sample

end MatterSwitch.Transition
