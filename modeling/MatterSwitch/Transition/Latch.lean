import MatterSwitch.Transition.Run

/-! # A one-place latch

One party raises a flag, another polls it, delivers once for a flag it has found raised
and then clears it. The flag holds one request, so a raise is lost exactly when it comes
between the poll and the clearing. -/

namespace MatterSwitch.Transition

/-- Where the polling party is: not handling a request, about to deliver, or about to
clear. -/
inductive LatchPhase where
  | idle
  | taken
  | delivered
  deriving DecidableEq, Repr

/-- `fresh` tells that the flag has been polled since it was last raised. -/
structure Latch where
  flag : Bool
  phase : LatchPhase
  fresh : Bool
  raised : ℕ
  deliveries : ℕ
  deriving DecidableEq, Repr

inductive LatchOp where
  | raise
  | poll
  | deliver
  | clear
  deriving DecidableEq, Repr

namespace Latch

/-- A poll, a delivery and a clearing have their phase; elsewhere they do nothing. -/
def step (l : Latch) : LatchOp → Latch
  | .raise => { l with flag := true, fresh := false, raised := l.raised + 1 }
  | .poll =>
      if l.phase = .idle then
        { l with phase := if l.flag then .taken else .idle, fresh := true }
      else l
  | .deliver =>
      if l.phase = .taken then
        { l with phase := .delivered, deliveries := l.deliveries + 1 }
      else l
  | .clear =>
      if l.phase = .delivered then { l with flag := false, phase := .idle } else l

/-- Deliveries still to come for the requests taken in so far. -/
def pending (l : Latch) : ℤ :=
  match l.phase with
  | .idle => if l.flag then 1 else 0
  | .taken => 1
  | .delivered => 0

/-- Requests that will never be delivered. -/
def lost (l : Latch) : ℤ := l.raised - l.deliveries - l.pending

/-- While a request is handled its flag is up; a polled flag with no request in hand is
down. -/
structure Consistent (l : Latch) : Prop where
  up : l.phase ≠ .idle → l.flag = true
  down : l.phase = .idle → l.fresh = true → l.flag = false

theorem consistent_step {l : Latch} (h : Consistent l) (o : LatchOp) :
    Consistent (l.step o) := by
  cases o with
  | raise => exact ⟨fun _ => rfl, fun _ hf => Bool.noConfusion hf⟩
  | poll =>
      rw [step]
      split
      · cases hf : l.flag with
        | true => exact ⟨fun _ => rfl, fun hi => by simp at hi⟩
        | false => exact ⟨fun hi => by simp at hi, fun _ _ => rfl⟩
      · exact h
  | deliver =>
      rw [step]
      split
      · rename_i ht
        have hup : l.flag = true := h.up (by simp [ht])
        exact ⟨fun _ => hup, fun hi => by simp at hi⟩
      · exact h
  | clear =>
      rw [step]
      split
      · exact ⟨fun hi => by simp at hi, fun _ _ => rfl⟩
      · exact h

/-- Raises are spaced: the flag is polled between any two. -/
def Spaced (l : Latch) (o : LatchOp) : Prop := o = .raise → l.fresh = true

/-- A raise while a request is handled. -/
def Hidden (l : Latch) (o : LatchOp) : Prop := o = .raise ∧ l.phase ≠ .idle

theorem lost_step_of_hidden {l : Latch} {o : LatchOp} (h : Hidden l o) :
    (l.step o).lost = l.lost + 1 := by
  obtain ⟨rfl, hp⟩ := h
  cases hphase : l.phase with
  | idle => exact absurd hphase hp
  | taken =>
      simp only [step, lost, pending, hphase]
      omega
  | delivered =>
      simp only [step, lost, pending, hphase]
      omega

/-- A spaced operation that is not a hidden raise loses nothing. -/
theorem lost_step_of_not_hidden {l : Latch} (hl : Consistent l) {o : LatchOp}
    (hs : Spaced l o) (h : ¬ Hidden l o) : (l.step o).lost = l.lost := by
  cases o with
  | raise =>
      have hi : l.phase = .idle := by
        by_contra hne
        exact h ⟨rfl, hne⟩
      have hd : l.flag = false := hl.down hi (hs rfl)
      simp only [step, lost, pending, hi, hd, if_true, Bool.false_eq_true, if_false]
      omega
  | poll =>
      rw [step]
      split
      · rename_i hi
        cases hf : l.flag <;> simp [lost, pending, hi, hf]
      · rfl
  | deliver =>
      rw [step]
      split
      · rename_i ht
        simp only [lost, pending, ht]
        omega
      · rfl
  | clear =>
      rw [step]
      split
      · rename_i hd
        simp [lost, pending, hd]
      · rfl

/-- Under spaced raises nothing is lost exactly when no raise is hidden. -/
theorem lost_eq_iff {l : Latch} (hl : Consistent l) {os : List LatchOp}
    (hs : Along step Spaced l os) :
    (run step l os).lost = l.lost ↔ Along step (fun l o => ¬ Hidden l o) l os :=
  (deficit_eq_iff step Consistent lost (fun _ o h _ => consistent_step h o)
    (fun _ _ _ _ hb => lost_step_of_hidden hb)
    (fun _ _ h hs hb => lost_step_of_not_hidden h hs hb) hl hs).2

/-- With no request in hand, nothing is lost when deliveries and the flag account for
every raise. -/
theorem lost_eq_zero_iff {l : Latch} (h : l.phase = .idle) :
    l.lost = 0 ↔ l.deliveries + (if l.flag then 1 else 0) = l.raised := by
  rw [lost, pending, h]
  cases l.flag with
  | true =>
      simp only [if_true]
      omega
  | false =>
      simp only [Bool.false_eq_true, if_false]
      omega

end Latch

end MatterSwitch.Transition
