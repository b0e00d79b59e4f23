import MatterSwitch.Transition.Run

/-! # Events that an observer cannot tell

Unwinding: when a relation on states survives a visible event on both sides and a hidden
event on either side, two runs with the same visible events end in related states. -/

namespace MatterSwitch.Transition

variable {σ τ α : Type*}

/-- The step conditions for a relation that only visible events may move. -/
structure Unwinding (step : σ → α → σ) (visible : α → Bool) (Rel : σ → σ → Prop) : Prop where
  both : ∀ s t e, visible e = true → Rel s t → Rel (step s e) (step t e)
  hidden_left : ∀ s t e, visible e = false → Rel s t → Rel (step s e) t
  hidden_right : ∀ s t e, visible e = false → Rel s t → Rel s (step t e)

namespace Unwinding

variable {step : σ → α → σ} {visible : α → Bool} {Rel : σ → σ → Prop}

/-- Hidden events on the right keep the relation. -/
theorem run_hidden_right (U : Unwinding step visible Rel) {s t : σ} (h : Rel s t)
    {fs : List α} (hf : ∀ e ∈ fs, ¬ visible e = true) : Rel s (run step t fs) := by
  induction fs generalizing t with
  | nil => exact h
  | cons f fs ih =>
      have hv : visible f = false := Bool.eq_false_iff.mpr (hf f (by simp))
      exact ih (U.hidden_right s t f hv h) fun e he => hf e (by simp [he])

/-- Two runs with the same visible events keep the relation. -/
theorem run_of_filter_eq (U : Unwinding step visible Rel) {s t : σ} (h : Rel s t)
    {es fs : List α} (hf : es.filter visible = fs.filter visible) :
    Rel (run step s es) (run step t fs) := by
  induction es generalizing s t fs with
  | nil => exact U.run_hidden_right h (List.filter_eq_nil_iff.mp hf.symm)
  | cons e es ih =>
      cases hv : visible e with
      | true =>
          -- the other run reaches the same event behind hidden ones
          rw [List.filter_cons_of_pos hv] at hf
          obtain ⟨pre, post, rfl, hpre, -, hpost⟩ := List.filter_eq_cons_iff.mp hf.symm
          rw [run_cons, run_append, run_cons]
          exact ih (U.both s _ e hv (U.run_hidden_right h hpre)) hpost.symm
      | false =>
          rw [List.filter_cons_of_neg (Bool.eq_false_iff.mp hv)] at hf
          exact ih (U.hidden_left s t e hv h) hf

/-- An observation that is blind to hidden events, and that determines what a visible event
does to it, gives an unwinding relation. -/
theorem of_observation {obs : σ → τ}
    (hvisible : ∀ s t e, visible e = true → obs s = obs t → obs (step s e) = obs (step t e))
    (hhidden : ∀ s e, visible e = false → obs (step s e) = obs s) :
    Unwinding step visible fun s t => obs s = obs t where
  both := hvisible
  hidden_left s _ e hv h := (hhidden s e hv).trans h
  hidden_right _ t e hv h := h.trans (hhidden t e hv).symm

end Unwinding

end MatterSwitch.Transition
