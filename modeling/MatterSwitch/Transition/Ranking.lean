import Mathlib.Data.List.Basic
import Mathlib.Order.Nat
import MatterSwitch.Transition.Run

/-! # Ranks

A potential that no event raises bounds a run from above. A rank that events of one kind
lower, and that no other event raises, tells how many of them it takes until one of the events
is the goal. -/

namespace MatterSwitch.Transition

variable {σ α : Type*}

/-- A potential that no guarded step raises is at the end of a run at most what it was. -/
theorem potential_run_le (step : σ → α → σ) (Inv : σ → Prop) {G : σ → α → Prop}
    (potential : σ → ℕ) (hinv : ∀ s e, Inv s → G s e → Inv (step s e))
    (hle : ∀ s e, Inv s → G s e → potential (step s e) ≤ potential s)
    {s : σ} (hs : Inv s) {es : List α} (hg : Along step G s es) :
    potential (run step s es) ≤ potential s := by
  induction es generalizing s with
  | nil => exact le_rfl
  | cons e es ih =>
      obtain ⟨hge, hges⟩ := hg
      exact (ih (hinv s e hs hge) hges).trans (hle s e hs hge)

/-- From the states of `Inv`, an event of the kind `works` is a goal or lowers the rank, and
every other event is a goal or at least does not raise it. -/
structure LeadsTo (step : σ → α → σ) (works : α → Bool) (Inv : σ → Prop) (Goal : σ → α → Prop)
    (rank : σ → ℕ) : Prop where
  lowers : ∀ s e, works e = true → Inv s →
    Goal s e ∨ Inv (step s e) ∧ rank (step s e) < rank s
  keeps : ∀ s e, works e = false → Inv s →
    Goal s e ∨ Inv (step s e) ∧ rank (step s e) ≤ rank s

/-- Among more such events than the rank there is a goal, whatever falls between them. -/
theorem LeadsTo.reaches {step : σ → α → σ} {works : α → Bool} {Inv : σ → Prop}
    {Goal : σ → α → Prop} {rank : σ → ℕ} (L : LeadsTo step works Inv Goal rank) {s : σ}
    (hs : Inv s) {es : List α} (hn : rank s < es.countP works) :
    ∃ pre e post, es = pre ++ e :: post ∧ Goal (run step s pre) e := by
  induction es generalizing s with
  | nil => exact absurd hn (Nat.not_lt_zero _)
  | cons e es ih =>
      -- either the first event is a goal, or there is one in the rest of the list
      have hstep : Goal s e ∨ Inv (step s e) ∧ rank (step s e) < es.countP works := by
        cases hw : works e with
        | true =>
            rw [List.countP_cons_of_pos hw] at hn
            exact (L.lowers s e hw hs).imp_right fun h => ⟨h.1, by omega⟩
        | false =>
            rw [List.countP_cons_of_neg (Bool.eq_false_iff.mp hw)] at hn
            exact (L.keeps s e hw hs).imp_right fun h => ⟨h.1, by omega⟩
      rcases hstep with hg | ⟨hi, hlt⟩
      · exact ⟨[], e, es, rfl, hg⟩
      · obtain ⟨pre, e', post, heq, hgoal⟩ := ih hi hlt
        exact ⟨e :: pre, e', post, by rw [heq, List.cons_append], hgoal⟩

end MatterSwitch.Transition
