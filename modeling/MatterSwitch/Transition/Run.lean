import Mathlib.Data.Int.Notation
import Mathlib.Data.List.Basic
import Mathlib.Tactic.Common

/-! # Runs of deterministic event machines

A machine is a step function `σ → α → σ`; an event list drives it from a start state.
`Along` states what every event of a run meets, and the rules below turn facts about
one step into facts about the run. -/

namespace MatterSwitch.Transition

variable {σ τ α β : Type*}

/-- The state reached by taking the events of a list in order. -/
def run (step : σ → α → σ) (s : σ) (es : List α) : σ :=
  es.foldl step s

@[simp] theorem run_nil (step : σ → α → σ) (s : σ) : run step s [] = s := rfl

@[simp] theorem run_cons (step : σ → α → σ) (s : σ) (e : α) (es : List α) :
    run step s (e :: es) = run step (step s e) es := rfl

theorem run_append (step : σ → α → σ) (s : σ) (es fs : List α) :
    run step s (es ++ fs) = run step (run step s es) fs :=
  List.foldl_append

/-- Every event of the run satisfies `P` in the state in which it is taken. -/
def Along (step : σ → α → σ) (P : σ → α → Prop) (s : σ) : List α → Prop
  | [] => True
  | e :: es => P s e ∧ Along step P (step s e) es

@[simp] theorem along_nil (step : σ → α → σ) (P : σ → α → Prop) (s : σ) :
    Along step P s [] := trivial

@[simp] theorem along_cons (step : σ → α → σ) (P : σ → α → Prop) (s : σ) (e : α)
    (es : List α) : Along step P s (e :: es) ↔ P s e ∧ Along step P (step s e) es := Iff.rfl

instance (step : σ → α → σ) (P : σ → α → Prop) [∀ s e, Decidable (P s e)] (s : σ) :
    (es : List α) → Decidable (Along step P s es)
  | [] => isTrue trivial
  | e :: es =>
      haveI := instDecidableAlong step P (step s e) es
      inferInstanceAs (Decidable (P s e ∧ Along step P (step s e) es))

theorem along_append (step : σ → α → σ) (P : σ → α → Prop) (s : σ) (es fs : List α) :
    Along step P s (es ++ fs) ↔ Along step P s es ∧ Along step P (run step s es) fs := by
  induction es generalizing s with
  | nil => simp
  | cons e es ih => rw [List.cons_append, along_cons, along_cons, ih, run_cons, and_assoc]

theorem along_congr (step : σ → α → σ) {P Q : σ → α → Prop} (h : ∀ s e, P s e ↔ Q s e)
    (s : σ) (es : List α) : Along step P s es ↔ Along step Q s es := by
  induction es generalizing s with
  | nil => exact Iff.rfl
  | cons e es ih => rw [along_cons, along_cons, h, ih]

theorem along_of_forall (step : σ → α → σ) {P : σ → α → Prop} {es : List α}
    (h : ∀ e ∈ es, ∀ s, P s e) (s : σ) : Along step P s es := by
  induction es generalizing s with
  | nil => trivial
  | cons e es ih => exact ⟨h e (by simp) s, ih (fun e' he => h e' (by simp [he])) _⟩

/-! ## Invariants -/

/-- An invariant of guarded steps holds at the end of every run that meets the guard. -/
theorem run_invariant_of_along (step : σ → α → σ) (Inv : σ → Prop) {G : σ → α → Prop}
    (hstep : ∀ s e, Inv s → G s e → Inv (step s e)) {s : σ} (hs : Inv s) {es : List α}
    (hg : Along step G s es) : Inv (run step s es) := by
  induction es generalizing s with
  | nil => exact hs
  | cons e es ih => exact ih (hstep s e hs hg.1) hg.2

/-- An invariant of every step holds at the end of every run. -/
theorem run_invariant (step : σ → α → σ) (Inv : σ → Prop)
    (hstep : ∀ s e, Inv s → Inv (step s e)) {s : σ} (hs : Inv s) (es : List α) :
    Inv (run step s es) := by
  induction es generalizing s with
  | nil => exact hs
  | cons e es ih => exact ih (hstep s e hs)

/-- An invariant of the events of a class holds after every list of such events. -/
theorem run_invariant_of_forall (step : σ → α → σ) (Inv : σ → Prop) {G : α → Prop}
    (hstep : ∀ s e, Inv s → G e → Inv (step s e)) {s : σ} (hs : Inv s) {es : List α}
    (hg : ∀ e ∈ es, G e) : Inv (run step s es) := by
  induction es generalizing s with
  | nil => exact hs
  | cons e es ih =>
      exact ih (hstep s e hs (hg e (by simp))) fun e' he => hg e' (by simp [he])

/-- What one event establishes and every step keeps holds at the end of every run that has the
event. -/
theorem run_of_mem (step : σ → α → σ) (P : σ → Prop) {e : α} (hest : ∀ s, P (step s e))
    (hkeep : ∀ s e, P s → P (step s e)) {es : List α} (he : e ∈ es) (s : σ) :
    P (run step s es) := by
  obtain ⟨pre, post, rfl⟩ := List.append_of_mem he
  rw [run_append, run_cons]
  exact run_invariant step P hkeep (hest _) post

/-- A guard is exact for `P` when, at every state of the invariant, it decides `P` for
the step taken there. Then a run meets the guard at every step exactly when it meets
`P` at every step. -/
theorem along_iff_along (step : σ → α → σ) (Inv : σ → Prop) {P G : σ → α → Prop}
    (hstep : ∀ s e, Inv s → P s e → Inv (step s e))
    (hexact : ∀ s e, Inv s → (P s e ↔ G s e)) {s : σ} (hs : Inv s) (es : List α) :
    Along step P s es ↔ Along step G s es := by
  induction es generalizing s with
  | nil => simp
  | cons e es ih =>
      rw [along_cons, along_cons]
      constructor
      · intro h
        obtain ⟨hp, h⟩ := h
        exact ⟨(hexact s e hs).mp hp, (ih (hstep s e hs hp)).mp h⟩
      · intro h
        obtain ⟨hg, h⟩ := h
        have hp := (hexact s e hs).mpr hg
        exact ⟨hp, (ih (hstep s e hs hp)).mpr h⟩

/-- A property that a step loses exactly when it breaks a guard, and that is never regained,
holds at the end of a run exactly when it held at the start and no step broke the guard. -/
theorem run_iff_along (step : σ → α → σ) (Inv P : σ → Prop) {G : σ → α → Prop}
    (hinv : ∀ s e, Inv s → Inv (step s e))
    (hstep : ∀ s e, Inv s → (P (step s e) ↔ P s ∧ G s e)) {s : σ} (hs : Inv s) (es : List α) :
    P (run step s es) ↔ P s ∧ Along step G s es := by
  induction es generalizing s with
  | nil => simp
  | cons e es ih => rw [run_cons, ih (hinv s e hs), hstep s e hs, along_cons, and_assoc]

/-- Two machines in lock-step meet what their related states meet. -/
theorem along_iff_of_rel {stepA : σ → α → σ} {stepB : τ → α → τ} (Rel : σ → τ → Prop)
    {P : σ → α → Prop} {Q : τ → α → Prop}
    (hstep : ∀ s t e, Rel s t → Rel (stepA s e) (stepB t e))
    (hPQ : ∀ s t e, Rel s t → (P s e ↔ Q t e)) {s : σ} {t : τ} (h : Rel s t)
    (es : List α) : Along stepA P s es ↔ Along stepB Q t es := by
  induction es generalizing s t with
  | nil => simp
  | cons e es ih => rw [along_cons, along_cons, hPQ s t e h, ih (hstep s t e h)]

/-! ## Counting the steps that break a law -/

/-- When a deficit grows by one at each bad step and at no other, it is unchanged at the
end of a run exactly when no step of the run was bad. -/
theorem deficit_eq_iff (step : σ → α → σ) (Inv : σ → Prop) {G Bad : σ → α → Prop}
    (deficit : σ → ℤ) (hinv : ∀ s e, Inv s → G s e → Inv (step s e))
    (hbad : ∀ s e, Inv s → G s e → Bad s e → deficit (step s e) = deficit s + 1)
    (hgood : ∀ s e, Inv s → G s e → ¬ Bad s e → deficit (step s e) = deficit s)
    {s : σ} (hs : Inv s) {es : List α} (hg : Along step G s es) :
    deficit s ≤ deficit (run step s es) ∧
      (deficit (run step s es) = deficit s ↔ Along step (fun s e => ¬ Bad s e) s es) := by
  induction es generalizing s with
  | nil => simp
  | cons e es ih =>
      obtain ⟨hge, hges⟩ := hg
      obtain ⟨hle, hiff⟩ := ih (hinv s e hs hge) hges
      rw [run_cons, along_cons]
      by_cases hb : Bad s e
      · have hd := hbad s e hs hge hb
        refine ⟨by omega, ⟨fun h => by omega, fun h => absurd hb h.1⟩⟩
      · have hd := hgood s e hs hge hb
        refine ⟨by omega, ?_⟩
        rw [← hd, hiff]
        simp [hb]

/-! ## Refinement -/

/-- `abs` carries the concrete machine to the abstract one: each concrete step is the run
of the abstract events that `label` names, none for a step the abstraction does not see. -/
structure Refinement (stepA : σ → α → σ) (stepB : τ → β → τ) where
  abs : σ → τ
  label : σ → α → List β
  sim : ∀ s e, abs (stepA s e) = run stepB (abs s) (label s e)

namespace Refinement

variable {stepA : σ → α → σ} {stepB : τ → β → τ} (R : Refinement stepA stepB)

/-- The abstract events of a concrete run. -/
def labels (s : σ) : List α → List β
  | [] => []
  | e :: es => R.label s e ++ labels (stepA s e) es

/-- A concrete run is, through the abstraction, the abstract run of its labels. -/
theorem abs_run (s : σ) (es : List α) :
    R.abs (run stepA s es) = run stepB (R.abs s) (R.labels s es) := by
  induction es generalizing s with
  | nil => rfl
  | cons e es ih => rw [run_cons, ih, R.sim, labels, run_append]

/-- What the abstract events of a run meet is met, step by step, by their labels. -/
theorem along_labels (P : τ → β → Prop) (s : σ) (es : List α) :
    Along stepB P (R.abs s) (R.labels s es) ↔
      Along stepA (fun s e => Along stepB P (R.abs s) (R.label s e)) s es := by
  induction es generalizing s with
  | nil => exact Iff.rfl
  | cons e es ih => rw [labels, along_append, along_cons, ← R.sim, ih]

/-- A concrete step keeps what its abstract events keep. -/
theorem step_invariant (Inv : τ → Prop) {G : β → Prop}
    (hstep : ∀ t o, Inv t → G o → Inv (stepB t o)) {s : σ} (hs : Inv (R.abs s)) {e : α}
    (hg : ∀ o ∈ R.label s e, G o) : Inv (R.abs (stepA s e)) := by
  rw [R.sim]
  exact run_invariant_of_forall stepB Inv hstep hs hg

end Refinement

end MatterSwitch.Transition
