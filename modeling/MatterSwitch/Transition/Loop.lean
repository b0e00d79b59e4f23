import Mathlib.Data.List.Basic
import Mathlib.Tactic.Common

/-! # Loop bodies, statement by statement

The body of a loop as statements on a state and a position, with inputs that a statement may
read. An iteration under way is recorded by a derivation, which a change of the state that
commutes with the executed statements moves back to the start of the iteration. -/

namespace MatterSwitch.Transition

/-- `first` begins an iteration, and an iteration at `last` is complete. Of an input `j` the
statement at `p` reads what `collect p j i` takes over into `i`. -/
structure Loop (ι σ π : Type*) where
  stmt : ι → σ → π → σ × π
  collect : π → ι → ι → ι
  first : π
  last : π

namespace Loop

variable {ι σ π : Type*} (L : Loop ι σ π)

/-- From state `s` at the start of an iteration the statements at `ps`, the latest first, have
been executed and have led to a position and a state. -/
inductive Partial (i : ι) (s : σ) : List π → π → σ → Prop where
  | start : Partial i s [] L.first s
  | stmt {ps : List π} {p : π} {t : σ} : Partial i s ps p t → p ≠ L.last →
      Partial i s (p :: ps) (L.stmt i t p).2 (L.stmt i t p).1

/-- From a position and a state the rest of the iteration leads to a state. -/
inductive Completes (i : ι) : π → σ → σ → Prop where
  | last (t : σ) : Completes i L.last t t
  | stmt {p : π} {t u : σ} : p ≠ L.last →
      Completes i (L.stmt i t p).2 (L.stmt i t p).1 u → Completes i p t u

variable {L} {i : ι} {s : σ} {ps : List π} {p : π} {t : σ}

theorem completes_last_iff {u : σ} : L.Completes i L.last t u ↔ u = t := by
  constructor
  · intro h
    cases h with
    | last => rfl
    | stmt hne _ => exact absurd rfl hne
  · rintro rfl
    exact .last u

theorem completes_iff {u : σ} (hp : p ≠ L.last) :
    L.Completes i p t u ↔ L.Completes i (L.stmt i t p).2 (L.stmt i t p).1 u := by
  constructor
  · intro h
    cases h with
    | last => exact absurd rfl hp
    | stmt _ h => exact h
  · exact .stmt hp

/-- An iteration under way completes as the whole iteration does. -/
theorem Partial.completes {u : σ} (h : L.Partial i s ps p t) (hs : L.Completes i L.first s u) :
    L.Completes i p t u := by
  induction h with
  | start => exact hs
  | stmt _ hp ih => exact (completes_iff hp).mp ih

/-- At its end the iteration has done what the whole iteration does. -/
theorem Partial.eq_of_last {u : σ} (h : L.Partial i s ps L.last t)
    (hs : L.Completes i L.first s u) : t = u :=
  (completes_last_iff.mp (h.completes hs)).symm

theorem Partial.eq_start (h : L.Partial i s [] p t) : t = s := by
  cases h with
  | start => rfl

/-- Statements only go on in the order of their positions. -/
theorem Partial.position_lt (position : π → ℕ)
    (hstep : ∀ t p, p ≠ L.last → position p < position (L.stmt i t p).2)
    (h : L.Partial i s ps p t) : ∀ q ∈ ps, position q < position p := by
  induction h with
  | start => exact fun q hq => absurd hq List.not_mem_nil
  | @stmt ps p t _ hp ih =>
      intro q hq
      have hlt := hstep t p hp
      rcases List.mem_cons.mp hq with rfl | hq
      · exact hlt
      · exact Nat.lt_trans (ih q hq) hlt

/-- Inputs that the executed statements do not tell apart. -/
theorem Partial.congr_input {j : ι} (h : L.Partial i s ps p t)
    (hij : ∀ q ∈ ps, ∀ t, L.stmt i t q = L.stmt j t q) : L.Partial j s ps p t := by
  induction h with
  | start => exact .start
  | stmt _ hp ih =>
      rw [hij _ List.mem_cons_self]
      exact .stmt (ih fun q hq => hij q (List.mem_cons_of_mem _ hq)) hp

/-- What the statements keep holds of an iteration under way. -/
theorem Partial.invariant {Inv : σ → Prop} (h : L.Partial i s ps p t)
    (hstep : ∀ t p, Inv t → Inv (L.stmt i t p).1) (hs : Inv s) : Inv t := by
  induction h with
  | start => exact hs
  | stmt _ _ ih => exact hstep _ _ ih

/-- A change of the state that commutes with the executed statements, wherever they lead to a
position of this iteration, might as well have come before the iteration. -/
theorem Partial.map {Inv : σ → Prop} {f : σ → σ} (h : L.Partial i s ps p t)
    (hstep : ∀ t p, Inv t → Inv (L.stmt i t p).1) (hs : Inv s)
    (hf : ∀ q ∈ ps, ∀ t, Inv t → (L.stmt i t q).2 ∈ p :: ps →
      L.stmt i (f t) q = (f (L.stmt i t q).1, (L.stmt i t q).2)) :
    L.Partial i (f s) ps p (f t) := by
  induction h with
  | start => exact .start
  | @stmt ps p t hpart hp ih =>
      have ht := hpart.invariant hstep hs
      have hlast := hf p List.mem_cons_self t ht List.mem_cons_self
      have hih := ih fun q hq t ht hmem =>
        hf q (List.mem_cons_of_mem p hq) t ht (List.mem_cons_of_mem _ hmem)
      have hstmt := Partial.stmt hih hp
      rw [hlast] at hstmt
      exact hstmt

end Loop

end MatterSwitch.Transition
