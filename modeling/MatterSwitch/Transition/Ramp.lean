import Mathlib.Data.Int.Notation
import Mathlib.Logic.Function.Iterate
import Mathlib.Tactic.Common

/-! # Ramps

A value lowered by the same amount at every tick, and by a remainder more at the last one.
Quotient and remainder of a truncating division make a ramp that ends exactly lower by the
dividend; with the remainder negated it misses by twice that remainder. -/

namespace MatterSwitch.Transition

@[ext] structure Ramp where
  value : ℤ
  count : ℕ
  active : Bool
  deriving DecidableEq, Repr

namespace Ramp

def start (value : ℤ) : Ramp := { value := value, count := 0, active := true }

/-- One tick of a ramp of so many steps. -/
def tick (steps : ℕ) (interval reminder : ℤ) (r : Ramp) : Ramp :=
  if r.active then
    if r.count + 1 = steps then
      { value := r.value - interval - reminder, count := 0, active := false }
    else
      { value := r.value - interval, count := r.count + 1, active := true }
  else r

/-- Before the last tick the ramp has moved by whole intervals. -/
theorem tick_iterate_of_lt (steps : ℕ) (interval reminder value : ℤ) {k : ℕ} (hk : k < steps) :
    (tick steps interval reminder)^[k] (start value) =
      { value := value - k * interval, count := k, active := true } := by
  induction k with
  | zero =>
      ext
      · simp [start]
      · rfl
      · rfl
  | succ k ih =>
      have hne : ¬ k + 1 = steps := by omega
      have hmul : ((k + 1 : ℕ) : ℤ) * interval = k * interval + interval := by
        rw [Int.natCast_succ, Int.add_mul, Int.one_mul]
      rw [Function.iterate_succ_apply', ih (by omega), tick, if_pos rfl, if_neg hne, hmul,
        Int.sub_sub]

/-- The last tick adds the remainder and ends the ramp. -/
theorem tick_iterate_steps {steps : ℕ} (h : 0 < steps) (interval reminder value : ℤ) :
    (tick steps interval reminder)^[steps] (start value) =
      { value := value - (steps * interval + reminder), count := 0, active := false } := by
  cases steps with
  | zero => exact absurd h (by omega)
  | succ k =>
      have hmul : ((k + 1 : ℕ) : ℤ) * interval = k * interval + interval := by
        rw [Int.natCast_succ, Int.add_mul, Int.one_mul]
      rw [Function.iterate_succ_apply', tick_iterate_of_lt _ _ _ _ (Nat.lt_succ_self k), tick,
        if_pos rfl, if_pos rfl, hmul]
      ext
      · change value - k * interval - interval - reminder =
          value - (k * interval + interval + reminder)
        omega
      · rfl
      · rfl

/-- A falling ramp stays between its ends. -/
theorem value_between {interval reminder : ℤ} (hi : 0 ≤ interval) (hr : 0 ≤ reminder)
    {steps k : ℕ} (hk : k ≤ steps) (value : ℤ) :
    value - (steps * interval + reminder) ≤ value - k * interval ∧
      value - k * interval ≤ value := by
  have hks : (k : ℤ) * interval ≤ steps * interval :=
    Int.mul_le_mul_of_nonneg_right (Int.ofNat_le.mpr hk) hi
  have h0 : 0 ≤ (k : ℤ) * interval := Int.mul_nonneg (Int.natCast_nonneg k) hi
  omega

/-- So does a rising one. -/
theorem value_between_of_nonpos {interval reminder : ℤ} (hi : interval ≤ 0) (hr : reminder ≤ 0)
    {steps k : ℕ} (hk : k ≤ steps) (value : ℤ) :
    value ≤ value - k * interval ∧
      value - k * interval ≤ value - (steps * interval + reminder) := by
  have hks : (k : ℤ) * -interval ≤ steps * -interval :=
    Int.mul_le_mul_of_nonneg_right (Int.ofNat_le.mpr hk) (by omega)
  have h0 : 0 ≤ (k : ℤ) * -interval := Int.mul_nonneg (Int.natCast_nonneg k) (by omega)
  simp only [Int.mul_neg] at hks h0
  omega

/-- Negating the remainder of a divided total misses it by twice the remainder. -/
theorem total_of_negated (total n : ℤ) :
    n * total.tdiv n + -total.tmod n = total - 2 * total.tmod n := by
  have h := Int.mul_tdiv_add_tmod total n
  omega

/-! ## Following a ramp -/

/-- A machine that follows the ramp tick by tick follows it for as long as it counts. -/
theorem follows_iterate {σ : Type*} (next : σ → σ) {steps : ℕ} {interval reminder : ℤ}
    (Rel : σ → Ramp → Prop)
    (hnext : ∀ s r, Rel s r → r.count < steps →
      Rel (next s) (tick steps interval reminder r)) {s : σ} {value : ℤ}
    (h : Rel s (start value)) {k : ℕ} (hk : k ≤ steps) :
    Rel (next^[k] s) ((tick steps interval reminder)^[k] (start value)) := by
  induction k with
  | zero => exact h
  | succ k ih =>
      rw [Function.iterate_succ_apply', Function.iterate_succ_apply']
      apply hnext _ _ (ih (by omega))
      rw [tick_iterate_of_lt steps interval reminder value (by omega)]
      change k < steps
      omega

end Ramp

end MatterSwitch.Transition
