import Mathlib.Data.List.Basic
import Mathlib.Logic.Function.Basic
import Mathlib.Tactic.Common

/-! # Registers written one at a time

A bank of registers under a list of writes, of which the latest to a register wins. Where
all writes to a register agree, their order and the old contents do not matter. -/

namespace MatterSwitch.Transition

variable {κ β : Type*} [DecidableEq κ]

/-- The registers after the writes of a list, in order. -/
def writeAll (m : κ → β) (ws : List (κ × β)) : κ → β :=
  ws.foldl (fun m w => Function.update m w.1 w.2) m

@[simp] theorem writeAll_nil (m : κ → β) : writeAll m [] = m := rfl

@[simp] theorem writeAll_cons (m : κ → β) (w : κ × β) (ws : List (κ × β)) :
    writeAll m (w :: ws) = writeAll (Function.update m w.1 w.2) ws := rfl

/-- A register that is not written keeps its value. -/
theorem writeAll_of_not_written (m : κ → β) {ws : List (κ × β)} {k : κ}
    (h : ∀ w ∈ ws, w.1 ≠ k) : writeAll m ws k = m k := by
  induction ws generalizing m with
  | nil => rfl
  | cons w ws ih =>
      have hw : k ≠ w.1 := (h w (by simp)).symm
      have hws : ∀ v ∈ ws, v.1 ≠ k := fun v hv => h v (by simp [hv])
      rw [writeAll_cons, ih _ hws, Function.update_of_ne hw]

/-- A register whose writes all agree ends with their value. -/
theorem writeAll_of_agree (m : κ → β) {ws : List (κ × β)} {k : κ} {b : β}
    (hmem : (k, b) ∈ ws) (h : ∀ w ∈ ws, w.1 = k → w.2 = b) : writeAll m ws k = b := by
  induction ws generalizing m with
  | nil => exact absurd hmem List.not_mem_nil
  | cons w ws ih =>
      have hws : ∀ v ∈ ws, v.1 = k → v.2 = b := fun v hv => h v (by simp [hv])
      rw [writeAll_cons]
      by_cases hlater : (k, b) ∈ ws
      · exact ih _ hlater hws
      · -- no later write to the register, or it would be this one again
        have hnone : ∀ v ∈ ws, v.1 ≠ k := by
          intro v hv hk
          have hb := hws v hv hk
          apply hlater
          rw [← hk, ← hb]
          exact hv
        obtain rfl := (List.mem_cons.mp hmem).resolve_right hlater
        rw [writeAll_of_not_written _ hnone, Function.update_self]

/-- A register that is written keeps nothing of the old contents. -/
theorem writeAll_eq_of_written (m m' : κ → β) {ws : List (κ × β)} {k : κ}
    (h : ∃ w ∈ ws, w.1 = k) : writeAll m ws k = writeAll m' ws k := by
  induction ws generalizing m m' with
  | nil => simp at h
  | cons w ws ih =>
      rw [writeAll_cons, writeAll_cons]
      by_cases hlater : ∃ v ∈ ws, v.1 = k
      · exact ih _ _ hlater
      · have hnone : ∀ v ∈ ws, v.1 ≠ k := fun v hv hk => hlater ⟨v, hv, hk⟩
        obtain ⟨v, hv, hk⟩ := h
        rcases List.mem_cons.mp hv with rfl | hv
        · rw [writeAll_of_not_written _ hnone, writeAll_of_not_written _ hnone, hk,
            Function.update_self, Function.update_self]
        · exact absurd hk (hnone v hv)

/-- Repeating the writes changes nothing. -/
theorem writeAll_writeAll (m : κ → β) (ws : List (κ × β)) :
    writeAll (writeAll m ws) ws = writeAll m ws := by
  funext k
  by_cases h : ∃ w ∈ ws, w.1 = k
  · exact writeAll_eq_of_written _ _ h
  · exact writeAll_of_not_written _ fun w hw hk => h ⟨w, hw, hk⟩

end MatterSwitch.Transition
