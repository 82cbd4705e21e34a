/-
  Vouch.Machine.Run

  A deterministic machine run through a list of operations.

  `stateAt step s ops n` is the state after the first `n` operations.  What one
  step does is carried to whole runs by three rules: a rank that no step lowers
  rises along the run (`rank_monotone`), a property that every step keeps is
  kept (`keeps`), and an operation that crosses a level of such a rank happens
  at most once (`crosses_once`).
-/

import Mathlib.Order.Monotone.Basic

namespace Machine

variable {σ ο ρ : Type*} {step : σ → ο → σ} {s : σ} {ops : List ο} {n : ℕ}

/-- The state after the first `n` operations, or after all if there are fewer. -/
def stateAt (step : σ → ο → σ) (s : σ) (ops : List ο) (n : ℕ) : σ := (ops.take n).foldl step s

@[simp] theorem stateAt_zero : stateAt step s ops 0 = s := by
  rw [stateAt, List.take_zero, List.foldl_nil]

theorem stateAt_succ {o : ο} (h : ops[n]? = some o) :
    stateAt step s ops (n + 1) = step (stateAt step s ops n) o := by
  rw [stateAt, List.take_add_one, h, Option.toList_some, List.foldl_append, List.foldl_cons,
    List.foldl_nil]
  rfl

theorem stateAt_succ_of_none (h : ops[n]? = none) :
    stateAt step s ops (n + 1) = stateAt step s ops n := by
  rw [stateAt, List.take_add_one, h, Option.toList_none, List.append_nil]
  rfl

/-- A property that every step keeps holds from when it first does. -/
theorem keeps (P : σ → Prop) (hstep : ∀ s o, P s → P (step s o)) {m : ℕ} (hmn : m ≤ n)
    (h : P (stateAt step s ops m)) : P (stateAt step s ops n) := by
  induction n, hmn using Nat.le_induction with
  | base => exact h
  | succ n _ ih =>
      cases hop : ops[n]? with
      | none => rwa [stateAt_succ_of_none hop]
      | some o =>
          rw [stateAt_succ hop]
          exact hstep _ o ih

section Rank

variable [Preorder ρ] (rank : σ → ρ) (hstep : ∀ s o, rank s ≤ rank (step s o))

include hstep

theorem rank_monotone : Monotone fun n => rank (stateAt step s ops n) := by
  intro m n hmn
  exact keeps (fun t => rank (stateAt step s ops m) ≤ rank t) (fun t o h => h.trans (hstep t o))
    hmn (le_refl _)

/-- What takes the rank over a level happens at most once. -/
theorem crosses_once (event : σ → ο → Prop) (level : ρ)
    (hevent : ∀ s o, event s o → rank s ≤ level ∧ level < rank (step s o)) {i j : ℕ} {o o' : ο}
    (hi : ops[i]? = some o) (hj : ops[j]? = some o') (hei : event (stateAt step s ops i) o)
    (hej : event (stateAt step s ops j) o') : i = j := by
  -- after the earlier of two crossings the rank stays over the level
  have hlater : ∀ {i j : ℕ} {o o' : ο}, ops[i]? = some o → event (stateAt step s ops i) o →
      event (stateAt step s ops j) o' → ¬ i < j := by
    intro i j o o' hi hei hej hlt
    have habove := (hevent _ _ hei).2
    rw [← @stateAt_succ _ _ step s _ _ _ hi] at habove
    have hle : rank (stateAt step s ops (i + 1)) ≤ rank (stateAt step s ops j) :=
      rank_monotone rank hstep hlt
    exact lt_irrefl level ((habove.trans_le hle).trans_le (hevent _ _ hej).1)
  exact Nat.le_antisymm (Nat.le_of_not_lt (hlater hj hej hei)) (Nat.le_of_not_lt (hlater hi hei hej))

end Rank

end Machine
