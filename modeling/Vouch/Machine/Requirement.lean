/-
  Vouch.Machine.Requirement

  Statuses and what they require of a value.

  A value may carry a status if it passes a check and has what the status
  requires (`Requires`).  If some value has no more than that, for each status,
  the values order the statuses as their requirements do (`subset_iff`), so that
  the steps from one status to the next can be read off the requirements
  (`next_iff`).  A run that takes only such steps keeps what its earlier statuses
  required (`mem_of_run`).
-/

import Mathlib.Data.Finset.Basic
import Mathlib.Data.Set.BooleanAlgebra
import Mathlib.Order.CompletePartialOrder
import Mathlib.Order.Monotone.Basic

namespace Machine

variable {σ α κ : Type*}

/-- `t` is carried by fewer values than `s`, and no status lies in between. -/
def Next (accepts : σ → Set α) (s t : σ) : Prop :=
  accepts t ⊂ accepts s ∧ ∀ u, ¬ (accepts t ⊂ accepts u ∧ accepts u ⊂ accepts s)

/-- The values that may carry a status are those that pass a check and have what
    the status requires, and some have nothing else. -/
structure Requires (accepts : σ → Set α) (check : α → Prop) (has : α → κ → Prop)
    (required : σ → Finset κ) : Prop where
  mem_iff : ∀ s a, a ∈ accepts s ↔ check a ∧ ∀ c ∈ required s, has a c
  sharp : ∀ s, ∃ a, check a ∧ ∀ c, has a c ↔ c ∈ required s

namespace Requires

variable {accepts : σ → Set α} {check : α → Prop} {has : α → κ → Prop} {required : σ → Finset κ}
  (h : Requires accepts check has required)

include h

theorem subset_iff {s t : σ} : accepts t ⊆ accepts s ↔ required s ⊆ required t := by
  refine ⟨?_, ?_⟩
  · intro hsub c hc
    obtain ⟨a, ha, hhas⟩ := h.sharp t
    have hat : a ∈ accepts t := (h.mem_iff t a).mpr ⟨ha, fun c hc => (hhas c).mpr hc⟩
    exact (hhas c).mp (((h.mem_iff s a).mp (hsub hat)).2 c hc)
  · intro hsub a ha
    obtain ⟨hcheck, hhas⟩ := (h.mem_iff t a).mp ha
    exact (h.mem_iff s a).mpr ⟨hcheck, fun c hc => hhas c (hsub hc)⟩

theorem ssubset_iff {s t : σ} : accepts t ⊂ accepts s ↔ required s ⊂ required t := by
  rw [ssubset_iff_subset_not_subset, ssubset_iff_subset_not_subset, h.subset_iff, h.subset_iff]

theorem next_iff {s t : σ} :
    Next accepts s t ↔
      required s ⊂ required t ∧ ∀ u, ¬ (required s ⊂ required u ∧ required u ⊂ required t) := by
  rw [Next, h.ssubset_iff]
  refine and_congr_right fun _ => forall_congr' fun u => not_congr ?_
  rw [h.ssubset_iff, h.ssubset_iff, and_comm]

end Requires

/-- Along steps that only ask for more, what an earlier status asked for stays. -/
theorem mem_of_run {accepts : σ → Set α} {a : ℕ → α} {s : ℕ → σ}
    (haccepted : ∀ n, a n ∈ accepts (s n)) (hstep : ∀ n, accepts (s (n + 1)) ⊆ accepts (s n))
    {i j : ℕ} (hij : i ≤ j) : a j ∈ accepts (s i) :=
  antitone_nat_of_succ_le (f := fun n => accepts (s n)) hstep hij (haccepted j)

end Machine
