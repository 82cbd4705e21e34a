/-
  Vouch.Machine.Admission

  A machine that grants requests or refuses them.

  Each request either fits the state, and is then added to it, or leaves it as
  it is.  Where more requests only leave less room (`Admission.shrinks`), and a
  request uses up its own room (`Admission.once`), the machine serves first
  come, first served and settles every request for good (`exists_granted`).
-/

import Vouch.Machine.Run

namespace Machine

variable {σ ρ : Type*}

/-- The machine adds what fits and ignores the rest. -/
structure Admission (step : σ → ρ → σ) (Valid : σ → Prop) (fits : σ → ρ → Prop)
    (add : σ → ρ → σ) : Prop where
  step_of_fits : ∀ {s r}, Valid s → fits s r → step s r = add s r
  step_of_not_fits : ∀ {s r}, Valid s → ¬ fits s r → step s r = s
  valid : ∀ {s r}, Valid s → fits s r → Valid (add s r)
  shrinks : ∀ {s r r'}, fits (add s r) r' → fits s r'
  once : ∀ {s r}, ¬ fits (add s r) r

/-- The first `n` requests have been served, and these of them were granted. -/
structure Granted (step : σ → ρ → σ) (Valid : σ → Prop) (fits : σ → ρ → Prop) (add : σ → ρ → σ)
    (s : σ) (requests : List ρ) (n : ℕ) (granted : List ρ) : Prop where
  sublist : granted.Sublist (requests.take n)
  state : stateAt step s requests n = granted.foldl add s
  valid : Valid (stateAt step s requests n)
  /-- First come, first served. -/
  served : ∀ i < n, ∀ r, requests[i]? = some r → fits (stateAt step s requests i) r → r ∈ granted
  /-- Nothing that was refused fits now, and nothing that was granted fits again. -/
  settled : ∀ r ∈ requests.take n, ¬ fits (stateAt step s requests n) r

section Granted

variable {step : σ → ρ → σ} {Valid : σ → Prop} {fits : σ → ρ → Prop} {add : σ → ρ → σ}
  (hstep : Admission step Valid fits add) {s : σ} {requests granted : List ρ} {n : ℕ}

include hstep

/-- A request that fits is granted. -/
theorem Granted.grant (h : Granted step Valid fits add s requests n granted) {r : ρ}
    (hr : requests[n]? = some r) (hfits : fits (stateAt step s requests n) r) :
    Granted step Valid fits add s requests (n + 1) (granted ++ [r]) := by
  have htake : requests.take (n + 1) = requests.take n ++ [r] := by
    rw [List.take_add_one, hr]
    rfl
  have hnext : stateAt step s requests (n + 1) = add (stateAt step s requests n) r := by
    rw [stateAt_succ hr]
    exact hstep.step_of_fits h.valid hfits
  refine ⟨?_, ?_, ?_, ?_, ?_⟩
  · rw [htake]
    exact h.sublist.append (List.Sublist.refl _)
  · rw [hnext, h.state, List.foldl_append, List.foldl_cons, List.foldl_nil]
  · rw [hnext]
    exact hstep.valid h.valid hfits
  · intro i hi x hx hfree
    rcases Nat.lt_succ_iff_lt_or_eq.mp hi with hi | rfl
    · exact List.mem_append_left _ (h.served i hi x hx hfree)
    · rw [hr] at hx
      rw [Option.some.inj hx]
      exact List.mem_append_right _ (List.mem_singleton_self x)
  · rw [htake, hnext]
    intro x hx hfree
    rcases List.mem_append.mp hx with hx | hx
    · exact h.settled x hx (hstep.shrinks hfree)
    · rw [List.mem_singleton.mp hx] at hfree
      exact hstep.once hfree

/-- Any other request changes nothing. -/
theorem Granted.refuse (h : Granted step Valid fits add s requests n granted)
    (hnot : ∀ r, requests[n]? = some r → ¬ fits (stateAt step s requests n) r) :
    Granted step Valid fits add s requests (n + 1) granted := by
  have hnext : stateAt step s requests (n + 1) = stateAt step s requests n := by
    cases hr : requests[n]? with
    | none => exact stateAt_succ_of_none hr
    | some r =>
      rw [stateAt_succ hr]
      exact hstep.step_of_not_fits h.valid (hnot r hr)
  refine ⟨?_, ?_, ?_, ?_, ?_⟩
  · exact h.sublist.trans (List.take_sublist_take_left (Nat.le_succ n))
  · rw [hnext, h.state]
  · rw [hnext]
    exact h.valid
  · intro i hi x hx hfree
    rcases Nat.lt_succ_iff_lt_or_eq.mp hi with hi | rfl
    · exact h.served i hi x hx hfree
    · exact absurd hfree (hnot x hx)
  · rw [hnext, List.take_add_one]
    intro x hx
    rcases List.mem_append.mp hx with hx | hx
    · exact h.settled x hx
    · exact hnot x (Option.mem_toList.mp hx)

/-- Whatever is requested, in whatever order, some of it is granted and all of it
    settled. -/
theorem exists_granted (hs : Valid s) (requests : List ρ) (n : ℕ) :
    ∃ granted, Granted step Valid fits add s requests n granted := by
  induction n with
  | zero =>
    refine ⟨[], List.Sublist.refl _, stateAt_zero, ?_, ?_, ?_⟩
    · rwa [stateAt_zero]
    · intro i hi
      omega
    · intro r hr
      cases hr
  | succ n ih =>
    obtain ⟨granted, h⟩ := ih
    by_cases hfits : ∃ r, requests[n]? = some r ∧ fits (stateAt step s requests n) r
    · obtain ⟨r, hr, hfits⟩ := hfits
      exact ⟨_, h.grant hstep hr hfits⟩
    · push Not at hfits
      exact ⟨granted, h.refuse hstep hfits⟩

end Granted

end Machine
