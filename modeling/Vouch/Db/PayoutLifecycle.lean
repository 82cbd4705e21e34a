/-
  Vouch.Db.PayoutLifecycle

  How a payout becomes eligible and is paid: `mark_payout_eligible` and
  `can_transition_to` of `app/db/models/payment.py`, one call and whole runs.

  The method raises before it writes, so a failed call leaves the payment as it
  was; a call that returns completes the fields of an eligible payout, and the
  row keeps the laws of `Db.Lifecycle`.  Over runs the status has a rank, which
  no operation lowers and which only the first successful call raises from 0.
-/

import Vouch.Db.Payout
import Vouch.Machine.Run

namespace Vouch

open Py (Instant)
open Sql (TableDef)

-- ============================================================================
-- The method
-- ============================================================================

/-- `ValueError(message)` -/
structure ValueError where
  message : String
deriving DecidableEq, Repr

/-- A method of a payment: it may raise, and what it wrote before stays written. -/
abbrev Method := ExceptT ValueError (StateM Payment)

/-- Call the method on the payment. -/
def Payment.call (p : Payment) (method : Method Unit) : Except ValueError Unit × Payment :=
  method.run p

/-- `Payment.mark_payout_eligible` -/
def markPayoutEligible (handovers : List HandoverRecord) (bookingStatus : BookingStatus)
    (payoutOnHold : Bool) (eligibleAt : Instant) : Method Unit := do
  let self ← get
  if !self.isPayoutEligible handovers bookingStatus payoutOnHold then
    throw ⟨"payout requires a completed return handover"⟩
  if self.payoutStatus ∉ [none, some .pending] then
    throw ⟨"payout cannot transition to eligible"⟩
  modify fun self => { self with payoutStatus := some .eligible }
  modify fun self => { self with payoutEligibleAt := some eligibleAt }

/-- `PayoutStatus.can_transition_to` -/
def PayoutStatus.canTransitionTo (self target : PayoutStatus) : Bool :=
  (self, target) ∈ [(PayoutStatus.pending, PayoutStatus.eligible), (.eligible, .paid)]

-- ============================================================================
-- One call
-- ============================================================================

/-- The payment with the two fields of an eligible payout written. -/
def Payment.eligibleSince (p : Payment) (t : Instant) : Payment :=
  { p with payoutStatus := some .eligible, payoutEligibleAt := some t }

section Call

variable {p : Payment} {handovers : List HandoverRecord} {bookingStatus : BookingStatus}
  {payoutOnHold : Bool} {eligibleAt : Instant}

/-- The method raises before it writes. -/
theorem call_markPayoutEligible :
    p.call (markPayoutEligible handovers bookingStatus payoutOnHold eligibleAt) =
      if p.isPayoutEligible handovers bookingStatus payoutOnHold = true then
        if p.payoutStatus ∈ [none, some .pending] then (.ok (), p.eligibleSince eligibleAt)
        else (.error ⟨"payout cannot transition to eligible"⟩, p)
      else (.error ⟨"payout requires a completed return handover"⟩, p) := by
  show p.call (ite _ _ (ite _ _ _)) = _
  by_cases heligible : p.isPayoutEligible handovers bookingStatus payoutOnHold = true
  · rw [if_pos heligible, heligible]
    by_cases hstatus : p.payoutStatus ∈ [none, some .pending]
    · rw [if_pos hstatus, if_neg (not_not_intro hstatus)]
      rfl
    · rw [if_neg hstatus, if_pos hstatus]
      rfl
  · rw [if_neg heligible, Bool.eq_false_of_not_eq_true heligible]
    rfl

/-- It returns exactly when both guards pass. -/
theorem call_ok_iff :
    (p.call (markPayoutEligible handovers bookingStatus payoutOnHold eligibleAt)).1 = .ok () ↔
      p.isPayoutEligible handovers bookingStatus payoutOnHold = true ∧
        p.payoutStatus ∈ [none, some .pending] := by
  rw [call_markPayoutEligible]
  split_ifs with heligible hstatus
  · exact iff_of_true rfl ⟨heligible, hstatus⟩
  · exact iff_of_false (by simp) fun h => hstatus h.2
  · exact iff_of_false (by simp) fun h => heligible h.1

/-- A payout that meets the laws of `payments`, the one on its lifecycle fields
    aside, meets all of them once it is eligible. -/
theorem accepts_eligibleSince (htype : p.type = .payout)
    (h : Orm.payments.AcceptsBut "ck_payments_payout_lifecycle_type" p.toRow) (t : Instant) :
    Orm.payments.Accepts (p.eligibleSince t).toRow := by
  have hlaws := (TableDef.Decides.acceptsBut_iff (t := Orm.payments) p.decided).mp h
  apply (TableDef.Decides.accepts_iff (t := Orm.payments) (p.eligibleSince t).decided).mpr
  simp only [Payment.laws, List.forall_mem_cons, List.not_mem_nil, false_imp_iff, implies_true,
    and_true, ne_eq, String.reduceEq, not_false_eq_true, true_imp_iff, not_true_eq_false] at hlaws ⊢
  obtain ⟨hamount, hfields, hfee, hdeposit, -, hheld, -⟩ := hlaws
  -- the payout lifecycle and its times are those just written
  exact ⟨hamount, hfields, hfee, hdeposit, .inl ⟨htype, rfl⟩, hheld,
    .inr ⟨.inr rfl, .inl (by simp [Payment.eligibleSince])⟩⟩

/-- `mark_payout_eligible` is atomic and keeps the row storable.  For a payment
    that satisfies the CHECKs of `payments`, or an unsaved payout without a
    status that satisfies the others, a call either raises and changes nothing,
    or returns, changes the two fields and leaves a row that satisfies all
    CHECKs; it returns iff the payout is eligible and not beyond pending. -/
theorem mark_payout_eligible_atomic
    (hrow : Orm.payments.Accepts p.toRow ∨ p.type = .payout ∧ p.payoutStatus = none ∧
      Orm.payments.AcceptsBut "ck_payments_payout_lifecycle_type" p.toRow)
    (handovers : List HandoverRecord) (bookingStatus : BookingStatus) (payoutOnHold : Bool)
    (eligibleAt : Instant) :
    ((∃ e, p.call (markPayoutEligible handovers bookingStatus payoutOnHold eligibleAt) =
        (.error e, p)) ∨
      p.call (markPayoutEligible handovers bookingStatus payoutOnHold eligibleAt) =
        (.ok (), { p with payoutStatus := some .eligible, payoutEligibleAt := some eligibleAt }) ∧
      Orm.payments.Accepts (p.eligibleSince eligibleAt).toRow) ∧
    ((p.call (markPayoutEligible handovers bookingStatus payoutOnHold eligibleAt)).1 = .ok () ↔
      p.isPayoutEligible handovers bookingStatus payoutOnHold = true ∧
        p.payoutStatus ∈ [none, some .pending]) := by
  refine ⟨?_, call_ok_iff⟩
  have hbut : Orm.payments.AcceptsBut "ck_payments_payout_lifecycle_type" p.toRow := by
    rcases hrow with haccepts | ⟨-, -, hbut⟩
    · exact haccepts.acceptsBut _
    · exact hbut
  rw [call_markPayoutEligible]
  split_ifs with heligible hstatus
  · have htype := (isPayoutEligible_iff.mp heligible).1
    exact .inr ⟨rfl, accepts_eligibleSince htype hbut eligibleAt⟩
  · exact .inl ⟨_, rfl⟩
  · exact .inl ⟨_, rfl⟩

/-- The sample's payout passes the CHECKs and becomes eligible. -/
theorem mark_payout_eligible_atomic_sample :
    Orm.payments.Accepts samplePayout.toRow ∧
      Orm.payments.Accepts (samplePayout.eligibleSince 3600).toRow := by
  have haccepts : Orm.payments.Accepts samplePayout.toRow := by decide
  have hcall := mark_payout_eligible_atomic (.inl haccepts) [sampleReturn] .completed false 3600
  have hok := hcall.2.mpr ⟨by decide, by decide⟩
  rcases hcall.1 with ⟨e, herror⟩ | ⟨-, hmarked⟩
  · rw [herror] at hok
    cases hok
  · exact ⟨haccepts, hmarked⟩

end Call

-- ============================================================================
-- Runs
-- ============================================================================

/-- An operation on a payment. -/
inductive PaymentOp where
  | mark (handovers : List HandoverRecord) (bookingStatus : BookingStatus) (payoutOnHold : Bool)
      (eligibleAt : Instant)
  | assign (target : PayoutStatus)

/-- One operation: the ValueError of a failed call is caught, and a status is
    assigned only where the current one allows the transition. -/
def Payment.step (p : Payment) : PaymentOp → Payment
  | .mark handovers bookingStatus payoutOnHold eligibleAt =>
      (p.call (markPayoutEligible handovers bookingStatus payoutOnHold eligibleAt)).2
  | .assign target =>
      if p.payoutStatus.any fun status => status.canTransitionTo target then
        { p with payoutStatus := some target }
      else p

/-- The operation is a successful call with the timestamp. -/
def Payment.Marks (p : Payment) (op : PaymentOp) (t : Instant) : Prop :=
  ∃ handovers bookingStatus payoutOnHold, op = .mark handovers bookingStatus payoutOnHold t ∧
    (p.call (markPayoutEligible handovers bookingStatus payoutOnHold t)).1 = .ok ()

/-- The order {None, pending} < eligible < paid. -/
def payoutRank : Option PayoutStatus → ℕ
  | none => 0
  | some .pending => 0
  | some .eligible => 1
  | some .paid => 2

section Step

variable {p : Payment} {op : PaymentOp}

theorem Payment.Marks.rank_eq_zero {t : Instant} (h : p.Marks op t) :
    payoutRank p.payoutStatus = 0 := by
  obtain ⟨handovers, bookingStatus, payoutOnHold, -, hok⟩ := h
  rcases List.mem_pair.mp (call_ok_iff.mp hok).2 with hstatus | hstatus
  · rw [hstatus]
    rfl
  · rw [hstatus]
    rfl

theorem Payment.Marks.step_eq {t : Instant} (h : p.Marks op t) : p.step op = p.eligibleSince t := by
  obtain ⟨handovers, bookingStatus, payoutOnHold, rfl, hok⟩ := h
  obtain ⟨heligible, hstatus⟩ := call_ok_iff.mp hok
  rw [Payment.step, call_markPayoutEligible, if_pos heligible, if_pos hstatus]

/-- What an operation can do: nothing, mark the payment, or move its status to
    the next one. -/
theorem Payment.step_cases (p : Payment) (op : PaymentOp) :
    p.step op = p ∨ (∃ t, p.Marks op t) ∨
      ∃ status target, op = .assign target ∧ p.payoutStatus = some status ∧
        status.canTransitionTo target = true ∧ p.step op = { p with payoutStatus := some target } := by
  cases op with
  | mark handovers bookingStatus payoutOnHold t =>
      by_cases hok : (p.call (markPayoutEligible handovers bookingStatus payoutOnHold t)).1 = .ok ()
      · exact .inr (.inl ⟨t, handovers, bookingStatus, payoutOnHold, rfl, hok⟩)
      · left
        rw [call_ok_iff, not_and] at hok
        rw [Payment.step, call_markPayoutEligible]
        split_ifs with heligible hstatus
        · exact absurd hstatus (hok heligible)
        · rfl
        · rfl
  | assign target =>
      rw [Payment.step]
      split_ifs with hallowed
      · obtain ⟨status, hstatus, hcan⟩ := (Option.any_eq_true _ _).mp hallowed
        exact .inr (.inr ⟨status, target, rfl, hstatus, hcan, rfl⟩)
      · exact .inl rfl

theorem PayoutStatus.canTransitionTo_iff {status target : PayoutStatus} :
    status.canTransitionTo target = true ↔
      status = .pending ∧ target = .eligible ∨ status = .eligible ∧ target = .paid := by
  cases status <;> cases target <;> simp [PayoutStatus.canTransitionTo]

/-- No operation lowers the rank. -/
theorem Payment.rank_le_step (p : Payment) (op : PaymentOp) :
    payoutRank p.payoutStatus ≤ payoutRank (p.step op).payoutStatus := by
  rcases p.step_cases op with heq | ⟨t, hmarks⟩ | ⟨status, target, -, hstatus, hcan, heq⟩
  · rw [heq]
  · rw [hmarks.rank_eq_zero]
    exact Nat.zero_le _
  · rw [heq, hstatus]
    rcases PayoutStatus.canTransitionTo_iff.mp hcan with ⟨rfl, rfl⟩ | ⟨rfl, rfl⟩
    · exact Nat.zero_le _
    · exact Nat.le_succ 1

/-- Past rank 0 no operation touches the eligibility time. -/
theorem Payment.step_eligibleAt (h : payoutRank p.payoutStatus ≠ 0) :
    (p.step op).payoutEligibleAt = p.payoutEligibleAt := by
  rcases p.step_cases op with heq | ⟨t, hmarks⟩ | ⟨status, target, -, -, -, heq⟩
  · rw [heq]
  · exact absurd hmarks.rank_eq_zero h
  · rw [heq]

theorem Payment.step_paid (h : p.payoutStatus = some .paid) :
    (p.step op).payoutStatus = some .paid := by
  rcases p.step_cases op with heq | ⟨t, hmarks⟩ | ⟨status, target, -, hstatus, hcan, heq⟩
  · rw [heq, h]
  · have hrank := hmarks.rank_eq_zero
    rw [h] at hrank
    cases hrank
  · rw [h, Option.some_inj] at hstatus
    rw [← hstatus] at hcan
    rcases PayoutStatus.canTransitionTo_iff.mp hcan with ⟨hpaid, -⟩ | ⟨hpaid, -⟩
    · cases hpaid
    · cases hpaid

end Step

section Runs

variable (p : Payment) (ops : List PaymentOp)

/-- The payment after the first `n` operations. -/
def Payment.after (n : ℕ) : Payment := Machine.stateAt Payment.step p ops n

variable {p ops} {i j : ℕ} {op op' : PaymentOp} {t t' : Instant}

theorem Payment.after_succ (hop : ops[i]? = some op) :
    p.after ops (i + 1) = (p.after ops i).step op := Machine.stateAt_succ hop

/-- The status never moves backwards. -/
theorem Payment.rank_monotone : Monotone fun n => payoutRank (p.after ops n).payoutStatus :=
  Machine.rank_monotone (fun p : Payment => payoutRank p.payoutStatus) Payment.rank_le_step

theorem Payment.marks_once (hi : ops[i]? = some op) (hj : ops[j]? = some op')
    (hmi : (p.after ops i).Marks op t) (hmj : (p.after ops j).Marks op' t') : i = j := by
  refine Machine.crosses_once (fun p : Payment => payoutRank p.payoutStatus)
    Payment.rank_le_step (fun p op => ∃ t, p.Marks op t) 0 ?_ hi hj ⟨t, hmi⟩ ⟨t', hmj⟩
  rintro p op ⟨t, hmarks⟩
  rw [hmarks.rank_eq_zero, hmarks.step_eq]
  exact ⟨Nat.le_refl 0, Nat.zero_lt_one⟩

theorem Payment.marks_of_eligibleAt_ne
    (h : (p.after ops (i + 1)).payoutEligibleAt ≠ (p.after ops i).payoutEligibleAt) :
    ∃ op t, ops[i]? = some op ∧ (p.after ops i).Marks op t := by
  cases hop : ops[i]? with
  | none => exact absurd (by rw [Payment.after, Machine.stateAt_succ_of_none hop]; rfl) h
  | some op =>
      rw [Payment.after_succ hop] at h
      rcases (p.after ops i).step_cases op with heq | ⟨t, hmarks⟩ | ⟨_, _, -, -, -, heq⟩
      · exact absurd (by rw [heq]) h
      · exact ⟨op, t, rfl, hmarks⟩
      · exact absurd (by rw [heq]) h

/-- The timestamp of the successful call stays. -/
theorem Payment.eligibleAt_of_marks (hop : ops[i]? = some op) (hmarks : (p.after ops i).Marks op t)
    (hij : i < j) : (p.after ops j).payoutEligibleAt = some t := by
  have hnext : p.after ops (i + 1) = (p.after ops i).eligibleSince t := by
    rw [Payment.after_succ hop, hmarks.step_eq]
  refine (Machine.keeps
    (fun q : Payment => payoutRank q.payoutStatus ≠ 0 ∧ q.payoutEligibleAt = some t) ?_ hij ?_).2
  · rintro p op ⟨hrank, hat⟩
    have hle := p.rank_le_step op
    exact ⟨by omega, (Payment.step_eligibleAt hrank).trans hat⟩
  · rw [← Payment.after, hnext]
    exact ⟨Nat.one_ne_zero, rfl⟩

/-- A paid payout stays as it is. -/
theorem Payment.after_of_paid (hpaid : (p.after ops i).payoutStatus = some .paid) (hij : i ≤ j) :
    (p.after ops j).payoutStatus = some .paid ∧
      (p.after ops j).payoutEligibleAt = (p.after ops i).payoutEligibleAt := by
  refine Machine.keeps (fun q : Payment => q.payoutStatus = some .paid ∧
    q.payoutEligibleAt = (p.after ops i).payoutEligibleAt) ?_ hij ⟨hpaid, rfl⟩
  rintro q op ⟨hstatus, hat⟩
  have hrank : payoutRank q.payoutStatus ≠ 0 := by simp [hstatus, payoutRank]
  exact ⟨Payment.step_paid hstatus, (Payment.step_eligibleAt hrank).trans hat⟩

/-- What the method does to a status that is set is a transition. -/
theorem Payment.mark_transition {handovers : List HandoverRecord} {bookingStatus : BookingStatus}
    {payoutOnHold : Bool} {status : PayoutStatus} (hstatus : p.payoutStatus = some status) :
    (p.step (.mark handovers bookingStatus payoutOnHold t)).payoutStatus = some status ∨
      ∃ target, status.canTransitionTo target = true ∧
        (p.step (.mark handovers bookingStatus payoutOnHold t)).payoutStatus = some target := by
  rcases p.step_cases (.mark handovers bookingStatus payoutOnHold t) with
    heq | ⟨t, hmarks⟩ | ⟨_, _, hop, -⟩
  · exact .inl (by rw [heq, hstatus])
  · have hrank := hmarks.rank_eq_zero
    rw [hstatus] at hrank
    rw [hmarks.step_eq]
    cases status with
    | pending => exact .inr ⟨.eligible, rfl, rfl⟩
    | eligible => cases hrank
    | paid => cases hrank
  · cases hop

/-- A payout becomes eligible at most once.  In every run of calls of
    `mark_payout_eligible` and assignments that `can_transition_to` allows, on any
    payment: the status never moves backwards; at most one call succeeds; the
    eligibility time changes only in that call and then keeps its timestamp; a
    paid payout keeps its status and time; and a call changes a status that is
    set only to one `can_transition_to` permits. -/
theorem payout_eligible_at_most_once (p : Payment) (ops : List PaymentOp) :
    (Monotone fun n => payoutRank (p.after ops n).payoutStatus) ∧
    (∀ i j op op' t t', ops[i]? = some op → ops[j]? = some op' →
      (p.after ops i).Marks op t → (p.after ops j).Marks op' t' → i = j) ∧
    (∀ i, (p.after ops (i + 1)).payoutEligibleAt ≠ (p.after ops i).payoutEligibleAt →
      ∃ op t, ops[i]? = some op ∧ (p.after ops i).Marks op t) ∧
    (∀ i j op t, ops[i]? = some op → (p.after ops i).Marks op t → i < j →
      (p.after ops j).payoutEligibleAt = some t) ∧
    (∀ i j, (p.after ops i).payoutStatus = some .paid → i ≤ j →
      (p.after ops j).payoutStatus = some .paid ∧
        (p.after ops j).payoutEligibleAt = (p.after ops i).payoutEligibleAt) ∧
    (∀ i handovers bookingStatus payoutOnHold t status,
      ops[i]? = some (.mark handovers bookingStatus payoutOnHold t) →
      (p.after ops i).payoutStatus = some status →
      (p.after ops (i + 1)).payoutStatus = some status ∨
        ∃ target, status.canTransitionTo target = true ∧
          (p.after ops (i + 1)).payoutStatus = some target) := by
  refine ⟨Payment.rank_monotone, ?_, ?_, ?_, ?_, ?_⟩
  · exact fun i j op op' t t' => Payment.marks_once
  · exact fun i => Payment.marks_of_eligibleAt_ne
  · exact fun i j op t => Payment.eligibleAt_of_marks
  · exact fun i j => Payment.after_of_paid
  · intro i handovers bookingStatus payoutOnHold t status hop hstatus
    rw [Payment.after_succ hop]
    exact Payment.mark_transition hstatus

end Runs

end Vouch
