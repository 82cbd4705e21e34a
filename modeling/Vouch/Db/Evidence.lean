/-
  Vouch.Db.Evidence

  The lifecycles of a payment against the CHECKs of its table.

  `can_transition_to` lists the moves of a status; the CHECKs of `payments` say
  which timestamps a row with that status has.  The two say the same: a move is
  allowed exactly if the target asks for more timestamps, with no status in
  between (`transitions_add_evidence`).  So a payment that is only moved as
  allowed never loses what an earlier status asked for, and a settled deposit
  stays settled (`evidence_kept`).
-/

import Vouch.Db.PayoutLifecycle
import Vouch.Machine.Requirement

namespace Vouch

open Py (Instant)
open Machine (Next Requires)

-- ============================================================================
-- Statuses and timestamps
-- ============================================================================

/-- `DepositStatus.can_transition_to` -/
def DepositStatus.canTransitionTo (self target : DepositStatus) : Bool :=
  self = .held ∧ target ∈ [DepositStatus.released, .claimed]

/-- The payment under other statuses. -/
def Payment.withStatuses (p : Payment) (s : Option DepositStatus × Option PayoutStatus) : Payment :=
  { p with depositStatus := s.1, payoutStatus := s.2 }

/-- The statuses of a payment. -/
def Payment.statuses (p : Payment) : Option DepositStatus × Option PayoutStatus :=
  (p.depositStatus, p.payoutStatus)

/-- The payments that the CHECKs accept under the statuses. -/
def carriers (s : Option DepositStatus × Option PayoutStatus) : Set Payment :=
  {p | Migration0001.payments.Accepts (p.withStatuses s).toRow}

/-- The timestamps of the two lifecycles. -/
inductive Evidence where
  | depositHeldAt | depositReleasedAt | depositClaimedAt | payoutEligibleAt | paidAt
deriving DecidableEq

def Payment.timestamp (p : Payment) : Evidence → Option Instant
  | .depositHeldAt => p.depositHeldAt
  | .depositReleasedAt => p.depositReleasedAt
  | .depositClaimedAt => p.depositClaimedAt
  | .payoutEligibleAt => p.payoutEligibleAt
  | .paidAt => p.paidAt

/-- The payment has the timestamp. -/
def Payment.Has (p : Payment) (c : Evidence) : Prop := (p.timestamp c).isSome

/-- What the CHECKs ask of a deposit. -/
def DepositStatus.required : DepositStatus → Finset Evidence
  | .held => {.depositHeldAt}
  | .released => {.depositHeldAt, .depositReleasedAt}
  | .claimed => {.depositHeldAt, .depositClaimedAt}

/-- What the CHECKs ask of a payout. -/
def PayoutStatus.required : PayoutStatus → Finset Evidence
  | .pending => ∅
  | .eligible => {.payoutEligibleAt}
  | .paid => {.payoutEligibleAt, .paidAt}

theorem DepositStatus.forall_required {s : DepositStatus} {P : Evidence → Prop} :
    (∀ c ∈ s.required, P c) ↔ P .depositHeldAt ∧ (s = .released → P .depositReleasedAt) ∧
      (s = .claimed → P .depositClaimedAt) := by
  cases s <;> simp [DepositStatus.required]

theorem PayoutStatus.forall_required {s : PayoutStatus} {P : Evidence → Prop} :
    (∀ c ∈ s.required, P c) ↔ (s ≠ .pending → P .payoutEligibleAt) ∧ (s = .paid → P .paidAt) := by
  cases s <;> simp [PayoutStatus.required]

/-- The rest of the law of a deposit. -/
structure Payment.DepositLaw (p : Payment) : Prop where
  type : p.type = .deposit
  amount : 0 < p.amount.toRat
  fee : ∀ fee ∈ p.platformFee, 0 ≤ fee.toRat
  eligibleAt : p.payoutEligibleAt = none
  paidAt : p.paidAt = none

/-- The rest of the law of a payout. -/
structure Payment.PayoutLaw (p : Payment) : Prop where
  type : p.type = .payout
  amount : 0 < p.amount.toRat
  fee : ∀ fee ∈ p.platformFee, 0 ≤ fee.toRat
  recipient : p.vendorRecipientCode.isSome
  feeSet : p.platformFee.isSome
  heldAt : p.depositHeldAt = none
  releasedAt : p.depositReleasedAt = none
  claimedAt : p.depositClaimedAt = none

-- ============================================================================
-- The CHECKs, status by status
-- ============================================================================

theorem mem_carriers {s : Option DepositStatus × Option PayoutStatus} {p : Payment} :
    p ∈ carriers s ↔ (p.withStatuses s).Lawful := (p.withStatuses s).accepts_iff

theorem mem_deposits_iff (s : DepositStatus) (p : Payment) :
    p ∈ carriers (some s, none) ↔ p.DepositLaw ∧ ∀ c ∈ s.required, p.Has c := by
  rw [mem_carriers, DepositStatus.forall_required]
  refine ⟨?_, ?_⟩
  · intro h
    have htype : p.type = .deposit := by
      by_contra hne
      cases (h.noDeposit hne).status
    obtain ⟨hdeposit, hpayout⟩ := h.deposit htype
    refine ⟨⟨htype, h.amount, h.fee, hpayout.eligibleAt, hpayout.paidAt⟩, hdeposit.heldAt, ?_, ?_⟩
    · rintro rfl
      exact hdeposit.releasedAt rfl
    · rintro rfl
      exact hdeposit.claimedAt rfl
  · rintro ⟨hlaw, hheld, hreleased, hclaimed⟩
    refine ⟨hlaw.amount, hlaw.fee, fun _ => ⟨⟨rfl, hheld, ?_, ?_⟩, rfl, hlaw.eligibleAt,
      hlaw.paidAt⟩, ?_, fun hne => absurd hlaw.type hne⟩
    · exact fun hs => hreleased (Option.some.inj hs)
    · exact fun hs => hclaimed (Option.some.inj hs)
    · intro hpayout
      cases hlaw.type.symm.trans hpayout

theorem mem_payouts_iff (s : PayoutStatus) (p : Payment) :
    p ∈ carriers (none, some s) ↔ p.PayoutLaw ∧ ∀ c ∈ s.required, p.Has c := by
  rw [mem_carriers, PayoutStatus.forall_required]
  refine ⟨?_, ?_⟩
  · intro h
    have htype : p.type = .payout := by
      by_contra hne
      cases (h.noPayout hne).status
    obtain ⟨hpayout, hdeposit⟩ := h.payout htype
    refine ⟨⟨htype, h.amount, h.fee, hpayout.recipient, hpayout.fee, hdeposit.heldAt,
      hdeposit.releasedAt, hdeposit.claimedAt⟩, ?_, ?_⟩
    · exact fun hs => hpayout.eligibleAt fun heq => hs (Option.some.inj heq)
    · rintro rfl
      exact hpayout.paidAt rfl
  · rintro ⟨hlaw, heligible, hpaid⟩
    refine ⟨hlaw.amount, hlaw.fee, ?_, fun _ => ⟨⟨hlaw.recipient, hlaw.feeSet, rfl, ?_, ?_⟩, rfl,
      hlaw.heldAt, hlaw.releasedAt, hlaw.claimedAt⟩, fun _ hne => absurd hlaw.type hne⟩
    · intro hdeposit
      cases hlaw.type.symm.trans hdeposit
    · exact fun hs => heligible fun heq => hs (congrArg some heq)
    · exact fun hs => hpaid (Option.some.inj hs)

-- ============================================================================
-- Payments with no more timestamps than asked for
-- ============================================================================

/-- The payment with exactly these timestamps. -/
def Payment.stamped (p : Payment) (e : Finset Evidence) : Payment :=
  { p with
    depositHeldAt := if .depositHeldAt ∈ e then some 0 else none
    depositReleasedAt := if .depositReleasedAt ∈ e then some 0 else none
    depositClaimedAt := if .depositClaimedAt ∈ e then some 0 else none
    payoutEligibleAt := if .payoutEligibleAt ∈ e then some 0 else none
    paidAt := if .paidAt ∈ e then some 0 else none }

section Stamped

variable {p : Payment} {e : Finset Evidence} {c : Evidence}

theorem stamped_timestamp : (p.stamped e).timestamp c = if c ∈ e then some 0 else none := by
  cases c <;> rfl

theorem stamped_has : (p.stamped e).Has c ↔ c ∈ e := by
  rw [Payment.Has, stamped_timestamp]
  split
  · exact iff_of_true rfl ‹_›
  · exact iff_of_false (by simp) ‹_›

theorem stamped_of_notMem (h : c ∉ e) : (p.stamped e).timestamp c = none := by
  rw [stamped_timestamp, if_neg h]

end Stamped

theorem samplePayout_lawful : samplePayout.Lawful :=
  samplePayout.accepts_iff.mp (by decide)

theorem deposits_require : Requires (fun s : DepositStatus => carriers (some s, none))
    Payment.DepositLaw Payment.Has DepositStatus.required where
  mem_iff := mem_deposits_iff
  sharp s := by
    refine ⟨({ samplePayout with type := .deposit } : Payment).stamped s.required, ?_,
      fun c => stamped_has⟩
    have hneither : .payoutEligibleAt ∉ s.required ∧ .paidAt ∉ s.required := by
      cases s <;> decide
    exact ⟨rfl, samplePayout_lawful.amount, samplePayout_lawful.fee,
      stamped_of_notMem (c := .payoutEligibleAt) hneither.1,
      stamped_of_notMem (c := .paidAt) hneither.2⟩

theorem payouts_require : Requires (fun s : PayoutStatus => carriers (none, some s))
    Payment.PayoutLaw Payment.Has PayoutStatus.required where
  mem_iff := mem_payouts_iff
  sharp s := by
    refine ⟨samplePayout.stamped s.required, ?_, fun c => stamped_has⟩
    have hnone : .depositHeldAt ∉ s.required ∧ .depositReleasedAt ∉ s.required ∧
        .depositClaimedAt ∉ s.required := by
      cases s <;> decide
    exact ⟨rfl, samplePayout_lawful.amount, samplePayout_lawful.fee, rfl, rfl,
      stamped_of_notMem (c := .depositHeldAt) hnone.1,
      stamped_of_notMem (c := .depositReleasedAt) hnone.2.1,
      stamped_of_notMem (c := .depositClaimedAt) hnone.2.2⟩

-- ============================================================================
-- Transitions
-- ============================================================================

instance : Fintype DepositStatus := ⟨{.held, .released, .claimed}, by intro s; cases s <;> decide⟩

instance : Fintype PayoutStatus := ⟨{.pending, .eligible, .paid}, by intro s; cases s <;> decide⟩

theorem DepositStatus.canTransitionTo_iff_next {s t : DepositStatus} :
    s.canTransitionTo t = true ↔ Next (fun u : DepositStatus => carriers (some u, none)) s t := by
  rw [deposits_require.next_iff]
  revert s t
  decide

theorem PayoutStatus.canTransitionTo_iff_next {s t : PayoutStatus} :
    s.canTransitionTo t = true ↔ Next (fun u : PayoutStatus => carriers (none, some u)) s t := by
  rw [payouts_require.next_iff]
  revert s t
  decide

/-- **Transitions are steps of evidence.**  `can_transition_to` allows exactly the
    moves to a status under which the CHECKs accept fewer payments, with no status
    in between. -/
theorem transitions_add_evidence :
    (∀ s t : DepositStatus, s.canTransitionTo t = true ↔
      Next (fun u : DepositStatus => carriers (some u, none)) s t) ∧
    ∀ s t : PayoutStatus, s.canTransitionTo t = true ↔
      Next (fun u : PayoutStatus => carriers (none, some u)) s t :=
  ⟨fun _ _ => DepositStatus.canTransitionTo_iff_next,
    fun _ _ => PayoutStatus.canTransitionTo_iff_next⟩

-- ============================================================================
-- Runs
-- ============================================================================

/-- The statuses change only as `can_transition_to` allows. -/
structure Payment.Moves (p q : Payment) : Prop where
  deposit : q.depositStatus = p.depositStatus ∨ ∃ s t : DepositStatus,
    p.depositStatus = some s ∧ q.depositStatus = some t ∧ s.canTransitionTo t = true
  payout : q.payoutStatus = p.payoutStatus ∨ ∃ s t : PayoutStatus,
    p.payoutStatus = some s ∧ q.payoutStatus = some t ∧ s.canTransitionTo t = true

/-- No payment is a deposit and a payout. -/
theorem carriers_both (d : DepositStatus) (q : PayoutStatus) : carriers (some d, some q) = ∅ := by
  rw [Set.eq_empty_iff_forall_notMem]
  intro p hp
  have hlawful := mem_carriers.mp hp
  by_cases htype : p.type = .deposit
  · cases (hlawful.deposit htype).2.status
  · cases (hlawful.noDeposit htype).status

section Moves

variable {p q : Payment}

/-- An allowed move only asks for more. -/
theorem Payment.Moves.carriers_subset (h : p.Moves q) :
    carriers q.statuses ⊆ carriers p.statuses := by
  have hempty : ∀ d x s, carriers (some d, some x) ⊆ carriers s := by
    intro d x s
    rw [carriers_both]
    exact Set.empty_subset _
  rw [Payment.statuses, Payment.statuses]
  rcases h.deposit with hd | ⟨s, t, hs, ht, hst⟩
  · rw [hd]
    rcases h.payout with hq | ⟨s, t, hs, ht, hst⟩
    · rw [hq]
    · rw [hs, ht]
      cases p.depositStatus with
      | none => exact (PayoutStatus.canTransitionTo_iff_next.mp hst).1.subset
      | some d => exact hempty _ _ _
  · rw [hs, ht]
    cases hq : q.payoutStatus with
    | some x => exact hempty _ _ _
    | none =>
      rcases h.payout with hp | ⟨_, _, -, hset, -⟩
      · rw [← hp, hq]
        exact (DepositStatus.canTransitionTo_iff_next.mp hst).1.subset
      · rw [hq] at hset
        cases hset

/-- An operation on an accepted payment is such a move: a payout always has a
    status, so that marking it is a transition. -/
theorem Payment.step_moves (h : Migration0001.payments.Accepts p.toRow) (op : PaymentOp) :
    p.Moves (p.step op) := by
  rcases p.step_cases op with heq | ⟨t, hmarks⟩ | ⟨s, t, -, hs, hst, heq⟩
  · rw [heq]
    exact ⟨.inl rfl, .inl rfl⟩
  · rw [hmarks.step_eq]
    obtain ⟨handovers, bookingStatus, payoutOnHold, -, hok⟩ := hmarks
    obtain ⟨heligible, hstatus⟩ := call_ok_iff.mp hok
    have htype : p.type = .payout := by
      by_contra hne
      rw [Payment.isPayoutEligible, if_pos (.inl hne)] at heligible
      cases heligible
    have hset := ((p.accepts_iff.mp h).payout htype).1.status
    have hpending : p.payoutStatus = some .pending := by
      rcases List.mem_pair.mp hstatus with hnone | hpending
      · rw [hnone] at hset
        cases hset
      · exact hpending
    exact ⟨.inl rfl, .inr ⟨.pending, .eligible, hpending, rfl, rfl⟩⟩
  · rw [heq]
    exact ⟨.inl rfl, .inr ⟨s, t, hs, rfl, hst⟩⟩

end Moves

/-- A settled deposit is moved no further. -/
theorem DepositStatus.held_of_canTransitionTo {s t : DepositStatus}
    (h : s.canTransitionTo t = true) : s = .held ∧ t ≠ .held := by
  revert s t
  decide

section Run

variable {p : ℕ → Payment} (haccepted : ∀ n, Migration0001.payments.Accepts (p n).toRow)
  (hsteps : ∀ n, (p n).Moves (p (n + 1)) ∨ ∃ op, p (n + 1) = (p n).step op)

include haccepted hsteps

theorem moves_of_run (n : ℕ) : (p n).Moves (p (n + 1)) := by
  rcases hsteps n with h | ⟨op, hop⟩
  · exact h
  · rw [hop]
    exact Payment.step_moves (haccepted n) op

/-- A settled deposit stays settled. -/
theorem settled_of_run {i j : ℕ} (hij : i ≤ j) {s : DepositStatus} (hne : s ≠ .held)
    (hs : (p i).depositStatus = some s) : (p j).depositStatus = some s := by
  induction j, hij using Nat.le_induction with
  | base => exact hs
  | succ n _ ih =>
    rcases (moves_of_run haccepted hsteps n).deposit with heq | ⟨s', t, hs', -, hst⟩
    · rw [heq, ih]
    · rw [ih] at hs'
      obtain rfl := Option.some.inj hs'
      exact absurd (DepositStatus.held_of_canTransitionTo hst).1 hne

/-- A deposit is settled at most once. -/
theorem not_settled_twice {m n : ℕ} (hmn : m < n)
    (hm : (p (m + 1)).depositStatus ≠ (p m).depositStatus) :
    (p (n + 1)).depositStatus = (p n).depositStatus := by
  rcases (moves_of_run haccepted hsteps m).deposit with heq | ⟨s, t, -, ht, hst⟩
  · exact absurd heq hm
  · have hne := (DepositStatus.held_of_canTransitionTo hst).2
    rw [settled_of_run haccepted hsteps (by omega) hne ht,
      settled_of_run haccepted hsteps (by omega) hne ht]

/-- **Evidence is kept.**  A payment is rewritten any number of times; each row is
    accepted, and each rewriting is an operation of the model or moves the
    statuses as `can_transition_to` allows.  Then every later row could still carry
    the statuses of an earlier one, and a deposit is settled at most once. -/
theorem evidence_kept :
    (∀ i j, i ≤ j →
      Migration0001.payments.Accepts ((p j).withStatuses (p i).statuses).toRow) ∧
    ∀ m n, (p (m + 1)).depositStatus ≠ (p m).depositStatus →
      (p (n + 1)).depositStatus ≠ (p n).depositStatus → m = n := by
  refine ⟨?_, ?_⟩
  · intro i j hij
    have hcarried : ∀ n, p n ∈ carriers (p n).statuses := haccepted
    exact Machine.mem_of_run hcarried
      (fun n => (moves_of_run haccepted hsteps n).carriers_subset) hij
  · intro m n hm hn
    rcases Nat.lt_trichotomy m n with hlt | heq | hlt
    · exact absurd (not_settled_twice haccepted hsteps hlt hm) hn
    · exact heq
    · exact absurd (not_settled_twice haccepted hsteps hlt hn) hm

end Run

/-- A deposit with no more timestamps than its status asks for. -/
def sampleDeposit (s : DepositStatus) : Payment :=
  let deposit : Payment := { samplePayout with type := .deposit }
  (deposit.stamped s.required).withStatuses (some s, none)

/-- A deposit that is held and then claimed. -/
def sampleClaim (n : ℕ) : Payment := if n = 0 then sampleDeposit .held else sampleDeposit .claimed

theorem evidence_kept_sample :
    Migration0001.payments.Accepts
      ((sampleDeposit .claimed).withStatuses (sampleDeposit .held).statuses).toRow := by
  refine (@evidence_kept sampleClaim ?_ ?_).1 0 1 (by omega)
  · intro n
    rw [sampleClaim]
    split
    · decide
    · decide
  · intro n
    cases n with
    | zero => exact .inl ⟨.inr ⟨.held, .claimed, rfl, rfl, rfl⟩, .inl rfl⟩
    | succ n => exact .inl ⟨.inl rfl, .inl rfl⟩

end Vouch
