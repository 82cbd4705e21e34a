/-
  Vouch.Db.Lifecycle

  The CHECK constraints of `payments`, `handover_records` and `kyc_profiles`,
  and the two-valued laws they state.

  For each table `laws` lists what its CHECKs say, in their order and under
  their names; `decided` shows that each CHECK is true or false as its law is,
  whatever columns are NULL.  `Lawful` says what the laws of a table amount to:
  the fields a deposit, a payout and any other payment carry, the evidence of a
  completed handover, the tier of a verified profile.
-/

import Vouch.Db.Orm
import Vouch.Sql.TwoValued

namespace Vouch

open Py (Json)
open Sql (Row Value Cond TableDef Scalar)

-- ============================================================================
-- Labels
-- ============================================================================

theorem PaymentType.value_injective : Function.Injective PaymentType.value := by
  intro a b
  cases a <;> cases b <;> simp [PaymentType.value]

theorem DepositStatus.value_injective : Function.Injective DepositStatus.value := by
  intro a b
  cases a <;> cases b <;> simp [DepositStatus.value]

theorem PayoutStatus.value_injective : Function.Injective PayoutStatus.value := by
  intro a b
  cases a <;> cases b <;> simp [PayoutStatus.value]

theorem HandoverStatus.value_injective : Function.Injective HandoverStatus.value := by
  intro a b
  cases a <;> cases b <;> simp [HandoverStatus.value]

theorem KYCStatus.value_injective : Function.Injective KYCStatus.value := by
  intro a b
  cases a <;> cases b <;> simp [KYCStatus.value]

-- ============================================================================
-- Conditions on one column
-- ============================================================================

section Columns

variable {α T : Type} {r : Row} {c : String}

theorem decides_isSet {f : α → Value} (hf : ∀ a, (f a).isNull = false) {o : Option α}
    (hget : r.get c = nullable f o) : (isSet c).Decides r o.isSome := by
  refine (Cond.Decides.isNotNull (Scalar.eval_col hget)).congr ?_
  cases o with
  | none => simp [Value.isNull]
  | some a => simp [hf a]

theorem decides_isUnset {f : α → Value} (hf : ∀ a, (f a).isNull = false) {o : Option α}
    (hget : r.get c = nullable f o) : (isUnset c).Decides r (o = none) := by
  refine (Cond.Decides.isNull (Scalar.eval_col hget)).congr ?_
  cases o with
  | none => simp [Value.isNull]
  | some a => simp [hf a]

/-- A label column that is set equals a label or differs from it. -/
theorem decides_label {value : T → String} (hvalue : Function.Injective value) {x : T} (y : T)
    (hget : r.get c = .enum (value x)) :
    (isLabel c (value y)).Decides r (x = y) ∧ (notLabel c (value y)).Decides r (x ≠ y) := by
  refine ⟨?_, ?_⟩
  · refine (Cond.Decides.cmp (t := value x == value y) (Scalar.eval_col hget) rfl rfl).congr ?_
    rw [beq_iff_eq, hvalue.eq_iff]
  · refine (Cond.Decides.cmp (t := !(value x == value y)) (Scalar.eval_col hget) rfl rfl).congr ?_
    rw [Bool.not_eq_true', beq_eq_false_iff_ne, hvalue.ne_iff]

/-- The same for a nullable column that is not NULL. -/
theorem decides_label_of_set {value : T → String} (hvalue : Function.Injective value)
    {o : Option T} (y : T) (hget : r.get c = nullable (fun x => .enum (value x)) o)
    (hset : ¬ o = none) :
    (isLabel c (value y)).Decides r (o = some y) ∧ (notLabel c (value y)).Decides r (o ≠ some y) := by
  obtain ⟨x, rfl⟩ := Option.ne_none_iff_exists'.mp hset
  have h := decides_label hvalue y hget
  exact ⟨h.1.congr Option.some_inj.symm, h.2.congr (not_congr Option.some_inj.symm)⟩

theorem decides_positive {n : Int} (hget : r.get c = .numeric n) :
    (positive c).Decides r (0 < n) := by
  refine (Cond.Decides.cmp (t := !decide (n ≤ 0)) (Scalar.eval_col hget) rfl rfl).congr ?_
  simp

theorem decides_nonnegative {n : Int} (hget : r.get c = .numeric n) :
    (nonnegative c).Decides r (0 ≤ n) := by
  refine (Cond.Decides.cmp (t := decide (0 ≤ n)) (Scalar.eval_col hget) rfl rfl).congr ?_
  simp

/-- `jsonb_typeof(c) = 'array'` -/
theorem decides_isArray {j : Json} (hget : r.get c = .jsonb j) :
    (Cond.cmp .eq (.jsonbTypeof c) (.lit (.text "array"))).Decides r (∃ xs, j = .arr xs) := by
  have heval : (Scalar.jsonbTypeof c).eval r = .ok (.text (Sql.jsonTypeName j)) := by
    rw [Scalar.eval, hget]
  refine (Cond.Decides.cmp (t := Sql.jsonTypeName j == "array") heval rfl rfl).congr ?_
  cases j <;> simp [Sql.jsonTypeName]

/-- `jsonb_array_length(c) > 0` of an array -/
theorem decides_nonempty {xs : List Json} (hget : r.get c = .jsonb (.arr xs)) :
    (Cond.cmp .gt (.jsonbArrayLength c) (.lit (.int 0))).Decides r (xs ≠ []) := by
  have heval : (Scalar.jsonbArrayLength c).eval r = .ok (.int xs.length) := by
    rw [Scalar.eval, hget]
  refine (Cond.Decides.cmp (t := !decide ((xs.length : Int) ≤ 0)) heval rfl rfl).congr ?_
  cases xs with
  | nil => simp
  | cons x xs => simp

end Columns

-- ============================================================================
-- Payments
-- ============================================================================

/-- What the CHECKs of `payments` say. -/
def Payment.laws (p : Payment) : List (String × Prop) :=
  [("ck_payments_amount_positive", 0 < p.amount.unscaled),
   ("ck_payments_payout_fields_required",
     p.type ≠ .payout ∨ p.vendorRecipientCode.isSome ∧ p.platformFee.isSome),
   ("ck_payments_platform_fee_nonnegative",
     p.platformFee = none ∨ ∀ fee ∈ p.platformFee, 0 ≤ fee.unscaled),
   ("ck_payments_deposit_lifecycle_type",
     p.type = .deposit ∧ p.depositStatus.isSome ∨
       (((p.type ≠ .deposit ∧ p.depositStatus = none) ∧ p.depositHeldAt = none) ∧
         p.depositReleasedAt = none) ∧ p.depositClaimedAt = none),
   ("ck_payments_payout_lifecycle_type",
     p.type = .payout ∧ p.payoutStatus.isSome ∨
       ((p.type ≠ .payout ∧ p.payoutStatus = none) ∧ p.payoutEligibleAt = none) ∧
         p.paidAt = none),
   ("ck_payments_deposit_status_timestamps",
     p.depositStatus = none ∨
       (p.depositHeldAt.isSome ∧
         (p.depositStatus ≠ some .released ∨ p.depositReleasedAt.isSome)) ∧
         (p.depositStatus ≠ some .claimed ∨ p.depositClaimedAt.isSome)),
   ("ck_payments_payout_status_timestamps",
     p.payoutStatus = none ∨
       (p.payoutStatus = some .pending ∨ p.payoutEligibleAt.isSome) ∧
         (p.payoutStatus ≠ some .paid ∨ p.paidAt.isSome))]

/-- No CHECK of `payments` is left unknown. -/
theorem Payment.decided (p : Payment) : Migration0001.payments.Decides p.toRow p.laws := by
  have htype := fun y => decides_label PaymentType.value_injective (r := p.toRow) (c := "type")
    (x := p.type) y rfl
  have hdeposit := fun y => decides_label_of_set DepositStatus.value_injective (r := p.toRow)
    (c := "deposit_status") (o := p.depositStatus) y rfl
  have hpayout := fun y => decides_label_of_set PayoutStatus.value_injective (r := p.toRow)
    (c := "payout_status") (o := p.payoutStatus) y rfl
  refine .cons ⟨rfl, ?amount⟩ (.cons ⟨rfl, ?fields⟩ (.cons ⟨rfl, ?fee⟩ (.cons ⟨rfl, ?deposit⟩
    (.cons ⟨rfl, ?payout⟩ (.cons ⟨rfl, ?depositTimes⟩ (.cons ⟨rfl, ?payoutTimes⟩ .nil))))))
  case amount => exact decides_positive rfl
  case fields =>
    refine (htype .payout).2.or fun _ => .and ?_ fun _ => ?_
    · exact decides_isSet (fun _ => rfl) rfl
    · exact decides_isSet (fun _ => rfl) rfl
  case fee =>
    refine .or (decides_isUnset (fun _ => rfl) rfl) fun hset => ?_
    obtain ⟨fee, hfee⟩ := Option.ne_none_iff_exists'.mp hset
    have hget : p.toRow.get "platform_fee" = .numeric fee.unscaled := by
      show nullable money p.platformFee = _
      rw [hfee]
      rfl
    rw [hfee]
    exact (decides_nonnegative hget).congr (by simp)
  case deposit =>
    refine .or ((htype .deposit).1.and fun _ => decides_isSet (fun _ => rfl) rfl) fun _ => ?_
    refine .and (.and (.and (.and (htype .deposit).2 fun _ => ?_) fun _ => ?_) fun _ => ?_) fun _ => ?_
    all_goals exact decides_isUnset (fun _ => rfl) rfl
  case payout =>
    refine .or ((htype .payout).1.and fun _ => decides_isSet (fun _ => rfl) rfl) fun _ => ?_
    refine .and (.and (.and (htype .payout).2 fun _ => ?_) fun _ => ?_) fun _ => ?_
    all_goals exact decides_isUnset (fun _ => rfl) rfl
  case depositTimes =>
    refine .or (decides_isUnset (fun _ => rfl) rfl) fun hset => ?_
    refine .and (.and (decides_isSet (fun _ => rfl) rfl) fun _ => ?_) fun _ => ?_
    · exact (hdeposit .released hset).2.or fun _ => decides_isSet (fun _ => rfl) rfl
    · exact (hdeposit .claimed hset).2.or fun _ => decides_isSet (fun _ => rfl) rfl
  case payoutTimes =>
    refine .or (decides_isUnset (fun _ => rfl) rfl) fun hset => .and ?_ fun _ => ?_
    · exact (hpayout .pending hset).1.or fun _ => decides_isSet (fun _ => rfl) rfl
    · exact (hpayout .paid hset).2.or fun _ => decides_isSet (fun _ => rfl) rfl


/-- None of the deposit fields is set. -/
structure Payment.NoDeposit (p : Payment) : Prop where
  status : p.depositStatus = none
  heldAt : p.depositHeldAt = none
  releasedAt : p.depositReleasedAt = none
  claimedAt : p.depositClaimedAt = none

/-- None of the payout lifecycle fields is set. -/
structure Payment.NoPayout (p : Payment) : Prop where
  status : p.payoutStatus = none
  eligibleAt : p.payoutEligibleAt = none
  paidAt : p.paidAt = none

/-- The fields of a deposit. -/
structure Payment.DepositFields (p : Payment) : Prop where
  status : p.depositStatus.isSome
  heldAt : p.depositHeldAt.isSome
  releasedAt : p.depositStatus = some .released → p.depositReleasedAt.isSome
  claimedAt : p.depositStatus = some .claimed → p.depositClaimedAt.isSome

/-- The fields of a payout. -/
structure Payment.PayoutFields (p : Payment) : Prop where
  recipient : p.vendorRecipientCode.isSome
  fee : p.platformFee.isSome
  status : p.payoutStatus.isSome
  eligibleAt : p.payoutStatus ≠ some .pending → p.payoutEligibleAt.isSome
  paidAt : p.payoutStatus = some .paid → p.paidAt.isSome

/-- The law of `payments`. -/
structure Payment.Lawful (p : Payment) : Prop where
  amount : 0 < p.amount.toRat
  fee : ∀ fee ∈ p.platformFee, 0 ≤ fee.toRat
  deposit : p.type = .deposit → p.DepositFields ∧ p.NoPayout
  payout : p.type = .payout → p.PayoutFields ∧ p.NoDeposit
  other : p.type ≠ .deposit → p.type ≠ .payout → p.NoDeposit ∧ p.NoPayout

theorem Payment.Lawful.noDeposit {p : Payment} (h : p.Lawful) (hne : p.type ≠ .deposit) :
    p.NoDeposit := by
  by_cases hpayout : p.type = .payout
  · exact (h.payout hpayout).2
  · exact (h.other hne hpayout).1

theorem Payment.Lawful.noPayout {p : Payment} (h : p.Lawful) (hne : p.type ≠ .payout) :
    p.NoPayout := by
  by_cases hdeposit : p.type = .deposit
  · exact (h.deposit hdeposit).2
  · exact (h.other hdeposit hne).2

theorem Payment.Lawful.of_laws {p : Payment} (h : ∀ law ∈ p.laws, law.2) : p.Lawful := by
  simp only [Payment.laws, List.forall_mem_cons, List.not_mem_nil, false_imp_iff, implies_true,
    and_true] at h
  obtain ⟨hamount, hfields, hfee, hdeposit, hpayout, hheld, heligible⟩ := h
  have hnoDeposit : p.type ≠ .deposit → p.NoDeposit := by
    intro hne
    obtain ⟨⟨⟨⟨-, h₁⟩, h₂⟩, h₃⟩, h₄⟩ := hdeposit.resolve_left fun h => hne h.1
    exact ⟨h₁, h₂, h₃, h₄⟩
  have hnoPayout : p.type ≠ .payout → p.NoPayout := by
    intro hne
    obtain ⟨⟨⟨-, h₁⟩, h₂⟩, h₃⟩ := hpayout.resolve_left fun h => hne h.1
    exact ⟨h₁, h₂, h₃⟩
  refine ⟨Sql.Numeric.toRat_pos.mpr hamount, ?fee, ?deposit, ?payout, ?other⟩
  case fee =>
    intro fee hmem
    have hset : p.platformFee ≠ none := Option.ne_none_iff_exists'.mpr ⟨fee, hmem⟩
    exact Sql.Numeric.toRat_nonneg.mpr (hfee.resolve_left hset fee hmem)
  case deposit =>
    intro htype
    have hset := (hdeposit.resolve_right fun h => h.1.1.1.1 htype).2
    obtain ⟨⟨h₁, h₂⟩, h₃⟩ := hheld.resolve_left (Option.isSome_iff_ne_none.mp hset)
    refine ⟨⟨hset, h₁, ?_, ?_⟩, hnoPayout (by simp [htype])⟩
    · exact fun hstatus => h₂.resolve_left (not_not_intro hstatus)
    · exact fun hstatus => h₃.resolve_left (not_not_intro hstatus)
  case payout =>
    intro htype
    have hset := (hpayout.resolve_right fun h => h.1.1.1 htype).2
    obtain ⟨h₁, h₂⟩ := hfields.resolve_left (not_not_intro htype)
    obtain ⟨h₃, h₄⟩ := heligible.resolve_left (Option.isSome_iff_ne_none.mp hset)
    refine ⟨⟨h₁, h₂, hset, h₃.resolve_left, ?_⟩, hnoDeposit (by simp [htype])⟩
    exact fun hstatus => h₄.resolve_left (not_not_intro hstatus)
  case other => exact fun hne hne' => ⟨hnoDeposit hne, hnoPayout hne'⟩

theorem Payment.Lawful.laws {p : Payment} (h : p.Lawful) : ∀ law ∈ p.laws, law.2 := by
  simp only [Payment.laws, List.forall_mem_cons, List.not_mem_nil, false_imp_iff, implies_true,
    and_true]
  refine ⟨Sql.Numeric.toRat_pos.mp h.amount, ?fields, ?fee, ?deposit, ?payout, ?held, ?eligible⟩
  case fields =>
    by_cases htype : p.type = .payout
    · have hp := (h.payout htype).1
      exact .inr ⟨hp.recipient, hp.fee⟩
    · exact .inl htype
  case fee => exact .inr fun fee hmem => Sql.Numeric.toRat_nonneg.mp (h.fee fee hmem)
  case deposit =>
    by_cases htype : p.type = .deposit
    · exact .inl ⟨htype, (h.deposit htype).1.status⟩
    · have hn := h.noDeposit htype
      exact .inr ⟨⟨⟨⟨htype, hn.status⟩, hn.heldAt⟩, hn.releasedAt⟩, hn.claimedAt⟩
  case payout =>
    by_cases htype : p.type = .payout
    · exact .inl ⟨htype, (h.payout htype).1.status⟩
    · have hn := h.noPayout htype
      exact .inr ⟨⟨⟨htype, hn.status⟩, hn.eligibleAt⟩, hn.paidAt⟩
  case held =>
    by_cases htype : p.type = .deposit
    · have hd := (h.deposit htype).1
      exact .inr ⟨⟨hd.heldAt, not_or_of_imp hd.releasedAt⟩, not_or_of_imp hd.claimedAt⟩
    · exact .inl (h.noDeposit htype).status
  case eligible =>
    by_cases htype : p.type = .payout
    · have hp := (h.payout htype).1
      exact .inr ⟨or_iff_not_imp_left.mpr hp.eligibleAt, not_or_of_imp hp.paidAt⟩
    · exact .inl (h.noPayout htype).status

/-- Together the CHECKs of `payments` state its law. -/
theorem Payment.forall_laws_iff (p : Payment) : (∀ law ∈ p.laws, law.2) ↔ p.Lawful :=
  ⟨Payment.Lawful.of_laws, Payment.Lawful.laws⟩

theorem Payment.accepts_iff (p : Payment) :
    Migration0001.payments.Accepts p.toRow ↔ p.Lawful :=
  p.decided.accepts_iff.trans p.forall_laws_iff

-- ============================================================================
-- Handover records
-- ============================================================================

/-- Both parties signed, and the evidence is a non-empty array. -/
structure HandoverRecord.Evidenced (h : HandoverRecord) : Prop where
  vendorSigner : h.vendorSignerId.isSome
  renterSigner : h.renterSignerId.isSome
  vendorSigned : h.vendorSignedAt.isSome
  renterSigned : h.renterSignedAt.isSome
  evidence : ∃ x xs, h.evidenceUrls = some (.arr (x :: xs))

/-- The law of `handover_records`. -/
def HandoverRecord.Lawful (h : HandoverRecord) : Prop := h.status = .completed → h.Evidenced

/-- What the CHECK of `handover_records` says. -/
def HandoverRecord.laws (h : HandoverRecord) : List (String × Prop) :=
  [("ck_handover_records_completed_requirements", h.Lawful)]

/-- The conjuncts on `evidence_urls`; each of the JSON functions is reached only
    for a value it is defined on. -/
theorem decides_evidence (h : HandoverRecord) {p : Cond} {P : Prop} (hp : p.Decides h.toRow P) :
    (Cond.and (.and (.and p (isSet "evidence_urls"))
        (.cmp .eq (.jsonbTypeof "evidence_urls") (.lit (.text "array"))))
      (.cmp .gt (.jsonbArrayLength "evidence_urls") (.lit (.int 0)))).Decides h.toRow
      (P ∧ ∃ x xs, h.evidenceUrls = some (.arr (x :: xs))) := by
  have hget : h.toRow.get "evidence_urls" = nullable Value.jsonb h.evidenceUrls := rfl
  have hset : (isSet "evidence_urls").Decides h.toRow h.evidenceUrls.isSome :=
    decides_isSet (fun _ => rfl) hget
  have harray : P ∧ h.evidenceUrls.isSome →
      (Cond.cmp .eq (.jsonbTypeof "evidence_urls") (.lit (.text "array"))).Decides h.toRow
        (∃ xs, h.evidenceUrls = some (.arr xs)) := by
    rintro ⟨-, hsome⟩
    obtain ⟨j, hj⟩ := Option.isSome_iff_exists.mp hsome
    rw [hj] at hget ⊢
    exact (decides_isArray hget).congr (by simp)
  have hlength : (P ∧ h.evidenceUrls.isSome) ∧ (∃ xs, h.evidenceUrls = some (.arr xs)) →
      (Cond.cmp .gt (.jsonbArrayLength "evidence_urls") (.lit (.int 0))).Decides h.toRow
        (h.evidenceUrls ≠ some (.arr [])) := by
    rintro ⟨-, xs, hxs⟩
    rw [hxs] at hget ⊢
    exact (decides_nonempty hget).congr (by simp)
  refine (((hp.and fun _ => hset).and harray).and hlength).congr ⟨?_, ?_⟩
  · rintro ⟨⟨⟨hP, -⟩, xs, hxs⟩, hne⟩
    cases xs with
    | nil => exact absurd hxs hne
    | cons x xs => exact ⟨hP, x, xs, hxs⟩
  · rintro ⟨hP, x, xs, hxs⟩
    simp [hP, hxs]

/-- The CHECK of `handover_records` is never left unknown, and never fails on the
    evidence. -/
theorem HandoverRecord.decided (h : HandoverRecord) :
    Migration0001.handoverRecords.Decides h.toRow h.laws := by
  refine .cons ⟨rfl, ?_⟩ .nil
  have hstatus := (decides_label HandoverStatus.value_injective (r := h.toRow) (c := "status")
    (x := h.status) .completed rfl).2
  have hsigned : (allOf (isSet "vendor_signer_id")
      [isSet "renter_signer_id", isSet "vendor_signed_at", isSet "renter_signed_at"]).Decides
      h.toRow (((h.vendorSignerId.isSome ∧ h.renterSignerId.isSome) ∧ h.vendorSignedAt.isSome) ∧
        h.renterSignedAt.isSome) := by
    refine .and (.and (.and ?_ fun _ => ?_) fun _ => ?_) fun _ => ?_
    all_goals exact decides_isSet (fun _ => rfl) rfl
  refine (hstatus.or fun _ => decides_evidence h hsigned).congr ?_
  rw [← imp_iff_not_or]
  apply imp_congr_right
  intro _
  refine ⟨?_, ?_⟩
  · rintro ⟨⟨⟨⟨h₁, h₂⟩, h₃⟩, h₄⟩, h₅⟩
    exact ⟨h₁, h₂, h₃, h₄, h₅⟩
  · intro he
    exact ⟨⟨⟨⟨he.vendorSigner, he.renterSigner⟩, he.vendorSigned⟩, he.renterSigned⟩, he.evidence⟩

theorem HandoverRecord.accepts_iff (h : HandoverRecord) :
    Migration0001.handoverRecords.Accepts h.toRow ↔ h.Lawful := by
  rw [h.decided.accepts_iff, HandoverRecord.laws, List.forall_mem_singleton]

-- ============================================================================
-- KYC profiles
-- ============================================================================

/-- What the CHECKs of `kyc_profiles` say. -/
def KYCProfile.laws (k : KYCProfile) : List (String × Prop) :=
  [("ck_kyc_profiles_supported_tier", 0 ≤ k.tier ∧ k.tier ≤ 2),
   ("ck_kyc_profiles_verified_at_required", k.status ≠ .verified ∨ k.verifiedAt.isSome),
   ("ck_kyc_profiles_verification_consistency",
     (k.status = .verified ∧ k.verifiedAt.isSome) ∧ (1 ≤ k.tier ∧ k.tier ≤ 2) ∨
       (k.status ≠ .verified ∧ k.verifiedAt = none) ∧ k.tier = 0)]

/-- No CHECK of `kyc_profiles` is left unknown. -/
theorem KYCProfile.decided (k : KYCProfile) : Migration0001.kycProfiles.Decides k.toRow k.laws := by
  have hstatus := decides_label KYCStatus.value_injective (r := k.toRow) (c := "status")
    (x := k.status) .verified rfl
  have hset : (isSet "verified_at").Decides k.toRow k.verifiedAt.isSome :=
    decides_isSet (fun _ => rfl) rfl
  have hunset : (isUnset "verified_at").Decides k.toRow (k.verifiedAt = none) :=
    decides_isUnset (fun _ => rfl) rfl
  have hzero : (Cond.cmp .eq (.col "tier") (.lit (.int 0))).Decides k.toRow (k.tier = 0) :=
    (Cond.Decides.cmp (t := k.tier == 0) rfl rfl rfl).congr beq_iff_eq
  refine .cons ⟨rfl, .between rfl⟩ (.cons ⟨rfl, hstatus.2.or fun _ => hset⟩
    (.cons ⟨rfl, .or ?_ fun _ => ?_⟩ .nil))
  · exact (hstatus.1.and fun _ => hset).and fun _ => .between rfl
  · exact (hstatus.2.and fun _ => hunset).and fun _ => hzero

/-- The law of `kyc_profiles`. -/
structure KYCProfile.Lawful (k : KYCProfile) : Prop where
  verifiedAt : k.status = .verified ↔ k.verifiedAt.isSome
  tier : k.status = .verified ↔ k.tier = 1 ∨ k.tier = 2
  unverified : k.status ≠ .verified → k.tier = 0

/-- Together the CHECKs of `kyc_profiles` state its law. -/
theorem KYCProfile.forall_laws_iff (k : KYCProfile) : (∀ law ∈ k.laws, law.2) ↔ k.Lawful := by
  simp only [KYCProfile.laws, List.forall_mem_cons, List.not_mem_nil, false_imp_iff, implies_true,
    and_true]
  refine ⟨?_, ?_⟩
  · rintro ⟨-, -, ⟨⟨hstatus, hset⟩, hlo, hhi⟩ | ⟨⟨hstatus, hunset⟩, hzero⟩⟩
    · exact ⟨iff_of_true hstatus hset, iff_of_true hstatus (by omega),
        fun hne => absurd hstatus hne⟩
    · exact ⟨iff_of_false hstatus (by simp [hunset]), iff_of_false hstatus (by omega),
        fun _ => hzero⟩
  · intro h
    by_cases hstatus : k.status = .verified
    · have hset := h.verifiedAt.mp hstatus
      have htier := h.tier.mp hstatus
      exact ⟨by omega, .inr hset, .inl ⟨⟨hstatus, hset⟩, by omega⟩⟩
    · have hzero := h.unverified hstatus
      have hunset := Option.not_isSome_iff_eq_none.mp (mt h.verifiedAt.mpr hstatus)
      exact ⟨by omega, .inl hstatus, .inr ⟨⟨hstatus, hunset⟩, hzero⟩⟩

theorem KYCProfile.accepts_iff (k : KYCProfile) :
    Migration0001.kycProfiles.Accepts k.toRow ↔ k.Lawful :=
  k.decided.accepts_iff.trans k.forall_laws_iff

-- ============================================================================
-- The laws of the three tables
-- ============================================================================

/-- No lifecycle CHECK is bypassed by NULL.  On every row of `payments`,
    `handover_records` and `kyc_profiles` each CHECK is true or false, and the
    row is accepted iff it satisfies the law of its table; the models declare
    the CHECKs the migration creates. -/
theorem lifecycle_checks_exact :
    (∀ p : Payment, Migration0001.payments.Settles p.toRow ∧
      (Migration0001.payments.Accepts p.toRow ↔ p.Lawful)) ∧
    (∀ h : HandoverRecord, Migration0001.handoverRecords.Settles h.toRow ∧
      (Migration0001.handoverRecords.Accepts h.toRow ↔ h.Lawful)) ∧
    (∀ k : KYCProfile, Migration0001.kycProfiles.Settles k.toRow ∧
      (Migration0001.kycProfiles.Accepts k.toRow ↔ k.Lawful)) ∧
    Orm.payments.checks = Migration0001.payments.checks ∧
    Orm.handoverRecords.checks = Migration0001.handoverRecords.checks ∧
    Orm.kycProfiles.checks = Migration0001.kycProfiles.checks := by
  refine ⟨?_, ?_, ?_, rfl, rfl, rfl⟩
  · exact fun p => ⟨p.decided.settles, p.accepts_iff⟩
  · exact fun h => ⟨h.decided.settles, h.accepts_iff⟩
  · exact fun k => ⟨k.decided.settles, k.accepts_iff⟩

end Vouch
