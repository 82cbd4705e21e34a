/-
  Vouch.Sql.TwoValued

  Conditions that NULL cannot leave unknown.

  `p.Decides r P` says that `p` evaluates to true on the row `r` where the
  proposition `P` holds and to false where it does not.  AND and OR stop at the
  operand that settles them, so their second operand need only be decided where
  the first lets it be reached: behind `c IS NULL OR …` and `c IS NOT NULL AND …`
  the column is set.  A CHECK that is decided admits exactly the rows of its law.
-/

import Mathlib.Data.List.Forall2
import Vouch.Sql.Schema

namespace Sql

variable {r : Row} {P Q : Prop}

-- ============================================================================
-- Decided conditions
-- ============================================================================

/-- The condition is true on the row if `P` holds, and false if it does not. -/
structure Cond.Decides (p : Cond) (r : Row) (P : Prop) : Prop where
  of_true : P → p.eval r = .ok .true
  of_false : ¬ P → p.eval r = .ok .false

namespace Cond.Decides

/-- A decided condition is never unknown, and its evaluation never fails. -/
theorem twoValued {p : Cond} (h : p.Decides r P) : p.eval r = .ok .true ∨ p.eval r = .ok .false := by
  by_cases hP : P
  · exact .inl (h.of_true hP)
  · exact .inr (h.of_false hP)

theorem admits_iff {p : Cond} (h : p.Decides r P) : p.admits r ↔ P := by
  rw [Cond.admits]
  by_cases hP : P
  · rw [h.of_true hP]
    simp [hP]
  · rw [h.of_false hP]
    simp [hP]

theorem congr {p : Cond} (h : p.Decides r P) (hPQ : P ↔ Q) : p.Decides r Q :=
  ⟨fun hQ => h.of_true (hPQ.mpr hQ), fun hQ => h.of_false (mt hPQ.mp hQ)⟩

/-- An evaluated condition is decided by its value. -/
theorem of_eval {p : Cond} {b : Bool} (h : p.eval r = .ok (.ofBool b)) : p.Decides r (b = true) := by
  refine ⟨?_, ?_⟩
  · rintro rfl
    exact h
  · intro hb
    rw [h, Bool.eq_false_of_not_eq_true hb]
    rfl

theorem isNull {a : Scalar} {v : Value} (ha : a.eval r = .ok v) :
    (Cond.isNull a).Decides r (v.isNull = true) := by
  apply of_eval
  rw [Cond.eval, ha]
  rfl

theorem isNotNull {a : Scalar} {v : Value} (ha : a.eval r = .ok v) :
    (Cond.isNotNull a).Decides r (v.isNull = false) := by
  have heval : (Cond.isNotNull a).eval r = .ok (.ofBool (!v.isNull)) := by
    rw [Cond.eval, ha]
    rfl
  exact (of_eval heval).congr (by simp)

/-- A comparison of two values whose result is known. -/
theorem cmp {op : CmpOp} {a b : Scalar} {v w : Value} {t : Bool} (ha : a.eval r = .ok v)
    (hb : b.eval r = .ok w) (h : op.eval v w = .ofBool t) :
    (Cond.cmp op a b).Decides r (t = true) := by
  apply of_eval
  rw [Cond.eval, ha, hb, ← h]
  rfl

/-- The second conjunct is evaluated only where the first is true. -/
theorem and {p q : Cond} (hp : p.Decides r P) (hq : P → q.Decides r Q) :
    (Cond.and p q).Decides r (P ∧ Q) := by
  have heval : (Cond.and p q).eval r = (p.eval r).bind fun t => andThen t (q.eval r) := rfl
  refine ⟨?_, ?_⟩
  · rintro ⟨hP, hQ⟩
    rw [heval, hp.of_true hP, (hq hP).of_true hQ]
    rfl
  · intro hnot
    by_cases hP : P
    · have hQ : ¬ Q := fun hQ => hnot ⟨hP, hQ⟩
      rw [heval, hp.of_true hP, (hq hP).of_false hQ]
      rfl
    · rw [heval, hp.of_false hP]
      rfl

/-- The second disjunct is evaluated only where the first is false. -/
theorem or {p q : Cond} (hp : p.Decides r P) (hq : ¬ P → q.Decides r Q) :
    (Cond.or p q).Decides r (P ∨ Q) := by
  have heval : (Cond.or p q).eval r = (p.eval r).bind fun t => orElse t (q.eval r) := rfl
  refine ⟨?_, ?_⟩
  · intro hPQ
    by_cases hP : P
    · rw [heval, hp.of_true hP]
      rfl
    · rw [heval, hp.of_false hP]
      exact (hq hP).of_true (hPQ.resolve_left hP)
  · intro hnot
    obtain ⟨hP, hQ⟩ := not_or.mp hnot
    rw [heval, hp.of_false hP]
    exact (hq hP).of_false hQ

/-- `c BETWEEN lo AND hi` on integers. -/
theorem between {a : Scalar} {n lo hi : Int} (ha : a.eval r = .ok (.int n)) :
    (Cond.between a (.lit (.int lo)) (.lit (.int hi))).Decides r (lo ≤ n ∧ n ≤ hi) := by
  have heval : (Cond.between a (.lit (.int lo)) (.lit (.int hi))).eval r =
      .ok (.ofBool (decide (lo ≤ n ∧ n ≤ hi))) := by
    rw [Cond.eval, ha]
    show andThen (.ofBool (decide (lo ≤ n))) (.ok (.ofBool (decide (n ≤ hi)))) = _
    by_cases hlo : lo ≤ n
    · simp [hlo, andThen, Truth.ofBool]
    · simp [hlo, andThen, Truth.ofBool]
  exact (of_eval heval).congr decide_eq_true_iff

end Cond.Decides

-- ============================================================================
-- The CHECK constraints of a table
-- ============================================================================

/-- The CHECK conditions of a table with their names. -/
def TableDef.checks (t : TableDef) : List (Cond × String) :=
  t.constraints.filterMap fun k => match k with
    | .check p name => some (p, name)
    | _ => none

/-- No CHECK rejects the row. -/
def TableDef.Accepts (t : TableDef) (r : Row) : Prop := ∀ k ∈ t.checks, k.1.admits r

/-- No CHECK but possibly the named one rejects the row. -/
def TableDef.AcceptsBut (name : String) (t : TableDef) (r : Row) : Prop :=
  ∀ k ∈ t.checks, k.2 ≠ name → k.1.admits r

instance TableDef.decidableAccepts (t : TableDef) (r : Row) : Decidable (t.Accepts r) :=
  inferInstanceAs (Decidable (∀ _ ∈ _, _))

/-- Every CHECK is true or false on the row. -/
def TableDef.Settles (t : TableDef) (r : Row) : Prop :=
  ∀ k ∈ t.checks, k.1.eval r = .ok .true ∨ k.1.eval r = .ok .false

/-- The CHECKs, in order and under their names, decide the laws. -/
def TableDef.Decides (t : TableDef) (r : Row) (laws : List (String × Prop)) : Prop :=
  List.Forall₂ (fun k law => k.2 = law.1 ∧ k.1.Decides r law.2) t.checks laws

theorem TableDef.Accepts.acceptsBut {t : TableDef} (h : t.Accepts r) (name : String) :
    t.AcceptsBut name r := fun k hk _ => h k hk

theorem TableDef.mem_checks {t : TableDef} {p : Cond} {name : String} :
    (p, name) ∈ t.checks ↔ Constraint.check p name ∈ t.constraints := by
  rw [TableDef.checks, List.mem_filterMap]
  refine ⟨?_, ?_⟩
  · rintro ⟨k, hk, heq⟩
    cases k with
    | check q n =>
        obtain ⟨rfl, rfl⟩ := Prod.mk.inj (Option.some.inj heq)
        exact hk
    | _ => cases heq
  · intro hk
    exact ⟨_, hk, rfl⟩

/-- A stored row of a valid table is accepted. -/
theorem TableDef.Valid.accepts {types : List EnumType} {data : Data} {t : TableDef}
    (h : t.Valid types data) : ∀ r ∈ data t.name, t.Accepts r := by
  rintro r hr ⟨p, name⟩ hk
  exact h.2 _ (TableDef.mem_checks.mp hk) r hr

section Laws

variable {t : TableDef} {laws : List (String × Prop)}

/-- What holds alike of corresponding elements holds of all of either list. -/
theorem forall_mem_congr_of_forall₂ {α β : Type*} {R : α → β → Prop} {p : α → Prop} {q : β → Prop}
    {l : List α} {m : List β} (h : List.Forall₂ R l m) (hpq : ∀ a b, R a b → (p a ↔ q b)) :
    (∀ a ∈ l, p a) ↔ ∀ b ∈ m, q b := by
  induction h with
  | nil => simp
  | cons hab _ ih => rw [List.forall_mem_cons, List.forall_mem_cons, hpq _ _ hab, ih]

theorem TableDef.Decides.settles (h : t.Decides r laws) : t.Settles r := by
  rw [TableDef.Settles, forall_mem_congr_of_forall₂ (q := fun _ => True) h]
  · simp
  · rintro k law ⟨-, hdecides⟩
    exact iff_true_intro hdecides.twoValued

/-- A table whose CHECKs are decided accepts the rows that meet the laws. -/
theorem TableDef.Decides.accepts_iff (h : t.Decides r laws) :
    t.Accepts r ↔ ∀ law ∈ laws, law.2 := by
  apply forall_mem_congr_of_forall₂ h
  rintro k law ⟨-, hdecides⟩
  exact hdecides.admits_iff

/-- With one CHECK set aside it accepts those that meet the other laws. -/
theorem TableDef.Decides.acceptsBut_iff (h : t.Decides r laws) {name : String} :
    t.AcceptsBut name r ↔ ∀ law ∈ laws, law.1 ≠ name → law.2 := by
  apply forall_mem_congr_of_forall₂ h
  rintro k law ⟨hname, hdecides⟩
  rw [hname, hdecides.admits_iff]

end Laws

end Sql
