/-
  Vouch.Sql.Value

  SQL values, rows, three-valued truth, and the boolean expressions of CHECK
  constraints and WHERE clauses.

  Comparisons with NULL are unknown, AND and OR follow Kleene's tables, and
  both stop at the first operand that settles them, so an operand that would
  raise (`jsonb_array_length` of a non-array) is not reached behind a guard.
  A CHECK admits a row unless it is false; a WHERE keeps one only if it is true.

  The stored values are finite: a `timestamptz` lies within Python's calendar, a
  `date` is a day, within it or not, and a `numeric` is a number.  PostgreSQL also
  stores later timestamps, infinite dates and timestamps, and NaN; states that
  hold them are left out.  So is one rule of the driver: it sends `date.max` as
  `infinity`, which compares like that day except with stored dates from it on.
-/

import Vouch.Py.Library

namespace Sql

open Py (UUID Instant Json)

-- ============================================================================
-- Truth values
-- ============================================================================

/-- SQL's `boolean` with NULL as `unknown`. -/
inductive Truth where
  | true
  | false
  | unknown
deriving DecidableEq, Repr

def Truth.ofBool (b : Bool) : Truth := if b then .true else .false

def Truth.not : Truth → Truth
  | .true => .false
  | .false => .true
  | .unknown => .unknown

-- ============================================================================
-- Values and rows
-- ============================================================================

/-- A stored value.  A `numeric` is its unscaled integer at the column's scale,
    so `12.50` in a `numeric(12, 2)` column is `1250`. -/
inductive Value where
  | null
  | bool (b : Bool)
  | int (n : Int)
  | numeric (unscaled : Int)
  | text (s : String)
  | enum (label : String)
  | uuid (u : UUID)
  | date (day : Int)
  | timestamptz (t : Instant)
  | jsonb (j : Json)

/-- `IS NULL`. -/
def Value.isNull : Value → Bool
  | .null => Bool.true
  | _ => Bool.false

/-- Equality of two non-null values of one comparable type. -/
def Value.equal? : Value → Value → Option Bool
  | .bool a, .bool b => some (a == b)
  | .int a, .int b => some (a == b)
  | .numeric a, .numeric b => some (a == b)
  | .text a, .text b => some (a == b)
  | .enum a, .enum b => some (a == b)
  | .uuid a, .uuid b => some (a == b)
  | .date a, .date b => some (a == b)
  | .timestamptz a, .timestamptz b => some (a == b)
  | _, _ => none

/-- `a ≤ b` for two non-null values of one ordered type. -/
def Value.le? : Value → Value → Option Bool
  | .int a, .int b => some (a ≤ b)
  | .numeric a, .numeric b => some (a ≤ b)
  | .uuid a, .uuid b => some (a ≤ b)
  | .date a, .date b => some (a ≤ b)
  | .timestamptz a, .timestamptz b => some (a ≤ b)
  | _, _ => none

/-- The two values are equal and neither is NULL: what keys compare. -/
def Value.sameKey (a b : Value) : Bool := a.equal? b = some Bool.true

/-- A row: column names with their values. -/
abbrev Row := List (String × Value)

/-- The value of a column; a column the row lacks reads as NULL. -/
def Row.get (r : Row) (c : String) : Value := (r.lookup c).getD .null

-- ============================================================================
-- Expressions
-- ============================================================================

/-- A scalar of an expression. -/
inductive Scalar where
  | col (name : String)
  | lit (v : Value)
  | jsonbTypeof (name : String)
  | jsonbArrayLength (name : String)

inductive CmpOp where
  | eq | ne | lt | le | gt | ge
deriving DecidableEq, Repr

/-- A boolean expression. -/
inductive Cond where
  | cmp (op : CmpOp) (a b : Scalar)
  | isNull (a : Scalar)
  | isNotNull (a : Scalar)
  | between (a lo hi : Scalar)
  | inList (a : Scalar) (vs : List Value)
  | and (p q : Cond)
  | or (p q : Cond)
  | not (p : Cond)

/-- The statement fails while evaluating an expression. -/
inductive EvalError where
  | notAnArray
  | rangeBounds
  | notADate
deriving DecidableEq, Repr

/-- The name `jsonb_typeof` gives. -/
def jsonTypeName : Json → String
  | .null => "null"
  | .bool _ => "boolean"
  | .int _ => "number"
  | .float _ _ _ => "number"
  | .nan => "number"
  | .infinity _ => "number"
  | .str _ => "string"
  | .arr _ => "array"
  | .obj _ => "object"

def Scalar.eval (r : Row) : Scalar → Except EvalError Value
  | .col c => .ok (r.get c)
  | .lit v => .ok v
  | .jsonbTypeof c =>
      match r.get c with
      | .jsonb j => .ok (.text (jsonTypeName j))
      | _ => .ok .null
  | .jsonbArrayLength c =>
      match r.get c with
      | .jsonb (.arr xs) => .ok (.int xs.length)
      | .jsonb _ => .error .notAnArray
      | _ => .ok .null

theorem Scalar.eval_col {r : Row} {c : String} {v : Value} (h : r.get c = v) :
    (Scalar.col c).eval r = .ok v := by
  rw [Scalar.eval, h]

/-- A comparison; unknown when an operand is NULL. -/
def CmpOp.eval (op : CmpOp) (a b : Value) : Truth :=
  let result : Option Bool := match op with
    | .eq => a.equal? b
    | .ne => (a.equal? b).map (!·)
    | .le => a.le? b
    | .ge => b.le? a
    | .lt => (b.le? a).map (!·)
    | .gt => (a.le? b).map (!·)
  match result with
  | some x => .ofBool x
  | none => .unknown

/-- AND of an evaluated operand and one still to be evaluated. -/
def andThen (p : Truth) (q : Except EvalError Truth) : Except EvalError Truth :=
  match p with
  | .false => .ok .false
  | .true => q
  | .unknown => q.map (fun t => if t = .false then .false else .unknown)

/-- OR of an evaluated operand and one still to be evaluated. -/
def orElse (p : Truth) (q : Except EvalError Truth) : Except EvalError Truth :=
  match p with
  | .true => .ok .true
  | .false => q
  | .unknown => q.map (fun t => if t = .true then .true else .unknown)

def Cond.eval (r : Row) : Cond → Except EvalError Truth
  | .cmp op a b => do return op.eval (← a.eval r) (← b.eval r)
  | .isNull a => do return .ofBool (← a.eval r).isNull
  | .isNotNull a => do return .ofBool (!(← a.eval r).isNull)
  | .between a lo hi => do
      let v ← a.eval r
      andThen (CmpOp.ge.eval v (← lo.eval r)) (.ok (CmpOp.le.eval v (← hi.eval r)))
  | .inList a vs => do
      let v ← a.eval r
      vs.foldr (fun w acc => orElse (CmpOp.eq.eval v w) acc) (.ok .false)
  | .and p q => do andThen (← p.eval r) (q.eval r)
  | .or p q => do orElse (← p.eval r) (q.eval r)
  | .not p => do return (← p.eval r).not

/-- The row passes as a CHECK: the expression evaluates, and not to false. -/
def Cond.admits (p : Cond) (r : Row) : Prop := ∃ t, p.eval r = .ok t ∧ t ≠ .false

/-- The row passes as a WHERE: the expression evaluates to true. -/
def Cond.selects (p : Cond) (r : Row) : Prop := p.eval r = .ok .true

instance : DecidableEq (Except EvalError Truth)
  | .ok a, .ok b => decidable_of_iff (a = b) (by simp)
  | .error a, .error b => decidable_of_iff (a = b) (by simp)
  | .ok _, .error _ => isFalse (by simp)
  | .error _, .ok _ => isFalse (by simp)

instance (p : Cond) (r : Row) : Decidable (p.admits r) :=
  match h : p.eval r with
  | .ok t => decidable_of_iff (t ≠ .false) (by simp [Cond.admits, h])
  | .error _ => isFalse (by simp [Cond.admits, h])

instance (p : Cond) (r : Row) : Decidable (p.selects r) :=
  inferInstanceAs (Decidable (_ = _))

-- ============================================================================
-- The columns an expression reads
-- ============================================================================

def Scalar.columns : Scalar → List String
  | .col c => [c]
  | .lit _ => []
  | .jsonbTypeof c => [c]
  | .jsonbArrayLength c => [c]

def Cond.columns : Cond → List String
  | .cmp _ a b => a.columns ++ b.columns
  | .isNull a => a.columns
  | .isNotNull a => a.columns
  | .between a lo hi => a.columns ++ lo.columns ++ hi.columns
  | .inList a _ => a.columns
  | .and p q => p.columns ++ q.columns
  | .or p q => p.columns ++ q.columns
  | .not p => p.columns

theorem Scalar.eval_congr {a : Scalar} {r s : Row} (h : ∀ c ∈ a.columns, r.get c = s.get c) :
    a.eval r = a.eval s := by
  rcases a with c | v | c | c
  · simp only [Scalar.eval, h c (List.mem_singleton_self c)]
  · rfl
  · simp only [Scalar.eval, h c (List.mem_singleton_self c)]
  · simp only [Scalar.eval, h c (List.mem_singleton_self c)]

/-- An expression reads nothing but its columns. -/
theorem Cond.eval_congr {p : Cond} {r s : Row} (h : ∀ c ∈ p.columns, r.get c = s.get c) :
    p.eval r = p.eval s := by
  induction p with
  | cmp op a b =>
      simp only [Cond.columns, List.forall_mem_append] at h
      simp only [Cond.eval, Scalar.eval_congr h.1, Scalar.eval_congr h.2]
  | isNull a => simp only [Cond.eval, Scalar.eval_congr h]
  | isNotNull a => simp only [Cond.eval, Scalar.eval_congr h]
  | between a lo hi =>
      simp only [Cond.columns, List.forall_mem_append] at h
      simp only [Cond.eval, Scalar.eval_congr h.1.1, Scalar.eval_congr h.1.2,
        Scalar.eval_congr h.2]
  | inList a vs => simp only [Cond.eval, Scalar.eval_congr h]
  | and p q ihp ihq =>
      simp only [Cond.columns, List.forall_mem_append] at h
      simp only [Cond.eval, ihp h.1, ihq h.2]
  | or p q ihp ihq =>
      simp only [Cond.columns, List.forall_mem_append] at h
      simp only [Cond.eval, ihp h.1, ihq h.2]
  | not p ih => simp only [Cond.eval, ih h]

theorem Cond.admits_congr {p : Cond} {r s : Row} (h : ∀ c ∈ p.columns, r.get c = s.get c) :
    p.admits r ↔ p.admits s := by
  simp only [Cond.admits, Cond.eval_congr h]

theorem Cond.selects_congr {p : Cond} {r s : Row} (h : ∀ c ∈ p.columns, r.get c = s.get c) :
    p.selects r ↔ p.selects s := by
  simp only [Cond.selects, Cond.eval_congr h]

end Sql
