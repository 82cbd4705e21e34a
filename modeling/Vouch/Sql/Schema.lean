/-
  Vouch.Sql.Schema

  Table definitions, their constraints, and when stored rows satisfy them.

  Foreign keys are MATCH SIMPLE: a row with a NULL in the key is not checked.
  UNIQUE and EXCLUDE compare non-null values only, and an exclusion constraint
  looks only at the rows its WHERE selects.
-/

import Vouch.Sql.Value

namespace Sql

-- ============================================================================
-- Definitions
-- ============================================================================

inductive SqlType where
  | uuid
  | text
  | boolean
  | integer
  | numeric (precision scale : Nat)
  | date
  | timestamptz
  | jsonb
  | enum (name : String)
deriving DecidableEq, Repr

/-- `CREATE TYPE name AS ENUM (labels)`. -/
structure EnumType where
  name : String
  labels : List String
deriving DecidableEq, Repr

/-- A server default: a literal, read at the column's type, or a function call. -/
inductive Default where
  | literal (text : String)
  | call (function : String)
deriving DecidableEq, Repr

structure Column where
  name : String
  type : SqlType
  nullable : Bool := true
  default : Option Default := none
deriving DecidableEq, Repr

/-- A table constraint.  `exclude name key lo hi p` is
    `EXCLUDE USING gist (key WITH =, daterange(lo, hi, '[]') WITH &&) WHERE (p)`. -/
inductive Constraint where
  | primaryKey (columns : List String)
  | unique (columns : List String) (name : Option String)
  | foreignKey (columns : List String) (refTable : String) (refColumns : List String)
      (name : Option String)
  | check (condition : Cond) (name : String)
  | exclude (name key lo hi : String) (condition : Cond)

structure TableDef where
  name : String
  columns : List Column
  constraints : List Constraint

/-- A non-unique index; it speeds queries up and constrains no row. -/
structure Index where
  name : String
  table : String
  columns : List String
  condition : Option Cond := none

structure Schema where
  types : List EnumType
  tables : List TableDef
  indexes : List Index

/-- The rows of every table, in physical order. -/
abbrev Data := String → List Row

-- ============================================================================
-- Column values
-- ============================================================================

/-- A non-null value belongs to the type. -/
def SqlType.fits (types : List EnumType) : SqlType → Value → Bool
  | .uuid, .uuid _ => Bool.true
  | .text, .text _ => Bool.true
  | .boolean, .bool _ => Bool.true
  | .integer, .int n => -2 ^ 31 ≤ n && n < 2 ^ 31
  | .numeric p _, .numeric n => n.natAbs < 10 ^ p
  | .date, .date _ => Bool.true
  | .timestamptz, .timestamptz _ => Bool.true
  | .jsonb, .jsonb _ => Bool.true
  | .enum name, .enum l => types.any fun e => e.name == name && e.labels.contains l
  | _, _ => Bool.false

/-- The value may stand in the column. -/
def Column.fits (types : List EnumType) (c : Column) (v : Value) : Bool :=
  if v.isNull then c.nullable else c.type.fits types v

/-- The row has exactly the table's columns, each with a value that fits. -/
def TableDef.Conforms (types : List EnumType) (t : TableDef) (r : Row) : Prop :=
  (r.map Prod.fst).Perm (t.columns.map Column.name) ∧
    ∀ c ∈ t.columns, c.fits types (r.get c.name)

-- ============================================================================
-- Constraints
-- ============================================================================

/-- The two rows agree, without NULLs, on paired columns. -/
def Row.agree (r : Row) (columns : List String) (s : Row) (refColumns : List String) : Bool :=
  (columns.zip refColumns).all fun p => (r.get p.1).sameKey (s.get p.2)

/-- A canonical `daterange`: the days from `lower` up to but not including
    `upper`; `none` is unbounded. -/
structure DateRange where
  lower : Option Int
  upper : Option Int
deriving DecidableEq, Repr

/-- `daterange(lo, hi, '[]')`, brought to its canonical half-open form. -/
def daterange : Value → Value → Except EvalError DateRange
  | .date lo, .date hi =>
      if lo ≤ hi then .ok ⟨some lo, some (hi + 1)⟩ else .error .rangeBounds
  | .date lo, .null => .ok ⟨some lo, none⟩
  | .null, .date hi => .ok ⟨none, some (hi + 1)⟩
  | .null, .null => .ok ⟨none, none⟩
  | _, _ => .error .notADate

/-- `lower < upper`, where a missing bound is infinite. -/
def boundLt : Option Int → Option Int → Bool
  | some a, some b => a < b
  | _, _ => Bool.true

/-- `&&` of two non-empty canonical ranges. -/
def DateRange.overlaps (a b : DateRange) : Bool :=
  boundLt a.lower b.upper && boundLt b.lower a.upper

/-- `&&` of two computed ranges. -/
def overlapping : Except EvalError DateRange → Except EvalError DateRange → Bool
  | .ok a, .ok b => a.overlaps b
  | _, _ => Bool.true

/-- The two rows may not stand together under the exclusion constraint. -/
def excluded (key lo hi : String) (p : Cond) (r s : Row) : Prop :=
  p.selects r ∧ p.selects s ∧ (r.get key).sameKey (s.get key) ∧
    overlapping (daterange (r.get lo) (r.get hi)) (daterange (s.get lo) (s.get hi))

/-- The range of a row can be computed, if the constraint looks at it. -/
def rangeDefined (lo hi : String) (p : Cond) (r : Row) : Prop :=
  p.selects r → (daterange (r.get lo) (r.get hi)).isOk

/-- The constraint, declared on `table`, is satisfied. -/
def Constraint.Holds (data : Data) (table : String) : Constraint → Prop
  | .primaryKey cs =>
      (∀ r ∈ data table, ∀ c ∈ cs, (r.get c).isNull = Bool.false) ∧
        (data table).Pairwise fun r s => ¬ r.agree cs s cs
  | .unique cs _ => (data table).Pairwise fun r s => ¬ r.agree cs s cs
  | .foreignKey cs ref refCs _ =>
      ∀ r ∈ data table, (∃ c ∈ cs, (r.get c).isNull) ∨ ∃ s ∈ data ref, r.agree cs s refCs
  | .check p _ => ∀ r ∈ data table, p.admits r
  | .exclude _ key lo hi p =>
      (∀ r ∈ data table, rangeDefined lo hi p r) ∧
        (data table).Pairwise fun r s => ¬ excluded key lo hi p r s

/-- All rows conform and all constraints hold. -/
def TableDef.Valid (types : List EnumType) (data : Data) (t : TableDef) : Prop :=
  (∀ r ∈ data t.name, t.Conforms types r) ∧ ∀ k ∈ t.constraints, k.Holds data t.name

/-- The stored rows satisfy everything the schema declares. -/
def Schema.Valid (S : Schema) (data : Data) : Prop :=
  ∀ t ∈ S.tables, t.Valid S.types data

instance (types : List EnumType) (t : TableDef) (r : Row) : Decidable (t.Conforms types r) :=
  inferInstanceAs (Decidable (_ ∧ _))

instance (key lo hi : String) (p : Cond) (r s : Row) : Decidable (excluded key lo hi p r s) :=
  inferInstanceAs (Decidable (_ ∧ _ ∧ _ ∧ _))

instance (lo hi : String) (p : Cond) (r : Row) : Decidable (rangeDefined lo hi p r) :=
  inferInstanceAs (Decidable (_ → _))

instance (data : Data) (table : String) : (k : Constraint) → Decidable (k.Holds data table)
  | .primaryKey _ => inferInstanceAs (Decidable (_ ∧ _))
  | .unique _ _ => inferInstanceAs (Decidable (List.Pairwise _ _))
  | .foreignKey _ _ _ _ => inferInstanceAs (Decidable (∀ _ ∈ _, _))
  | .check _ _ => inferInstanceAs (Decidable (∀ _ ∈ _, _))
  | .exclude _ _ _ _ _ => inferInstanceAs (Decidable (_ ∧ _))

instance (types : List EnumType) (data : Data) (t : TableDef) : Decidable (t.Valid types data) :=
  inferInstanceAs (Decidable (_ ∧ _))

instance (S : Schema) (data : Data) : Decidable (S.Valid data) :=
  inferInstanceAs (Decidable (∀ _ ∈ _, _))

end Sql
