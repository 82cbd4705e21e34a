/-
  Vouch.Sql.Query

  `SELECT table.* FROM table [JOIN …] WHERE … ORDER BY … LIMIT …`, evaluated on
  stored rows.

  Expressions are three-valued and name the columns of the tables in scope; an
  `EXISTS` brings the rows of its own table into scope and can refer to the rows
  outside.  JOIN, WHERE and EXISTS keep what is true, not what is unknown.

  `Query.run_mapRows` is the frame rule: a query reads rows column by column, so
  rewriting them without changing a value rewrites its result and no more.
-/

import Mathlib.Data.List.Sort
import Vouch.Sql.Preserve

namespace Sql

open Py (Instant Timestamptz)

-- ============================================================================
-- Three-valued connectives
-- ============================================================================

def Truth.and : Truth → Truth → Truth
  | .false, _ => .false
  | _, .false => .false
  | .true, .true => .true
  | _, _ => .unknown

def Truth.or : Truth → Truth → Truth
  | .true, _ => .true
  | _, .true => .true
  | .false, .false => .false
  | _, _ => .unknown

@[simp] theorem Truth.and_ofBool (a b : Bool) :
    Truth.and (.ofBool a) (.ofBool b) = .ofBool (a && b) := by
  cases a <;> cases b <;> rfl

@[simp] theorem Truth.not_ofBool (a : Bool) : Truth.not (.ofBool a) = .ofBool (!a) := by
  cases a <;> rfl

@[simp] theorem Truth.ofBool_eq_true {a : Bool} : Truth.ofBool a = .true ↔ a = Bool.true := by
  cases a <;> simp [Truth.ofBool]

@[simp] theorem Truth.decide_ofBool (a : Bool) : decide (Truth.ofBool a = .true) = a := by
  cases a <;> rfl

-- ============================================================================
-- Expressions
-- ============================================================================

/-- The rows in scope, innermost first, under the names of their tables. -/
abbrev Scope := List (String × Row)

/-- `table.column`; NULL where no such column is in scope. -/
def Scope.get (env : Scope) (table column : String) : Value :=
  ((env.lookup table).getD []).get column

theorem Scope.get_self (env : Scope) (table column : String) (r : Row) :
    Scope.get ((table, r) :: env) table column = r.get column := by
  rw [Scope.get, List.lookup_cons, beq_self_eq_true]
  rfl

theorem Scope.get_of_ne (env : Scope) {table other : String} (column : String) (r : Row)
    (h : table ≠ other) : Scope.get ((other, r) :: env) table column = env.get table column := by
  rw [Scope.get, List.lookup_cons, beq_false_of_ne h, Scope.get]

/-- An operand's value.  A `timestamptz` that a client sends may be infinite,
    one that is stored is not. -/
inductive Datum where
  | value (v : Value)
  | timestamptz (t : Timestamptz)

inductive Operand where
  | col (table column : String)
  | param (v : Value)
  | timestamptz (t : Timestamptz)

def Operand.eval (env : Scope) : Operand → Datum
  | .col table column => .value (env.get table column)
  | .param v => .value v
  | .timestamptz t => .timestamptz t

/-- Both operands, where they are timestamps. -/
def Datum.timestamps : Datum → Datum → Option (Timestamptz × Timestamptz)
  | .value (.timestamptz t), .timestamptz z => some (Timestamptz.ofInstant t, z)
  | .timestamptz z, .value (.timestamptz t) => some (z, Timestamptz.ofInstant t)
  | .timestamptz z, .timestamptz w => some (z, w)
  | _, _ => none

/-- A comparison of timestamps. -/
def CmpOp.onTimestamps (op : CmpOp) (z w : Timestamptz) : Bool :=
  match op with
  | .eq => z = w
  | .ne => z ≠ w
  | .lt => z < w
  | .le => z ≤ w
  | .gt => w < z
  | .ge => w ≤ z

/-- A comparison; unknown when an operand is NULL. -/
def CmpOp.compare (op : CmpOp) (a b : Datum) : Truth :=
  match a, b with
  | .value v, .value w => op.eval v w
  | a, b =>
      match Datum.timestamps a b with
      | some (z, w) => .ofBool (op.onTimestamps z w)
      | none => .unknown

/-- A boolean expression of a query. -/
inductive Expr where
  | cmp (op : CmpOp) (a b : Operand)
  /-- `table.column IS true` -/
  | isTrue (table column : String)
  /-- `table.column IS NULL` -/
  | isNull (table column : String)
  | inList (a : Operand) (vs : List Value)
  | and (p q : Expr)
  | not (p : Expr)
  /-- `EXISTS (SELECT … FROM table WHERE p)` -/
  | existsIn (table : String) (p : Expr)

/-- `v IS true` -/
def Value.isTrue : Value → Bool
  | .bool b => b
  | _ => Bool.false

def Expr.eval (d : Data) : Scope → Expr → Truth
  | env, .cmp op a b => op.compare (a.eval env) (b.eval env)
  | env, .isTrue table column => .ofBool (env.get table column).isTrue
  | env, .isNull table column => .ofBool (env.get table column).isNull
  | env, .inList a vs =>
      vs.foldr (fun v acc => Truth.or (CmpOp.eq.compare (a.eval env) (.value v)) acc) .false
  | env, .and p q => Truth.and (p.eval d env) (q.eval d env)
  | env, .not p => (p.eval d env).not
  | env, .existsIn table p => .ofBool ((d table).any fun r => p.eval d ((table, r) :: env) = .true)

-- ============================================================================
-- Queries
-- ============================================================================

/-- `SELECT table.* FROM table JOIN … WHERE … ORDER BY … LIMIT …` -/
structure Query where
  table : String
  /-- `JOIN other ON condition` -/
  join : Option (String × Expr) := none
  /-- The conjuncts of the WHERE clause. -/
  conditions : List Expr := []
  /-- Columns of `table`, ascending. -/
  orderBy : List String := []
  limit : Option Nat := none

/-- Two values at one place in the order: NULLs count as equal. -/
def Value.sortsWith (v w : Value) : Bool := (v.isNull && w.isNull) || v.sameKey w

/-- Ascending order puts NULLs last. -/
def Value.sortsUpTo (v w : Value) : Bool := !v.isNull && (w.isNull || v.le? w = some Bool.true)

/-- The row stands before the other one, or at its place. -/
def Row.sortsUpTo : List String → Row → Row → Bool
  | [], _, _ => Bool.true
  | c :: cs, r, s =>
      if (r.get c).sortsWith (s.get c) then Row.sortsUpTo cs r s else (r.get c).sortsUpTo (s.get c)

/-- The FROM clause: each row of the table, with the rows it is joined with. -/
def Query.source (d : Data) (q : Query) : List Scope :=
  match q.join with
  | none => (d q.table).map fun r => [(q.table, r)]
  | some (other, condition) =>
      (d q.table).flatMap fun r =>
        ((d other).map fun s => [(other, s), (q.table, r)]).filter fun env =>
          condition.eval d env = .true

/-- The rows of the table for which every conjunct is true. -/
def Query.selected (d : Data) (q : Query) : List Row :=
  ((q.source d).filter fun env => q.conditions.all fun p => p.eval d env = .true).map fun env =>
    (env.lookup q.table).getD []

/-- The result.  Rows at one place of the order keep the order of the FROM
    clause; PostgreSQL may return them in any. -/
def Query.run (d : Data) (q : Query) : List Row :=
  let rows := q.selected d
  let rows :=
    if q.orderBy = [] then rows else rows.insertionSort fun r s => Row.sortsUpTo q.orderBy r s
  match q.limit with
  | some n => rows.take n
  | none => rows

-- ============================================================================
-- The frame rule
-- ============================================================================

section Frame

variable {f : String → Row → Row} {d : Data}

/-- The scope with its rows rewritten. -/
def Scope.rewrite (f : String → Row → Row) (env : Scope) : Scope :=
  env.map fun p => (p.1, f p.1 p.2)

/-- Every row in scope is stored in its table. -/
def Scope.Stored (d : Data) (env : Scope) : Prop := ∀ p ∈ env, p.2 ∈ d p.1

theorem lookup_mem {env : Scope} {table : String} {r : Row} (h : env.lookup table = some r) :
    (table, r) ∈ env := by
  induction env with
  | nil => cases h
  | cons p env ih =>
    rw [List.lookup_cons] at h
    by_cases hp : table = p.1
    · subst hp
      rw [beq_self_eq_true] at h
      obtain rfl := Option.some.inj h
      exact List.mem_cons_self
    · rw [beq_false_of_ne hp] at h
      exact List.mem_cons_of_mem _ (ih h)

theorem lookup_rewrite (env : Scope) (table : String) :
    (env.rewrite f).lookup table = (env.lookup table).map (f table) := by
  induction env with
  | nil => rfl
  | cons p env ih =>
    rw [Scope.rewrite] at ih
    rw [Scope.rewrite, List.map_cons, List.lookup_cons, List.lookup_cons]
    by_cases hp : table = p.1
    · subst hp
      rw [beq_self_eq_true]
      rfl
    · rw [beq_false_of_ne hp]
      exact ih

variable (hf : ∀ t, ∀ r ∈ d t, ∀ c, (f t r).get c = r.get c)

include hf

/-- Columns in scope keep their values. -/
theorem get_rewrite {env : Scope} (henv : env.Stored d) (table column : String) :
    (env.rewrite f).get table column = env.get table column := by
  rw [Scope.get, Scope.get, lookup_rewrite]
  cases h : env.lookup table with
  | none => rfl
  | some r => exact hf table r (henv _ (lookup_mem h)) column

theorem operand_rewrite {env : Scope} (henv : env.Stored d) (a : Operand) :
    a.eval (env.rewrite f) = a.eval env := by
  cases a with
  | col table column => rw [Operand.eval, Operand.eval, get_rewrite hf henv]
  | param v => rfl
  | timestamptz t => rfl

/-- An expression keeps its value. -/
theorem eval_rewrite (p : Expr) {env : Scope} (henv : env.Stored d) :
    p.eval (d.mapRows f) (env.rewrite f) = p.eval d env := by
  induction p generalizing env with
  | cmp op a b =>
    rw [Expr.eval, Expr.eval, operand_rewrite hf henv, operand_rewrite hf henv]
  | isTrue table column => rw [Expr.eval, Expr.eval, get_rewrite hf henv]
  | isNull table column => rw [Expr.eval, Expr.eval, get_rewrite hf henv]
  | inList a vs => rw [Expr.eval, Expr.eval, operand_rewrite hf henv]
  | and p q ihp ihq => rw [Expr.eval, Expr.eval, ihp henv, ihq henv]
  | not p ih => rw [Expr.eval, Expr.eval, ih henv]
  | existsIn table p ih =>
    rw [Expr.eval, Expr.eval, Data.mapRows, List.any_map]
    congr 1
    rw [Bool.eq_iff_iff, List.any_eq_true, List.any_eq_true]
    refine exists_congr fun r => and_congr_right fun hr => ?_
    have hscope : Scope.Stored d ((table, r) :: env) := List.forall_mem_cons.mpr ⟨hr, henv⟩
    have hrow : p.eval (d.mapRows f) ((table, f table r) :: env.rewrite f) =
        p.eval d ((table, r) :: env) := ih hscope
    rw [Function.comp_apply, hrow]

namespace Query

variable (q : Query)

omit hf in
theorem stored_of_source {env : Scope} (h : env ∈ q.source d) : env.Stored d := by
  rw [source] at h
  split at h
  · obtain ⟨r, hr, rfl⟩ := List.mem_map.mp h
    exact List.forall_mem_singleton.mpr hr
  · obtain ⟨r, hr, h⟩ := List.mem_flatMap.mp h
    obtain ⟨s, hs, rfl⟩ := List.mem_map.mp (List.mem_filter.mp h).1
    exact List.forall_mem_cons.mpr ⟨hs, List.forall_mem_singleton.mpr hr⟩

omit hf in
/-- The selected table is in scope. -/
theorem lookup_source {env : Scope} (h : env ∈ q.source d) :
    ∃ r ∈ d q.table, env.lookup q.table = some r := by
  rw [source] at h
  split at h
  · obtain ⟨r, hr, rfl⟩ := List.mem_map.mp h
    exact ⟨r, hr, by rw [List.lookup_cons, beq_self_eq_true]⟩
  · rename_i other condition _
    obtain ⟨r, hr, h⟩ := List.mem_flatMap.mp h
    obtain ⟨s, hs, rfl⟩ := List.mem_map.mp (List.mem_filter.mp h).1
    by_cases hself : q.table = other
    · exact ⟨s, hself ▸ hs, by rw [List.lookup_cons, hself, beq_self_eq_true]⟩
    · exact ⟨r, hr, by rw [List.lookup_cons, beq_false_of_ne hself, List.lookup_cons,
        beq_self_eq_true]⟩

theorem source_rewrite : q.source (d.mapRows f) = (q.source d).map (Scope.rewrite f) := by
  rw [source, source]
  cases q.join with
  | none =>
    show ((d q.table).map _).map _ = ((d q.table).map _).map _
    rw [List.map_map, List.map_map]
    rfl
  | some j =>
    obtain ⟨other, condition⟩ := j
    show ((d q.table).map (f q.table)).flatMap _ = _
    rw [List.flatMap_map, List.map_flatMap]
    apply List.flatMap_congr
    intro r hr
    show (((d other).map (f other)).map _).filter _ = _
    rw [List.map_map, List.filter_map, List.filter_map, List.map_map]
    have hkeep : ∀ s ∈ d other,
        condition.eval (d.mapRows f) [(other, f other s), (q.table, f q.table r)] =
          condition.eval d [(other, s), (q.table, r)] := by
      intro s hs
      have hscope : Scope.Stored d [(other, s), (q.table, r)] :=
        List.forall_mem_cons.mpr ⟨hs, List.forall_mem_singleton.mpr hr⟩
      exact eval_rewrite hf condition hscope
    exact congrArg (List.map fun s => Scope.rewrite f [(other, s), (q.table, r)])
      (List.filter_congr fun s hs => congrArg (fun t => decide (t = Truth.true)) (hkeep s hs))

theorem selected_rewrite : q.selected (d.mapRows f) = (q.selected d).map (f q.table) := by
  rw [selected, selected, source_rewrite hf, List.filter_map, List.map_map, List.map_map]
  have hconditions : ∀ env ∈ q.source d,
      (q.conditions.all fun p => p.eval (d.mapRows f) (env.rewrite f) = .true) =
        q.conditions.all fun p => p.eval d env = .true := by
    intro env henv
    simp only [eval_rewrite hf _ (q.stored_of_source henv)]
  rw [show ((fun env : Scope => q.conditions.all fun p => p.eval (d.mapRows f) env = .true) ∘
    Scope.rewrite f) = fun env => q.conditions.all fun p =>
      p.eval (d.mapRows f) (env.rewrite f) = .true from rfl, List.filter_congr hconditions]
  apply List.map_congr_left
  intro env henv
  obtain ⟨r, -, hr⟩ := q.lookup_source (List.mem_filter.mp henv).1
  rw [Function.comp_apply, Function.comp_apply, lookup_rewrite, hr]
  rfl

omit hf in
theorem stored_of_selected {r : Row} (h : r ∈ q.selected d) : r ∈ d q.table := by
  obtain ⟨env, henv, rfl⟩ := List.mem_map.mp h
  obtain ⟨r, hr, hlookup⟩ := q.lookup_source (List.mem_filter.mp henv).1
  rw [hlookup]
  exact hr

omit hf in
theorem sortsUpTo_congr {cs : List String} {r r' s s' : Row} (hr : ∀ c, r'.get c = r.get c)
    (hs : ∀ c, s'.get c = s.get c) : Row.sortsUpTo cs r' s' = Row.sortsUpTo cs r s := by
  induction cs with
  | nil => rfl
  | cons c cs ih => rw [Row.sortsUpTo, Row.sortsUpTo, ih, hr, hs]

/-- The frame rule: no value changed, none in the result. -/
theorem run_mapRows : q.run (d.mapRows f) = (q.run d).map (f q.table) := by
  have hsorted : ((q.selected d).map (f q.table)).insertionSort
      (fun r s => Row.sortsUpTo q.orderBy r s) =
        ((q.selected d).insertionSort fun r s => Row.sortsUpTo q.orderBy r s).map (f q.table) := by
    refine (List.map_insertionSort _ _ _ _ fun r hr s hs => ?_).symm
    rw [sortsUpTo_congr (hf _ r (q.stored_of_selected hr)) (hf _ s (q.stored_of_selected hs))]
  rw [run, run, selected_rewrite hf, hsorted]
  split <;> split <;> simp only [List.map_take]

end Query

end Frame

/-- A query returns rows of its table. -/
theorem Query.stored_of_run {d : Data} {q : Query} {r : Row} (h : r ∈ q.run d) : r ∈ d q.table := by
  apply q.stored_of_selected
  rw [run] at h
  split at h
  · have h := List.mem_of_mem_take h
    split at h
    · exact h
    · exact (List.mem_insertionSort _).mp h
  · split at h
    · exact h
    · exact (List.mem_insertionSort _).mp h

end Sql
