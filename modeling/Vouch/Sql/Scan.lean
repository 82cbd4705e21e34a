/-
  Vouch.Sql.Scan

  Which rows a query reads, and in which order.

  A scan of a table yields its rows in some order, and may leave out those that
  no condition of the query can pass, as the scan of a partial index does.  If
  nothing else in the query reads the table, the scan selects the same rows
  (`selected_perm`); and then an ORDER BY that tells the selected rows apart
  returns the same result (`run_of_ordered`), as does a query that selects no
  more than one row (`run_of_single`).
-/

import Vouch.Sql.Query

namespace Sql

-- ============================================================================
-- Scans
-- ============================================================================

theorem Cond.selects_and {p q : Cond} {r : Row} (hp : p.selects r) (hq : q.selects r) :
    (Cond.and p q).selects r := by
  rw [Cond.selects] at hp hq
  rw [Cond.selects, Cond.eval, hp]
  exact hq

/-- The rows of the index. -/
def Index.Covers (ix : Index) (r : Row) : Prop := ∀ p ∈ ix.condition, p.selects r

instance (ix : Index) (r : Row) : Decidable (ix.Covers r) :=
  inferInstanceAs (Decidable (∀ _ ∈ _, _))

/-- What is read of the data: of one table the covered rows, all rows of the
    others, each table in any order. -/
structure Scans (table : String) (covers : Row → Bool) (d d' : Data) : Prop where
  scanned : (d' table).Perm ((d table).filter covers)
  others : ∀ name ≠ table, (d' name).Perm (d name)

/-- No subquery reads the table. -/
def Expr.Avoids (table : String) : Expr → Prop
  | .and p q => p.Avoids table ∧ q.Avoids table
  | .not p => p.Avoids table
  | .existsIn other p => other ≠ table ∧ p.Avoids table
  | .cmp _ _ _ => True
  | .isTrue _ _ => True
  | .isNull _ _ => True
  | .inList _ _ => True

/-- The query reads its table once. -/
structure Query.ReadsOnce (q : Query) : Prop where
  conditions : ∀ p ∈ q.conditions, p.Avoids q.table
  join : ∀ j ∈ q.join, j.1 ≠ q.table ∧ j.2.Avoids q.table

/-- The scopes of one row of the table. -/
def Query.scopes (d : Data) (q : Query) (r : Row) : List Scope :=
  match q.join with
  | none => [[(q.table, r)]]
  | some (other, condition) =>
      ((d other).map fun s => [(other, s), (q.table, r)]).filter fun env =>
        condition.eval d env = .true

/-- What the row contributes to the selected ones. -/
def Query.hits (d : Data) (q : Query) (r : Row) : List Row :=
  ((q.scopes d r).filter fun env => q.conditions.all fun p => p.eval d env = .true).map fun env =>
    (env.lookup q.table).getD []

section Scan

variable {table : String} {covers : Row → Bool} {d d' : Data}

/-- An expression does not see the order of rows. -/
theorem eval_scan (hd : ∀ name ≠ table, (d' name).Perm (d name)) {p : Expr}
    (hp : p.Avoids table) (env : Scope) : p.eval d' env = p.eval d env := by
  induction p generalizing env with
  | cmp op a b => rfl
  | isTrue table column => rfl
  | isNull table column => rfl
  | inList a vs => rfl
  | and p q ihp ihq => rw [Expr.eval, Expr.eval, ihp hp.1, ihq hp.2]
  | not p ih => rw [Expr.eval, Expr.eval, ih hp]
  | existsIn other p ih =>
    rw [Expr.eval, Expr.eval]
    congr 1
    rw [Bool.eq_iff_iff, List.any_eq_true, List.any_eq_true]
    refine exists_congr fun r => ?_
    rw [(hd other hp.1).mem_iff, ih hp.2]

namespace Query

variable {q : Query}

theorem source_eq_flatMap : q.source d = (d q.table).flatMap (q.scopes d) := by
  rw [source]
  cases hj : q.join with
  | none =>
    have hscopes : q.scopes d = fun r => [[(q.table, r)]] := by
      funext r
      rw [scopes, hj]
    rw [hscopes, ← List.map_eq_flatMap]
  | some j =>
    have hscopes : q.scopes d = fun r =>
        ((d j.1).map fun s => [(j.1, s), (q.table, r)]).filter fun env =>
          j.2.eval d env = .true := by
      funext r
      rw [scopes, hj]
    rw [hscopes]

theorem selected_eq_flatMap : q.selected d = (d q.table).flatMap (q.hits d) := by
  rw [selected, source_eq_flatMap, List.filter_flatMap, List.map_flatMap]
  rfl

theorem hits_perm (hq : q.ReadsOnce) (hd : ∀ name ≠ q.table, (d' name).Perm (d name)) (r : Row) :
    (q.hits d' r).Perm (q.hits d r) := by
  have hconditions : ∀ env : Scope, (q.conditions.all fun p => p.eval d' env = .true) =
      q.conditions.all fun p => p.eval d env = .true := by
    intro env
    rw [Bool.eq_iff_iff, List.all_eq_true, List.all_eq_true]
    refine forall₂_congr fun p hp => ?_
    rw [eval_scan hd (hq.conditions p hp)]
  have hscopes : (q.scopes d' r).Perm (q.scopes d r) := by
    rw [scopes, scopes]
    cases hj : q.join with
    | none => exact .refl _
    | some j =>
      obtain ⟨hne, havoids⟩ := hq.join j hj
      simp only [eval_scan hd havoids]
      exact ((hd j.1 hne).map _).filter _
  rw [hits, hits]
  simp only [hconditions]
  exact (hscopes.filter _).map _

/-- The scan selects the same rows. -/
theorem selected_perm (hq : q.ReadsOnce) (hd : Scans q.table covers d d')
    (hcovers : ∀ r, q.hits d r ≠ [] → covers r) : (q.selected d').Perm (q.selected d) := by
  have hskip : ∀ l : List Row, (l.filter covers).flatMap (q.hits d) = l.flatMap (q.hits d) := by
    intro l
    induction l with
    | nil => rfl
    | cons r l ih =>
      by_cases hr : covers r
      · rw [List.filter_cons_of_pos hr, List.flatMap_cons, List.flatMap_cons, ih]
      · have hnil : q.hits d r = [] := by
          by_contra hne
          exact hr (hcovers r hne)
        rw [List.filter_cons_of_neg hr, List.flatMap_cons, hnil, ih, List.nil_append]
  rw [selected_eq_flatMap, selected_eq_flatMap, ← hskip]
  exact hd.scanned.flatMap fun r _ => hits_perm hq hd.others r

/-- A condition passes rows of one scope only if each of its rows does. -/
theorem exists_scope_of_hits {r : Row} (h : q.hits d r ≠ []) :
    ∃ env ∈ q.scopes d r, ∀ p ∈ q.conditions, p.eval d env = .true := by
  obtain ⟨_, hmem⟩ := List.exists_mem_of_ne_nil _ h
  obtain ⟨env, henv, -⟩ := List.mem_map.mp hmem
  obtain ⟨hscope, hall⟩ := List.mem_filter.mp henv
  exact ⟨env, hscope, fun p hp => of_decide_eq_true (List.all_eq_true.mp hall p hp)⟩

end Query

end Scan

-- ============================================================================
-- Results
-- ============================================================================

/-- Rows sorted by a key that tells them apart. -/
theorem insertionSort_eq_of_perm {α κ : Type*} [LinearOrder κ] {r : α → α → Prop}
    [DecidableRel r] {key : α → κ} {l l' : List α} (hperm : l'.Perm l)
    (hkey : ∀ a ∈ l, ∀ b ∈ l, r a b ↔ key a ≤ key b)
    (hinj : ∀ a ∈ l, ∀ b ∈ l, key a = key b → a = b) :
    l'.insertionSort r = l.insertionSort r := by
  have hsorted : ∀ l₀ : List α, (∀ a ∈ l₀, a ∈ l) →
      (l₀.insertionSort r).Pairwise fun a b => key a ≤ key b := by
    intro l₀ hmem
    rw [← List.pairwise_map (f := key) (R := fun x y => x ≤ y), List.map_insertionSort r
      (fun x y => x ≤ y) key l₀ fun a ha b hb => hkey a (hmem a ha) b (hmem b hb)]
    exact List.pairwise_insertionSort _ _
  have hmem' : ∀ a ∈ l', a ∈ l := fun a => hperm.mem_iff.mp
  refine List.Perm.eq_of_pairwise ?_ (hsorted l' hmem') (hsorted l fun a ha => ha)
    (((List.perm_insertionSort r l').trans hperm).trans (List.perm_insertionSort r l).symm)
  intro a b ha hb hab hba
  exact hinj a (hmem' a ((List.mem_insertionSort r).mp ha)) b ((List.mem_insertionSort r).mp hb)
    (le_antisymm hab hba)

namespace Query

variable {q : Query} {d d' : Data} (hperm : (q.selected d').Perm (q.selected d))

include hperm

/-- An order that tells the selected rows apart leaves nothing to the scan. -/
theorem run_of_ordered {κ : Type*} [LinearOrder κ] {key : Row → κ} (horder : q.orderBy ≠ [])
    (hkey : ∀ r ∈ q.selected d, ∀ s ∈ q.selected d,
      Row.sortsUpTo q.orderBy r s = true ↔ key r ≤ key s)
    (hinj : ∀ r ∈ q.selected d, ∀ s ∈ q.selected d, key r = key s → r = s) :
    q.run d' = q.run d := by
  rw [run, run, if_neg horder, if_neg horder, insertionSort_eq_of_perm hperm hkey hinj]

theorem run_of_single (horder : q.orderBy = []) (hsingle : (q.selected d).length ≤ 1) :
    q.run d' = q.run d := by
  have heq : q.selected d' = q.selected d := by
    cases hd : q.selected d with
    | nil =>
      rw [hd] at hperm
      exact hperm.eq_nil
    | cons r rows =>
      rw [hd, List.length_cons] at hsingle
      obtain rfl := List.eq_nil_of_length_eq_zero (l := rows) (by omega)
      rw [hd] at hperm
      exact List.perm_singleton.mp hperm
  rw [run, run, if_pos horder, if_pos horder, heq]

end Query

end Sql
