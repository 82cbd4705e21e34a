/-
  Vouch.Sql.Script

  Scripts that create and drop whole tables.

  Rows stand only in tables of the schema (`Schema.Within`).  Then a script that
  creates types, tables and indexes runs whenever its effect on the schema is
  defined, and leaves the stored rows alone (`run_creating`); a script that drops
  them runs on every valid database, whatever it holds, and leaves the rows of
  the tables that remain (`run_dropping`).
-/

import Vouch.Sql.Preserve

namespace Sql

-- ============================================================================
-- Rows within the schema
-- ============================================================================

/-- No rows outside the schema's tables. -/
def Schema.Within (S : Schema) (d : Data) : Prop := ∀ name, S.table? name = none → d name = []

/-- The rows of the schema's tables. -/
def Schema.restrict (S : Schema) (d : Data) : Data :=
  fun name => if (S.table? name).isSome then d name else []

variable {S S' : Schema} {d : Data}

theorem Schema.table?_eq_none {name : String} :
    S.table? name = none ↔ ∀ t ∈ S.tables, t.name ≠ name := by
  rw [Schema.table?, List.find?_eq_none]
  simp only [beq_iff_eq, ne_eq]

theorem Schema.table?_eq_none_iff {name : String} :
    S.table? name = none ↔ name ∉ S.tables.map TableDef.name := by
  rw [Schema.table?_eq_none, List.mem_map]
  simp only [not_exists, not_and, ne_eq]

/-- More tables have more names. -/
theorem Schema.table?_eq_none_of_subset {name : String} (h : ∀ t ∈ S.tables, t ∈ S'.tables)
    (hname : S'.table? name = none) : S.table? name = none :=
  Schema.table?_eq_none.mpr fun t ht => Schema.table?_eq_none.mp hname t (h t ht)

theorem Schema.within_restrict (S : Schema) (d : Data) : S.Within (S.restrict d) := by
  intro name h
  rw [Schema.restrict, h]
  rfl

theorem Schema.restrict_eq_self (h : S.Within d) : S.restrict d = d := by
  funext name
  rw [Schema.restrict]
  split_ifs with hsome
  · rfl
  · exact (h name (Option.not_isSome_iff_eq_none.mp hsome)).symm

theorem Schema.Within.of_subset (h : S.Within d) (htables : ∀ t ∈ S.tables, t ∈ S'.tables) :
    S'.Within d :=
  fun name hname => h name (Schema.table?_eq_none_of_subset htables hname)

/-- Rewriting rows of a table adds none. -/
theorem Schema.Within.mapTable {table : String} {f : Row → Row} (h : S.Within d)
    (hnames : S'.tables.map TableDef.name = S.tables.map TableDef.name) :
    S'.Within (d.mapTable table f) := by
  intro name hname
  rw [Schema.table?_eq_none_iff, hnames, ← Schema.table?_eq_none_iff] at hname
  rw [Data.mapTable, h name hname]
  split_ifs <;> rfl

/-- Restricting to the tables of two schemas, the second having no others. -/
theorem Schema.restrict_restrict (h : ∀ t ∈ S'.tables, t ∈ S.tables) :
    S'.restrict (S.restrict d) = S'.restrict d := by
  funext name
  cases hname : S.table? name with
  | none => simp [Schema.restrict, Schema.table?_eq_none_of_subset h hname]
  | some t => simp [Schema.restrict, hname]

-- ============================================================================
-- What a constraint reads
-- ============================================================================

/-- The table a foreign key refers to. -/
def Constraint.refTable? : Constraint → Option String
  | .foreignKey _ ref _ _ => some ref
  | _ => none

/-- A foreign key names the columns it refers to. -/
def Constraint.proper : Constraint → Bool
  | .foreignKey _ _ refCs _ => !refCs.isEmpty
  | _ => true

def Schema.Proper (S : Schema) : Prop := ∀ t ∈ S.tables, ∀ k ∈ t.constraints, k.proper

instance (S : Schema) : Decidable S.Proper :=
  inferInstanceAs (Decidable (∀ _ ∈ _, ∀ _ ∈ _, _))

theorem Constraint.proper.refers {k : Constraint} {ref : String} (hk : k.proper)
    (href : k.refTable? = some ref) : (k.refColumns.any fun p => p.1 == ref) = true := by
  cases k with
  | foreignKey cs ref' refCs n =>
    obtain rfl := Option.some.inj href
    cases refCs with
    | nil => cases hk
    | cons c refCs => simp [Constraint.refColumns]
  | _ => cases href

/-- A constraint reads its own table and the one it refers to. -/
theorem Constraint.holds_congr {k : Constraint} {table : String} {d e : Data}
    (hown : d table = e table) (href : ∀ ref, k.refTable? = some ref → d ref = e ref) :
    k.Holds d table ↔ k.Holds e table := by
  cases k with
  | foreignKey cs ref refCs n =>
    have hrefs := href ref rfl
    simp only [Constraint.Holds, hown, hrefs]
  | primaryKey cs => simp only [Constraint.Holds, hown]
  | unique cs n => simp only [Constraint.Holds, hown]
  | check p n => simp only [Constraint.Holds, hown]
  | exclude n key lo hi p => simp only [Constraint.Holds, hown]

/-- On a table without rows every constraint holds. -/
theorem Constraint.holds_of_empty {k : Constraint} {table : String} (h : d table = []) :
    k.Holds d table := by
  cases k <;> simp [Constraint.Holds, h]

-- ============================================================================
-- Creating
-- ============================================================================

/-- Statements that add a type, a table or an index. -/
def Ddl.creates : Ddl → Bool
  | .createType _ _ => true
  | .createTable _ => true
  | .createIndex _ => true
  | _ => false

theorem alter_createTable {t : TableDef} (h : (Ddl.createTable t).alter S = .ok S') :
    (∀ u ∈ S.tables, u.name ≠ t.name) ∧ S' = { S with tables := S.tables ++ [t] } := by
  obtain ⟨_, hfresh, h⟩ := bind_eq_ok h
  obtain ⟨_, -, h⟩ := bind_eq_ok h
  obtain ⟨_, -, h⟩ := bind_eq_ok h
  refine ⟨?_, (Except.ok.inj h).symm⟩
  have hnone := require_eq_ok hfresh
  simpa using hnone

/-- `CREATE TABLE` succeeds when the schema change does. -/
theorem exec_createTable {t : TableDef} (hv : S.Valid d) (hwithin : S.Within d)
    (h : (Ddl.createTable t).alter S = .ok S') : (Ddl.createTable t).exec (S, d) = .ok (S', d) := by
  obtain ⟨hfresh, hS'⟩ := alter_createTable h
  have hempty : d t.name = [] := hwithin t.name (Schema.table?_eq_none.mpr hfresh)
  refine exec_ok h ?_ ?_
  · have hrows : (fun u => if u = t.name then [] else d u) = d := by
      funext u
      split_ifs with hu
      · rw [hu, hempty]
      · rfl
    rw [Ddl.rewrite, hrows]
  · subst hS'
    intro u hu
    rcases List.mem_append.mp hu with hu | hu
    · exact hv u hu
    · obtain rfl := List.mem_singleton.mp hu
      refine ⟨?_, fun k _ => Constraint.holds_of_empty hempty⟩
      rw [hempty]
      exact fun r hr => absurd hr List.not_mem_nil

/-- A creating statement keeps the tables. -/
theorem subset_of_creates {st : Ddl} (hst : st.creates) (h : st.alter S = .ok S') :
    ∀ t ∈ S.tables, t ∈ S'.tables := by
  cases st with
  | createType e checkfirst =>
      simp only [Ddl.alter] at h
      split_ifs at h <;> cases h <;> exact fun t ht => ht
  | createTable u =>
      obtain ⟨-, rfl⟩ := alter_createTable h
      exact fun t ht => List.mem_append_left _ ht
  | createIndex i =>
      simp only [Ddl.alter] at h
      split at h
      · cases h
      · split_ifs at h
        cases h
        exact fun t ht => ht
  | _ => cases hst

theorem exec_of_creates {st : Ddl} (hst : st.creates) (hv : S.Valid d) (hwithin : S.Within d)
    (h : st.alter S = .ok S') : st.exec (S, d) = .ok (S', d) := by
  cases st with
  | createTable t => exact exec_createTable hv hwithin h
  | createType e checkfirst => exact exec_of_weakens hv rfl h
  | createIndex i => exact exec_of_weakens hv rfl h
  | _ => cases hst

theorem alterAll_cons {st : Ddl} {script : List Ddl} (h : alterAll (st :: script) S = .ok S') :
    ∃ S₁, st.alter S = .ok S₁ ∧ alterAll script S₁ = .ok S' := by
  obtain ⟨S₁, hst, hscript⟩ := bind_eq_ok h
  exact ⟨S₁, hst, hscript⟩

/-- A creating script runs whenever the schema change is defined, and touches no
    row. -/
theorem run_creating {script : List Ddl} (hscript : ∀ st ∈ script, st.creates) (hv : S.Valid d)
    (hwithin : S.Within d) (h : alterAll script S = .ok S') :
    run script (S, d) = .ok (S', d) ∧ S'.Within d := by
  induction script generalizing S with
  | nil =>
      obtain rfl := Except.ok.inj h
      exact ⟨rfl, hwithin⟩
  | cons st script ih =>
      rw [List.forall_mem_cons] at hscript
      obtain ⟨S₁, hst, hrest⟩ := alterAll_cons h
      have hexec := exec_of_creates hscript.1 hv hwithin hst
      rw [run_cons hexec]
      refine ih hscript.2 (exec_cases hexec).2.2 ?_ hrest
      exact hwithin.of_subset (subset_of_creates hscript.1 hst)

-- ============================================================================
-- Dropping
-- ============================================================================

/-- Statements that remove a type, a table or an index. -/
def Ddl.drops : Ddl → Bool
  | .dropType _ _ => true
  | .dropTable _ => true
  | .dropIndex _ _ => true
  | _ => false

theorem alter_dropTable {table : String} (h : (Ddl.dropTable table).alter S = .ok S') :
    S'.types = S.types ∧ S'.tables = (S.tables.filter fun u => u.name != table) ∧
      ∀ u ∈ S.tables, u.name ≠ table → ∀ k ∈ u.constraints,
        (k.refColumns.any fun p => p.1 == table) = false := by
  simp only [Ddl.alter] at h
  split_ifs at h with hmissing hused
  obtain rfl := Except.ok.inj h
  refine ⟨rfl, rfl, ?_⟩
  intro u hu hne k hk
  simp only [List.any_eq_true, Bool.and_eq_true, bne_iff_ne, not_exists, not_and] at hused
  rw [List.any_eq_false]
  exact fun p hp href => hused u hu hne k hk p hp href

/-- `DROP TABLE` succeeds when the schema change does, whatever the tables hold. -/
theorem exec_dropTable {table : String} (hv : S.Valid d) (hwithin : S.Within d) (hproper : S.Proper)
    (h : (Ddl.dropTable table).alter S = .ok S') :
    (Ddl.dropTable table).exec (S, d) = .ok (S', S'.restrict d) := by
  obtain ⟨htypes, htables, hfree⟩ := alter_dropTable h
  have hnone : S'.table? table = none := by
    rw [Schema.table?_eq_none, htables]
    intro t ht
    simpa using (List.mem_filter.mp ht).2
  have hrows : (fun u => if u = table then [] else d u) = S'.restrict d := by
    funext u
    by_cases hu : u = table
    · rw [if_pos hu, hu, Schema.restrict, hnone]
      rfl
    · rw [if_neg hu, Schema.restrict]
      split_ifs with hsome
      · rfl
      · refine hwithin u ?_
        rw [Option.not_isSome_iff_eq_none, Schema.table?_eq_none, htables] at hsome
        rw [Schema.table?_eq_none]
        intro t ht heq
        exact hsome t (List.mem_filter.mpr ⟨ht, by simpa [heq] using hu⟩) heq
  refine exec_ok h (by rw [Ddl.rewrite, hrows]) ?_
  rw [← hrows]
  intro u hu
  rw [htables] at hu
  obtain ⟨hmem, hne⟩ := List.mem_filter.mp hu
  have hne' : u.name ≠ table := by simpa using hne
  refine ⟨?_, ?_⟩
  · show ∀ r ∈ (if u.name = table then [] else d u.name), _
    rw [if_neg hne', htypes]
    exact (hv u hmem).1
  · intro k hk
    refine (Constraint.holds_congr (if_neg hne') ?_).mpr ((hv u hmem).2 k hk)
    -- no constraint that remains refers to the dropped table
    intro ref href
    refine if_neg ?_
    rintro rfl
    have hrefers := Constraint.proper.refers (hproper u hmem k hk) href
    rw [hfree u hmem hne' k hk] at hrefers
    cases hrefers

/-- Beside `DROP TABLE` the dropping statements keep the tables. -/
theorem tables_of_drops {st : Ddl} (hst : st.drops) (h : st.alter S = .ok S') :
    (∃ table, st = .dropTable table) ∨ (st.weakens ∧ S'.tables = S.tables) := by
  cases st with
  | dropType name checkfirst =>
      refine .inr ⟨rfl, ?_⟩
      simp only [Ddl.alter] at h
      split_ifs at h <;> cases h <;> rfl
  | dropTable table => exact .inl ⟨table, rfl⟩
  | dropIndex name table =>
      refine .inr ⟨rfl, ?_⟩
      simp only [Ddl.alter] at h
      split_ifs at h
      cases h
      rfl
  | _ => cases hst

/-- No dropping statement adds a table. -/
theorem subset_of_drops {st : Ddl} (hst : st.drops) (h : st.alter S = .ok S') :
    ∀ t ∈ S'.tables, t ∈ S.tables := by
  rcases tables_of_drops hst h with ⟨table, rfl⟩ | ⟨-, htables⟩
  · rw [(alter_dropTable h).2.1]
    exact fun t ht => (List.mem_filter.mp ht).1
  · rw [htables]
    exact fun t ht => ht

theorem exec_of_drops {st : Ddl} (hst : st.drops) (hv : S.Valid d) (hwithin : S.Within d)
    (hproper : S.Proper) (h : st.alter S = .ok S') :
    st.exec (S, d) = .ok (S', S'.restrict d) := by
  rcases tables_of_drops hst h with ⟨table, rfl⟩ | ⟨hweakens, htables⟩
  · exact exec_dropTable hv hwithin hproper h
  · have hwithin' : S'.Within d := hwithin.of_subset (htables ▸ fun t ht => ht)
    rw [Schema.restrict_eq_self hwithin']
    exact exec_of_weakens hv hweakens h

/-- A dropping script runs on every valid database, and the rows of the tables
    that remain stay. -/
theorem run_dropping {script : List Ddl} (hscript : ∀ st ∈ script, st.drops) (hv : S.Valid d)
    (hwithin : S.Within d) (hproper : S.Proper) (h : alterAll script S = .ok S') :
    run script (S, d) = .ok (S', S'.restrict d) ∧ ∀ t ∈ S'.tables, t ∈ S.tables := by
  induction script generalizing S d with
  | nil =>
      obtain rfl := Except.ok.inj h
      rw [Schema.restrict_eq_self hwithin]
      exact ⟨rfl, fun t ht => ht⟩
  | cons st script ih =>
      rw [List.forall_mem_cons] at hscript
      obtain ⟨S₁, hst, hrest⟩ := alterAll_cons h
      have hsubset := subset_of_drops hscript.1 hst
      have hexec := exec_of_drops hscript.1 hv hwithin hproper hst
      obtain ⟨hrun, hsubset'⟩ := ih hscript.2 (exec_cases hexec).2.2 (S₁.within_restrict d)
        (fun t ht => hproper t (hsubset t ht)) hrest
      refine ⟨?_, fun t ht => hsubset t (hsubset' t ht)⟩
      rw [run_cons hexec, hrun, Schema.restrict_restrict hsubset']

end Sql
