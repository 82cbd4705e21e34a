/-
  Vouch.Sql.Preserve

  What schema statements preserve.

  `Constraint.holds_mapRows` is the frame rule: rewriting rows outside the
  columns a constraint reads leaves it as it was.  From it each kind of
  statement gets its rule: `exec_addColumn`, `exec_dropColumn`,
  `exec_createCheck`, `exec_update_same`, and `exec_of_weakens` for statements
  that only weaken the schema.
-/

import Vouch.Sql.Ddl

namespace Sql

-- ============================================================================
-- Rows
-- ============================================================================

theorem Row.get_append_of_ne {r : Row} {c c' : String} {v : Value} (h : c' ≠ c) :
    Row.get (r ++ [(c, v)]) c' = r.get c' := by
  have hne : (c' == c) = false := by simpa using h
  simp [Row.get, List.lookup_append, List.lookup_cons, hne]

theorem Row.get_append_self {r : Row} {c : String} {v : Value} (h : c ∉ r.map Prod.fst) :
    Row.get (r ++ [(c, v)]) c = v := by
  have hnone : r.lookup c = none := by
    rw [List.lookup_eq_none_iff]
    intro p hp
    have : c ≠ p.1 := fun hc => h (List.mem_map.mpr ⟨p, hp, hc.symm⟩)
    simpa using this
  simp [Row.get, List.lookup_append, hnone]

/-- A column the row lacks. -/
theorem Row.lookup_eq_none {r : Row} {c : String} (h : c ∉ r.map Prod.fst) : r.lookup c = none := by
  rw [List.lookup_eq_none_iff]
  intro p hp
  have : c ≠ p.1 := fun hc => h (List.mem_map.mpr ⟨p, hp, hc.symm⟩)
  simpa using this

theorem Row.get_of_not_mem {r : Row} {c : String} (h : c ∉ r.map Prod.fst) : r.get c = .null := by
  rw [Row.get, Row.lookup_eq_none h]
  rfl

theorem Row.get_append_right {r s : Row} {c : String} (h : c ∉ r.map Prod.fst) :
    Row.get (r ++ s) c = s.get c := by
  rw [Row.get, List.lookup_append, Row.lookup_eq_none h]
  rfl

theorem Row.set_of_not_mem {r : Row} {c : String} {v : Value} (h : c ∉ r.map Prod.fst) :
    r.set c v = r := by
  refine (List.map_congr_left fun p hp => ?_).trans (List.map_id r)
  refine if_neg ?_
  rintro rfl
  exact h (List.mem_map_of_mem hp)

theorem Row.get_drop_of_ne {r : Row} {c c' : String} (h : c' ≠ c) :
    (r.drop c).get c' = r.get c' := by
  induction r with
  | nil => rfl
  | cons p r ih =>
      obtain ⟨k, v⟩ := p
      simp only [Row.get, Row.drop] at ih ⊢
      by_cases hp : k = c
      · -- the dropped column is not the one looked up
        have hne : (c' == k) = false := by simpa [hp] using h
        rw [List.filter_cons_of_neg (by simpa using hp), ih, List.lookup_cons, hne]
      · rw [List.filter_cons_of_pos (by simpa using hp)]
        cases hc : c' == k with
        | true => simp only [List.lookup_cons, hc]
        | false => simpa only [List.lookup_cons, hc] using ih

theorem Row.agree_congr {cs refCs : List String} {r r' s s' : Row}
    (hr : ∀ c ∈ cs, r'.get c = r.get c) (hs : ∀ c ∈ refCs, s'.get c = s.get c) :
    r'.agree cs s' refCs = r.agree cs s refCs := by
  unfold Row.agree
  rw [Bool.eq_iff_iff]
  simp only [List.all_eq_true]
  refine forall₂_congr fun p hp => ?_
  obtain ⟨h₁, h₂⟩ := List.of_mem_zip hp
  rw [hr _ h₁, hs _ h₂]

-- ============================================================================
-- The frame rule
-- ============================================================================

/-- Change the rows of each table. -/
def Data.mapRows (f : String → Row → Row) (d : Data) : Data := fun t => (d t).map (f t)

theorem Data.mapTable_eq (d : Data) (table : String) (f : Row → Row) :
    d.mapTable table f = d.mapRows fun t r => if t = table then f r else r := by
  funext t
  rw [Data.mapTable, Data.mapRows]
  by_cases h : t = table <;> simp [h]

theorem Data.mapTable_self (d : Data) (table : String) (f : Row → Row) :
    d.mapTable table f table = (d table).map f := by
  rw [Data.mapTable, if_pos rfl]

theorem Data.mapTable_of_ne (d : Data) {table u : String} (f : Row → Row) (h : u ≠ table) :
    d.mapTable table f u = d u := by
  rw [Data.mapTable, if_neg h]

theorem Data.mapTable_mapTable (d : Data) (table : String) (f g : Row → Row) :
    (d.mapTable table f).mapTable table g = d.mapTable table fun r => g (f r) := by
  funext t
  by_cases h : t = table
  · subst h
    rw [Data.mapTable_self, Data.mapTable_self, Data.mapTable_self, List.map_map]
    rfl
  · rw [Data.mapTable_of_ne _ _ h, Data.mapTable_of_ne _ _ h, Data.mapTable_of_ne _ _ h]

theorem pairwise_map_congr {α β : Type*} {R : β → β → Prop} {S : α → α → Prop} {f : α → β}
    {l : List α} (h : ∀ a ∈ l, ∀ b ∈ l, R (f a) (f b) ↔ S a b) :
    (l.map f).Pairwise R ↔ l.Pairwise S := by
  rw [List.pairwise_map]
  exact List.Pairwise.iff_of_mem fun ha hb => h _ ha _ hb

/-- Rewriting rows outside the columns a constraint reads does not affect it. -/
theorem Constraint.holds_mapRows {f : String → Row → Row} {d : Data} {table : String}
    {k : Constraint} (hown : ∀ c ∈ k.columns, ∀ r ∈ d table, (f table r).get c = r.get c)
    (href : ∀ p ∈ k.refColumns, ∀ r ∈ d p.1, (f p.1 r).get p.2 = r.get p.2) :
    k.Holds (d.mapRows f) table ↔ k.Holds d table := by
  have hrow : ∀ r ∈ d table, ∀ c ∈ k.columns, (f table r).get c = r.get c :=
    fun r hr c hc => hown c hc r hr
  cases k with
  | primaryKey cs =>
      change ∀ r ∈ d table, ∀ c ∈ cs, _ at hrow
      simp only [Constraint.Holds, Data.mapRows, List.forall_mem_map]
      refine and_congr ?_ (pairwise_map_congr fun r hr s hs => ?_)
      · refine forall₂_congr fun r hr => forall₂_congr fun c hc => ?_
        rw [hrow r hr c hc]
      · rw [Row.agree_congr (hrow r hr) (hrow s hs)]
  | unique cs n =>
      change ∀ r ∈ d table, ∀ c ∈ cs, _ at hrow
      refine pairwise_map_congr fun r hr s hs => ?_
      rw [Row.agree_congr (hrow r hr) (hrow s hs)]
  | foreignKey cs ref refCs n =>
      change ∀ r ∈ d table, ∀ c ∈ cs, _ at hrow
      have hrefRow : ∀ s ∈ d ref, ∀ c ∈ refCs, (f ref s).get c = s.get c :=
        fun s hs c hc => href (ref, c) (List.mem_map.mpr ⟨c, hc, rfl⟩) s hs
      simp only [Constraint.Holds, Data.mapRows, List.forall_mem_map]
      refine forall₂_congr fun r hr => or_congr ?_ ?_
      · refine exists_congr fun c => and_congr_right fun hc => ?_
        rw [hrow r hr c hc]
      · simp only [List.mem_map, exists_exists_and_eq_and]
        refine exists_congr fun s => and_congr_right fun hs => ?_
        rw [Row.agree_congr (hrow r hr) (hrefRow s hs)]
  | check p n =>
      simp only [Constraint.Holds, Data.mapRows, List.forall_mem_map]
      exact forall₂_congr fun r hr => Cond.admits_congr (hrow r hr)
  | exclude n key lo hi p =>
      have hsel : ∀ r ∈ d table, ((p.selects (f table r)) ↔ p.selects r) ∧
          (f table r).get key = r.get key ∧ (f table r).get lo = r.get lo ∧
          (f table r).get hi = r.get hi := by
        intro r hr
        refine ⟨Cond.selects_congr fun c hc => hrow r hr c ?_, ?_, ?_, ?_⟩
        · exact List.mem_append_right _ hc
        all_goals exact hrow r hr _ (by simp [Constraint.columns])
      simp only [Constraint.Holds, Data.mapRows, List.forall_mem_map]
      refine and_congr ?_ (pairwise_map_congr fun r hr s hs => ?_)
      · refine forall₂_congr fun r hr => ?_
        obtain ⟨h₁, -, h₃, h₄⟩ := hsel r hr
        simp only [rangeDefined, h₁, h₃, h₄]
      · obtain ⟨h₁, h₂, h₃, h₄⟩ := hsel r hr
        obtain ⟨h₅, h₆, h₇, h₈⟩ := hsel s hs
        simp only [excluded, h₁, h₂, h₃, h₄, h₅, h₆, h₇, h₈]

/-- Rewriting one column of one table does not affect a constraint that reads it
    nowhere. -/
theorem Constraint.holds_mapTable {d : Data} {table column u : String} {f : Row → Row}
    {k : Constraint} (hf : ∀ r c, c ≠ column → (f r).get c = r.get c)
    (hown : u = table → column ∉ k.columns) (href : (table, column) ∉ k.refColumns) :
    k.Holds (d.mapTable table f) u ↔ k.Holds d u := by
  rw [Data.mapTable_eq]
  apply Constraint.holds_mapRows
  · intro c hc r _
    by_cases hu : u = table
    · rw [if_pos hu]
      exact hf r c fun hcol => hown hu (hcol ▸ hc)
    · rw [if_neg hu]
  · rintro ⟨t, c⟩ hp r _
    by_cases ht : t = table
    · rw [if_pos ht]
      exact hf r c fun hcol => href (ht ▸ hcol ▸ hp)
    · rw [if_neg ht]

-- ============================================================================
-- Scripts
-- ============================================================================

theorem bind_eq_ok {ε α β : Type} {x : Except ε α} {f : α → Except ε β} {b : β}
    (h : (x >>= f) = .ok b) : ∃ a, x = .ok a ∧ f a = .ok b := by
  cases x with
  | error e => cases h
  | ok a => exact ⟨a, rfl, h⟩

theorem require_eq_ok {b : Bool} {e : DdlError} {u : Unit} (h : require b e = .ok u) :
    b = true := by
  cases b with
  | true => rfl
  | false => cases h

theorem exec_ok {st : Ddl} {S S' : Schema} {d d' : Data} (halter : st.alter S = .ok S')
    (hrewrite : st.rewrite S d = .ok d') (hvalid : S'.Valid d') :
    st.exec (S, d) = .ok (S', d') := by
  simp [Ddl.exec, halter, hrewrite, hvalid, bind, Except.bind]

/-- What a successful statement did. -/
theorem exec_cases {st : Ddl} {db db' : Schema × Data} (h : st.exec db = .ok db') :
    st.alter db.1 = .ok db'.1 ∧ st.rewrite db.1 db.2 = .ok db'.2 ∧ db'.1.Valid db'.2 := by
  obtain ⟨S, halter, h⟩ := bind_eq_ok h
  obtain ⟨d, hrewrite, h⟩ := bind_eq_ok h
  by_cases hv : S.Valid d
  · rw [if_pos hv] at h
    obtain rfl := Except.ok.inj h
    exact ⟨halter, hrewrite, hv⟩
  · rw [if_neg hv] at h
    cases h

theorem run_cons {st : Ddl} {script : List Ddl} {db db' : Schema × Data}
    (h : st.exec db = .ok db') : run (st :: script) db = run script db' := by
  simp [run, h, bind, Except.bind]

/-- A script that succeeds on a valid database ends in one. -/
theorem run_valid {script : List Ddl} {S S' : Schema} {d d' : Data} (hvalid : S.Valid d)
    (h : run script (S, d) = .ok (S', d')) : S'.Valid d' := by
  induction script generalizing S d with
  | nil =>
      obtain ⟨rfl, rfl⟩ : S = S' ∧ d = d' := by simpa [run] using h
      exact hvalid
  | cons st script ih =>
      cases hst : st.exec (S, d) with
      | error e => simp [run, hst, bind, Except.bind] at h
      | ok db =>
        rw [run_cons hst] at h
        exact ih (exec_cases hst).2.2 h

-- ============================================================================
-- Statements that only weaken the schema
-- ============================================================================

/-- Fewer constraints, and types that admit at least the same values. -/
structure Schema.Weaker (S S' : Schema) : Prop where
  tables : ∀ t' ∈ S'.tables, ∃ t ∈ S.tables, t.name = t'.name ∧ t.columns = t'.columns ∧
    ∀ k ∈ t'.constraints, k ∈ t.constraints
  types : ∀ t ∈ S.tables, ∀ c ∈ t.columns, ∀ v, c.fits S.types v → c.fits S'.types v

/-- Indexes do not count. -/
theorem Schema.Weaker.of_eq {S S' : Schema} (htables : S'.tables = S.tables)
    (htypes : S'.types = S.types) : S.Weaker S' := by
  refine ⟨?_, ?_⟩
  · intro t ht
    exact ⟨t, htables ▸ ht, rfl, rfl, fun _ hk => hk⟩
  · rw [htypes]
    exact fun _ _ _ _ _ hfits => hfits

theorem Schema.Valid.of_weaker {S S' : Schema} {d : Data} (hv : S.Valid d) (h : S.Weaker S') :
    S'.Valid d := by
  intro t' ht'
  obtain ⟨t, ht, hname, hcols, hcons⟩ := h.tables t' ht'
  obtain ⟨hrows, hholds⟩ := hv t ht
  refine ⟨fun r hr => ?_, fun k hk => hname ▸ hholds k (hcons k hk)⟩
  obtain ⟨hperm, hfits⟩ := hrows r (hname ▸ hr)
  exact ⟨hcols ▸ hperm, fun c hc => h.types t ht c (hcols ▸ hc) _ (hfits c (hcols ▸ hc))⟩

/-- A type list with more types admits more values. -/
theorem SqlType.fits_mono {types types' : List EnumType} (h : ∀ e ∈ types, e ∈ types')
    (ty : SqlType) (v : Value) (hf : ty.fits types v) : ty.fits types' v := by
  cases ty <;> cases v <;> simp only [SqlType.fits, List.any_eq_true] at hf ⊢ <;> try exact hf
  obtain ⟨e, he, hl⟩ := hf
  exact ⟨e, h e he, hl⟩

theorem Column.fits_of_type {types types' : List EnumType} {c : Column} {v : Value}
    (h : c.type.fits types v → c.type.fits types' v) (hf : c.fits types v) :
    c.fits types' v := by
  rw [Column.fits] at hf ⊢
  split at hf
  · simp [*]
  · simp [*, h hf]

/-- The order of types and tables does not matter. -/
theorem Schema.valid_congr {S S' : Schema} (htypes : ∀ e, e ∈ S.types ↔ e ∈ S'.types)
    (htables : ∀ t, t ∈ S.tables ↔ t ∈ S'.tables) (d : Data) : S.Valid d ↔ S'.Valid d := by
  have hmono : ∀ {S S' : Schema}, (∀ e ∈ S.types, e ∈ S'.types) → (∀ t ∈ S'.tables, t ∈ S.tables) →
      S.Valid d → S'.Valid d := by
    intro S S' htypes htables hv
    refine hv.of_weaker ⟨?_, ?_⟩
    · intro t ht
      exact ⟨t, htables t ht, rfl, rfl, fun _ hk => hk⟩
    · intro t _ c _ v
      exact Column.fits_of_type (SqlType.fits_mono htypes c.type v)
  refine ⟨?_, ?_⟩
  · exact hmono (fun e he => (htypes e).mp he) fun t ht => (htables t).mpr ht
  · exact hmono (fun e he => (htypes e).mpr he) fun t ht => (htables t).mp ht

/-- Dropping a type leaves columns of other types alone. -/
theorem SqlType.fits_filter {types : List EnumType} {name : String} {ty : SqlType}
    (hne : ty ≠ .enum name) (v : Value) (hf : ty.fits types v) :
    ty.fits (types.filter fun e => e.name != name) v := by
  cases ty <;> cases v <;> simp only [SqlType.fits, List.any_eq_true] at hf ⊢ <;> try exact hf
  rename_i n l
  obtain ⟨e, he, hl⟩ := hf
  refine ⟨e, List.mem_filter.mpr ⟨he, ?_⟩, hl⟩
  simp only [Bool.and_eq_true, beq_iff_eq] at hl
  have : n ≠ name := fun h => hne (h ▸ rfl)
  simpa [hl.1] using this

theorem mem_setTable {S : Schema} {t u : TableDef} (h : u ∈ (S.setTable t).tables) :
    u = t ∨ (u ∈ S.tables ∧ u.name ≠ t.name) := by
  obtain ⟨w, hw, hwu⟩ := List.mem_map.mp h
  by_cases hname : w.name = t.name
  · simp only [hname, beq_self_eq_true, if_true] at hwu
    exact .inl hwu.symm
  · have hne : (w.name == t.name) = false := by simpa using hname
    simp only [hne, Bool.false_eq_true, if_false] at hwu
    exact .inr ⟨hwu ▸ hw, hwu ▸ hname⟩

theorem table?_eq_some {S : Schema} {name : String} {t : TableDef} (h : S.table? name = some t) :
    t ∈ S.tables ∧ t.name = name := by
  refine ⟨List.mem_of_find?_eq_some h, ?_⟩
  simpa using List.find?_some h

/-- Statements that touch no row and declare nothing new about the rows. -/
def Ddl.weakens : Ddl → Bool
  | .createType _ _ => Bool.true
  | .dropType _ _ => Bool.true
  | .createIndex _ => Bool.true
  | .dropIndex _ _ => Bool.true
  | .dropConstraint _ _ => Bool.true
  | _ => Bool.false

theorem alter_createType {S S' : Schema} {e : EnumType} {checkfirst : Bool}
    (h : (Ddl.createType e checkfirst).alter S = .ok S') : S.Weaker S' := by
  simp only [Ddl.alter] at h
  split at h
  · split at h
    · obtain rfl := Except.ok.inj h
      exact .of_eq rfl rfl
    · cases h
  · obtain rfl := Except.ok.inj h
    refine ⟨fun t ht => ⟨t, ht, rfl, rfl, fun _ hk => hk⟩, ?_⟩
    intro _ _ c _ v
    exact Column.fits_of_type (SqlType.fits_mono (fun e he => List.mem_append_left _ he) c.type v)

theorem alter_dropType {S S' : Schema} {name : String} {checkfirst : Bool}
    (h : (Ddl.dropType name checkfirst).alter S = .ok S') : S.Weaker S' := by
  simp only [Ddl.alter] at h
  split at h
  · split at h
    · obtain rfl := Except.ok.inj h
      exact .of_eq rfl rfl
    · cases h
  · split at h
    · cases h
    · rename_i hunused
      obtain rfl := Except.ok.inj h
      refine ⟨fun t ht => ⟨t, ht, rfl, rfl, fun _ hk => hk⟩, ?_⟩
      intro t ht c hc v
      refine Column.fits_of_type (SqlType.fits_filter ?_ v)
      intro hty
      exact hunused (List.any_eq_true.mpr ⟨t, ht, List.any_eq_true.mpr ⟨c, hc, by simp [hty]⟩⟩)

theorem alter_dropConstraint {S S' : Schema} {name table : String}
    (h : (Ddl.dropConstraint name table).alter S = .ok S') : S.Weaker S' := by
  simp only [Ddl.alter] at h
  split at h
  · cases h
  · rename_i t ht
    split at h
    · obtain rfl := Except.ok.inj h
      refine ⟨?_, fun _ _ _ _ _ hfits => hfits⟩
      intro u hu
      rcases mem_setTable hu with rfl | ⟨hu, -⟩
      · exact ⟨t, (table?_eq_some ht).1, rfl, rfl, fun k hk => (List.mem_filter.mp hk).1⟩
      · exact ⟨u, hu, rfl, rfl, fun _ hk => hk⟩
    · cases h

/-- What such a statement leaves is a weaker schema. -/
theorem alter_weakens {st : Ddl} {S S' : Schema} (hw : st.weakens) (h : st.alter S = .ok S') :
    S.Weaker S' := by
  cases st with
  | createType e checkfirst => exact alter_createType h
  | dropType name checkfirst => exact alter_dropType h
  | dropConstraint name table => exact alter_dropConstraint h
  | createIndex i =>
      simp only [Ddl.alter] at h
      split at h
      · cases h
      · split at h
        · cases h
        · split at h
          · cases h
          · obtain rfl := Except.ok.inj h
            exact .of_eq rfl rfl
  | dropIndex name table =>
      simp only [Ddl.alter] at h
      split at h
      · obtain rfl := Except.ok.inj h
        exact .of_eq rfl rfl
      · cases h
  | createTable _ => cases hw
  | dropTable _ => cases hw
  | addColumn _ _ _ => cases hw
  | dropColumn _ _ => cases hw
  | createCheck _ _ _ => cases hw
  | update _ _ _ _ => cases hw

/-- Such a statement succeeds whenever the schema change does. -/
theorem exec_of_weakens {st : Ddl} {S S' : Schema} {d : Data} (hv : S.Valid d)
    (hw : st.weakens) (h : st.alter S = .ok S') : st.exec (S, d) = .ok (S', d) := by
  refine exec_ok h ?_ (hv.of_weaker (alter_weakens hw h))
  cases st <;> first | rfl | cases hw

-- ============================================================================
-- Adding and dropping columns
-- ============================================================================

/-- A constraint of some table reads the column, or refers to it. -/
def Schema.mentions (S : Schema) (table column : String) : Bool :=
  S.tables.any fun u => u.constraints.any fun k =>
    (u.name == table && k.columns.contains column) || k.refColumns.contains (table, column)

theorem TableDef.conforms_addColumn {types : List EnumType} {t : TableDef} {c : Column} {v : Value}
    {r : Row} (references : Option (String × String)) (h : t.Conforms types r)
    (hfresh : c.name ∉ t.columnNames) (hfits : c.fits types v) :
    (t.addColumn c references).Conforms types (r ++ [(c.name, v)]) := by
  obtain ⟨hperm, hold⟩ := h
  have hrow : c.name ∉ r.map Prod.fst := fun hc => hfresh (hperm.mem_iff.mp hc)
  refine ⟨?_, fun c' hc' => ?_⟩
  · simpa [TableDef.addColumn] using hperm.append_right [c.name]
  · rcases List.mem_append.mp hc' with hc' | hc'
    · have hne : c'.name ≠ c.name := fun hn => hfresh (hn ▸ List.mem_map_of_mem hc')
      rw [Row.get_append_of_ne hne]
      exact hold c' hc'
    · obtain rfl := List.mem_singleton.mp hc'
      rwa [Row.get_append_self hrow]

theorem TableDef.conforms_dropColumn {types : List EnumType} {t : TableDef} {column : String}
    {r : Row} (h : t.Conforms types r) : (t.dropColumn column).Conforms types (r.drop column) := by
  obtain ⟨hperm, hold⟩ := h
  refine ⟨?_, fun c hc => ?_⟩
  · simpa only [Row.drop, TableDef.dropColumn, List.filter_map, Function.comp_def] using
      hperm.filter fun n => n != column
  · obtain ⟨hc, hne⟩ := List.mem_filter.mp hc
    rw [Row.get_drop_of_ne (by simpa using hne)]
    exact hold c hc

/-- Adding a column no constraint reads, filled with a fitting value. -/
theorem Schema.Valid.addColumn {S : Schema} {d : Data} {t : TableDef} {c : Column} {v : Value}
    {references : Option (String × String)} (hv : S.Valid d) (ht : t ∈ S.tables)
    (hfresh : c.name ∉ t.columnNames) (hfits : c.fits S.types v)
    (hfree : S.mentions t.name c.name = false) (hnull : references ≠ none → v = .null) :
    (S.setTable (t.addColumn c references)).Valid
      (d.mapTable t.name (· ++ [(c.name, v)])) := by
  -- no constraint of the old schema sees the new column
  have hframe : ∀ u ∈ S.tables, ∀ k ∈ u.constraints,
      k.Holds (d.mapTable t.name (· ++ [(c.name, v)])) u.name := by
    intro u hu k hk
    have hk' : ¬ ((u.name = t.name ∧ c.name ∈ k.columns) ∨ (t.name, c.name) ∈ k.refColumns) := by
      intro hbad
      have : S.mentions t.name c.name = true :=
        List.any_eq_true.mpr ⟨u, hu, List.any_eq_true.mpr ⟨k, hk, by simpa using hbad⟩⟩
      exact absurd (hfree ▸ this) Bool.false_ne_true
    obtain ⟨hown, href⟩ := not_or.mp hk'
    apply (Constraint.holds_mapTable (fun r _ => Row.get_append_of_ne) (not_and.mp hown) href).mpr
    exact (hv u hu).2 k hk
  intro u hu
  rcases mem_setTable hu with rfl | ⟨hu, hne⟩
  · refine ⟨?_, ?_⟩
    · rw [TableDef.addColumn, Data.mapTable_self, List.forall_mem_map]
      intro r hr
      exact TableDef.conforms_addColumn references ((hv t ht).1 r hr) hfresh hfits
    · intro k hk
      rcases List.mem_append.mp hk with hk | hk
      · exact hframe t ht k hk
      · -- the new foreign key: every value in it is NULL
        cases references with
        | none => simp at hk
        | some p =>
          obtain rfl : k = .foreignKey [c.name] p.1 [p.2] none := by simpa using hk
          rw [Constraint.Holds, TableDef.addColumn, Data.mapTable_self, List.forall_mem_map]
          intro r hr
          have hrow : c.name ∉ r.map Prod.fst :=
            fun hc => hfresh (((hv t ht).1 r hr).1.mem_iff.mp hc)
          refine .inl ⟨c.name, List.mem_singleton_self _, ?_⟩
          rw [Row.get_append_self hrow, hnull (by simp)]
          rfl
  · have hname : u.name ≠ t.name := hne
    refine ⟨?_, hframe u hu⟩
    rw [Data.mapTable_of_ne d _ hname]
    exact (hv u hu).1

/-- Dropping a column no other table refers to. -/
theorem Schema.Valid.dropColumn {S : Schema} {d : Data} {t : TableDef} {column : String}
    (hv : S.Valid d) (ht : t ∈ S.tables)
    (hfree : ∀ u ∈ S.tables, u.name ≠ t.name → ∀ k ∈ u.constraints,
      (t.name, column) ∉ k.refColumns) :
    (S.setTable (t.dropColumn column)).Valid (d.mapTable t.name (·.drop column)) := by
  have hframe : ∀ u ∈ S.tables, ∀ k ∈ u.constraints, (u.name = t.name → column ∉ k.columns) →
      (t.name, column) ∉ k.refColumns → k.Holds (d.mapTable t.name (·.drop column)) u.name := by
    intro u hu k hk hown href
    apply (Constraint.holds_mapTable (fun r _ => Row.get_drop_of_ne) hown href).mpr
    exact (hv u hu).2 k hk
  intro u hu
  rcases mem_setTable hu with rfl | ⟨hu, hne⟩
  · refine ⟨?_, ?_⟩
    · rw [TableDef.dropColumn, Data.mapTable_self, List.forall_mem_map]
      intro r hr
      exact TableDef.conforms_dropColumn ((hv t ht).1 r hr)
    · intro k hk
      obtain ⟨hk, hfilter⟩ := List.mem_filter.mp hk
      simp only [Bool.and_eq_true, Bool.not_eq_true', List.contains_eq_mem,
        decide_eq_false_iff_not] at hfilter
      exact hframe t ht k hk (fun _ => hfilter.1) hfilter.2
  · have hname : u.name ≠ t.name := hne
    refine ⟨?_, ?_⟩
    · rw [Data.mapTable_of_ne d _ hname]
      exact (hv u hu).1
    · intro k hk
      exact hframe u hu k hk (fun h => absurd h hname) (hfree u hu hname k hk)

/-- `ALTER TABLE … ADD COLUMN` succeeds when its default fits. -/
theorem exec_addColumn {S S' : Schema} {d : Data} {table : String} {c : Column} {v : Value}
    {references : Option (String × String)} (hv : S.Valid d)
    (h : (Ddl.addColumn table c references).alter S = .ok S')
    (hbackfill : c.backfill S.types = .ok v) (hfits : c.fits S.types v)
    (hfree : S.mentions table c.name = false) (hnull : references ≠ none → v = .null) :
    (Ddl.addColumn table c references).exec (S, d) =
      .ok (S', d.mapTable table (· ++ [(c.name, v)])) := by
  refine exec_ok h (by simp [Ddl.rewrite, hbackfill, bind, Except.bind]) ?_
  simp only [Ddl.alter] at h
  split at h
  · cases h
  · rename_i t ht
    obtain ⟨hmem, rfl⟩ := table?_eq_some ht
    obtain ⟨_, hfresh, h⟩ := bind_eq_ok h
    obtain ⟨_, -, h⟩ := bind_eq_ok h
    obtain ⟨_, -, h⟩ := bind_eq_ok h
    obtain rfl := Except.ok.inj h
    have hfresh' : c.name ∉ t.columnNames := by simpa using require_eq_ok hfresh
    exact hv.addColumn hmem hfresh' hfits hfree hnull

/-- `ALTER TABLE … DROP COLUMN` succeeds when the schema change does. -/
theorem exec_dropColumn {S S' : Schema} {d : Data} {table column : String} (hv : S.Valid d)
    (h : (Ddl.dropColumn table column).alter S = .ok S') :
    (Ddl.dropColumn table column).exec (S, d) =
      .ok (S', d.mapTable table (·.drop column)) := by
  refine exec_ok h rfl ?_
  simp only [Ddl.alter] at h
  split at h
  · cases h
  · rename_i t ht
    obtain ⟨hmem, rfl⟩ := table?_eq_some ht
    obtain ⟨_, -, h⟩ := bind_eq_ok h
    obtain ⟨_, hfree, h⟩ := bind_eq_ok h
    obtain rfl := Except.ok.inj h
    refine hv.dropColumn hmem fun u hu hne k hk href => ?_
    have hnone := require_eq_ok hfree
    simp only [Bool.not_eq_true', List.any_eq_false, Bool.and_eq_true, bne_iff_ne, not_and,
      Bool.not_eq_true] at hnone
    have hk' := hnone u hu hne k hk
    simp only [List.contains_eq_mem, decide_eq_false_iff_not] at hk'
    exact hk' href

-- ============================================================================
-- Checks and updates
-- ============================================================================

/-- `ALTER TABLE … ADD CHECK` succeeds when every stored row passes. -/
theorem exec_createCheck {S S' : Schema} {d : Data} {name table : String} {p : Cond}
    (hv : S.Valid d) (h : (Ddl.createCheck name table p).alter S = .ok S')
    (hp : ∀ r ∈ d table, p.admits r) :
    (Ddl.createCheck name table p).exec (S, d) = .ok (S', d) := by
  refine exec_ok h rfl ?_
  simp only [Ddl.alter] at h
  split at h
  · cases h
  · rename_i t ht
    obtain ⟨hmem, rfl⟩ := table?_eq_some ht
    split at h
    · cases h
    · split at h
      · cases h
      · obtain rfl := Except.ok.inj h
        intro u hu
        rcases mem_setTable hu with rfl | ⟨hu, -⟩
        · refine ⟨(hv t hmem).1, fun k hk => ?_⟩
          rcases List.mem_append.mp hk with hk | hk
          · exact (hv t hmem).2 k hk
          · obtain rfl := List.mem_singleton.mp hk
            exact hp
        · exact hv u hu

theorem Cond.evalAll_eq_ok {p : Cond} {rows : List Row} (h : ∀ r ∈ rows, ∃ x, p.eval r = .ok x) :
    p.evalAll rows = .ok () := by
  induction rows with
  | nil => rfl
  | cons r rows ih =>
      obtain ⟨x, hx⟩ := h r List.mem_cons_self
      simp only [Cond.evalAll, hx]
      exact ih fun s hs => h s (List.mem_cons_of_mem _ hs)

/-- An `UPDATE` that sets selected rows to what they hold changes nothing. -/
theorem exec_update_same {S S' : Schema} {d : Data} {table column literal : String} {p : Cond}
    {v : Value} (hv : S.Valid d) (h : (Ddl.update table column literal p).alter S = .ok S')
    (hlit : ((S.table? table).bind fun t =>
      (t.columns.find? fun c => c.name == column).map Column.type).bind
        (coerceLiteral S.types · literal) = some v)
    (heval : ∀ r ∈ d table, ∃ x, p.eval r = .ok x)
    (hsame : ∀ r ∈ d table, p.selects r → r.set column v = r) :
    (Ddl.update table column literal p).exec (S, d) = .ok (S', d) := by
  have hrows : d.mapTable table (Row.updateWhere column v p) = d := by
    funext t
    rw [Data.mapTable]
    split
    · rename_i ht
      subst ht
      refine (List.map_congr_left fun r hr => ?_).trans (List.map_id _)
      rw [Row.updateWhere]
      split
      · rename_i hsel
        exact hsame r hr hsel
      · rfl
    · rfl
  refine exec_ok h ?_ ?_
  · simp only [Ddl.rewrite, hlit, hrows, Cond.evalAll_eq_ok heval]
    rfl
  · simp only [Ddl.alter] at h
    split at h
    · cases h
    · split at h
      · obtain rfl := Except.ok.inj h
        exact hv
      · cases h

end Sql
