/-
  Vouch.Sql.Dml

  Inserting, updating and deleting rows under a schema.

  A statement changes the rows of one table one after the other.  Column types,
  NOT NULL, CHECK, UNIQUE and EXCLUDE are enforced on each change
  (`Schema.Immediate`); foreign keys are NO ACTION and not deferrable, so they
  are checked when the statement ends (`Schema.ForeignKeysHold`).

  Two schemas that enforce the same rules accept the same scripts
  (`Equivalent.run_eq`), and `Constraint.foreignKey_trans` is one way for their
  foreign keys to differ and still mean the same.
-/

import Vouch.Sql.Schema

namespace Sql

-- ============================================================================
-- When constraints are enforced
-- ============================================================================

def Constraint.isForeignKey : Constraint → Bool
  | .foreignKey _ _ _ _ => true
  | _ => false

/-- What a table enforces on every change of a row. -/
def TableDef.Immediate (types : List EnumType) (data : Data) (t : TableDef) : Prop :=
  (∀ r ∈ data t.name, t.Conforms types r) ∧
    ∀ k ∈ t.constraints, k.isForeignKey = false → k.Holds data t.name

/-- What a table enforces at the end of a statement. -/
def TableDef.ForeignKeysHold (data : Data) (t : TableDef) : Prop :=
  ∀ k ∈ t.constraints, k.isForeignKey = true → k.Holds data t.name

def Schema.Immediate (S : Schema) (data : Data) : Prop := ∀ t ∈ S.tables, t.Immediate S.types data

def Schema.ForeignKeysHold (S : Schema) (data : Data) : Prop :=
  ∀ t ∈ S.tables, t.ForeignKeysHold data

instance (types : List EnumType) (data : Data) (t : TableDef) :
    Decidable (t.Immediate types data) := inferInstanceAs (Decidable (_ ∧ _))

instance (data : Data) (t : TableDef) : Decidable (t.ForeignKeysHold data) :=
  inferInstanceAs (Decidable (∀ _ ∈ _, _))

instance (S : Schema) (data : Data) : Decidable (S.Immediate data) :=
  inferInstanceAs (Decidable (∀ _ ∈ _, _))

instance (S : Schema) (data : Data) : Decidable (S.ForeignKeysHold data) :=
  inferInstanceAs (Decidable (∀ _ ∈ _, _))

theorem TableDef.valid_iff {types : List EnumType} {data : Data} {t : TableDef} :
    t.Valid types data ↔ t.Immediate types data ∧ t.ForeignKeysHold data := by
  refine ⟨?_, ?_⟩
  · intro h
    exact ⟨⟨h.1, fun k hk _ => h.2 k hk⟩, fun k hk _ => h.2 k hk⟩
  · rintro ⟨⟨hrows, himm⟩, hfk⟩
    refine ⟨hrows, ?_⟩
    intro k hk
    cases hkind : k.isForeignKey with
    | false => exact himm k hk hkind
    | true => exact hfk k hk hkind

/-- A schema is satisfied when both kinds of rules are. -/
theorem Schema.valid_iff {S : Schema} {data : Data} :
    S.Valid data ↔ S.Immediate data ∧ S.ForeignKeysHold data := by
  refine ⟨?_, ?_⟩
  · intro h
    exact ⟨fun t ht => (TableDef.valid_iff.mp (h t ht)).1,
      fun t ht => (TableDef.valid_iff.mp (h t ht)).2⟩
  · rintro ⟨himm, hfk⟩ t ht
    exact TableDef.valid_iff.mpr ⟨himm t ht, hfk t ht⟩

-- ============================================================================
-- Statements
-- ============================================================================

/-- One changed row; rows are addressed by their position. -/
inductive Change where
  | insert (r : Row)
  | update (i : ℕ) (r : Row)
  | delete (i : ℕ)

def Change.apply (rows : List Row) : Change → List Row
  | .insert r => rows ++ [r]
  | .update i r => rows.set i r
  | .delete i => rows.eraseIdx i

/-- An INSERT, UPDATE or DELETE: the rows of one table it changes, in order. -/
structure Dml where
  table : String
  changes : List Change

def Data.change (d : Data) (table : String) (c : Change) : Data :=
  fun t => if t = table then c.apply (d t) else d t

/-- Change row after row; a violated rule fails the statement. -/
def runChanges (S : Schema) (table : String) : List Change → Data → Option Data
  | [], d => some d
  | c :: cs, d =>
      if S.Immediate (d.change table c) then runChanges S table cs (d.change table c) else none

/-- Execute one statement; `none` rolls it back. -/
def Dml.exec (S : Schema) (st : Dml) (d : Data) : Option Data := do
  let d' ← runChanges S st.table st.changes d
  if S.ForeignKeysHold d' then some d' else none

/-- Execute statements one after the other, up to the first that fails. -/
def Dml.run (S : Schema) : List Dml → Data → Option Data
  | [], d => some d
  | st :: script, d => do Dml.run S script (← st.exec S d)

theorem immediate_of_runChanges {S : Schema} {table : String} {cs : List Change} {d d' : Data}
    (hd : S.Immediate d) (h : runChanges S table cs d = some d') : S.Immediate d' := by
  induction cs generalizing d with
  | nil =>
    obtain rfl := Option.some.inj h
    exact hd
  | cons c cs ih =>
    rw [runChanges] at h
    split at h
    · next himm => exact ih himm h
    · cases h

/-- An accepted statement keeps the schema satisfied. -/
theorem Dml.exec_valid {S : Schema} {st : Dml} {d d' : Data} (hd : S.Valid d)
    (h : st.exec S d = some d') : S.Valid d' := by
  obtain ⟨e, hrun, h⟩ := Option.bind_eq_some_iff.mp h
  split at h
  · next hfk =>
    obtain rfl := Option.some.inj h
    exact Schema.valid_iff.mpr ⟨immediate_of_runChanges (Schema.valid_iff.mp hd).1 hrun, hfk⟩
  · cases h

-- ============================================================================
-- Equivalent schemas
-- ============================================================================

/-- The schemas enforce the same on every change, and their foreign keys agree
    on data that passes. -/
structure Equivalent (S S' : Schema) : Prop where
  immediate : ∀ d, S.Immediate d ↔ S'.Immediate d
  foreignKeys : ∀ d, S.Immediate d → (S.ForeignKeysHold d ↔ S'.ForeignKeysHold d)

namespace Equivalent

variable {S S' : Schema} (h : Equivalent S S')

include h

theorem valid_iff (d : Data) : S.Valid d ↔ S'.Valid d := by
  rw [Schema.valid_iff, Schema.valid_iff, ← h.immediate d]
  exact and_congr_right (h.foreignKeys d)

theorem runChanges_eq (table : String) (cs : List Change) (d : Data) :
    runChanges S table cs d = runChanges S' table cs d := by
  induction cs generalizing d with
  | nil => rfl
  | cons c cs ih =>
    rw [runChanges, runChanges, ih]
    exact if_congr (h.immediate _) rfl rfl

/-- One statement is accepted by both or by neither. -/
theorem exec_eq (st : Dml) {d : Data} (hd : S.Valid d) : st.exec S d = st.exec S' d := by
  unfold Dml.exec
  rw [← h.runChanges_eq]
  cases hrun : runChanges S st.table st.changes d with
  | none => rfl
  | some e =>
    have himm := immediate_of_runChanges (Schema.valid_iff.mp hd).1 hrun
    exact if_congr (h.foreignKeys e himm) rfl rfl

/-- And so is a script of statements. -/
theorem run_eq (script : List Dml) {d : Data} (hd : S.Valid d) :
    Dml.run S script d = Dml.run S' script d := by
  induction script generalizing d with
  | nil => rfl
  | cons st script ih =>
    rw [Dml.run, Dml.run, ← h.exec_eq st hd]
    cases hst : st.exec S d with
    | none => rfl
    | some e => exact ih (Dml.exec_valid hd hst)

end Equivalent

-- ============================================================================
-- Tables with the same rules
-- ============================================================================

section SameRules

variable {types : List EnumType} {data : Data} {t t' : TableDef} (hname : t.name = t'.name)

include hname

theorem TableDef.immediate_congr (hcolumns : t.columns = t'.columns)
    (hrules : ∀ k, k.isForeignKey = false → (k ∈ t.constraints ↔ k ∈ t'.constraints)) :
    t.Immediate types data ↔ t'.Immediate types data := by
  unfold TableDef.Immediate TableDef.Conforms
  rw [hname, hcolumns]
  apply and_congr_right
  intro _
  refine ⟨?_, ?_⟩
  · intro h k hk hkind
    exact h k ((hrules k hkind).mpr hk) hkind
  · intro h k hk hkind
    exact h k ((hrules k hkind).mp hk) hkind

theorem TableDef.foreignKeysHold_congr
    (hrules : ∀ k, k.isForeignKey = true → (k ∈ t.constraints ↔ k ∈ t'.constraints)) :
    t.ForeignKeysHold data ↔ t'.ForeignKeysHold data := by
  rw [TableDef.ForeignKeysHold, hname]
  refine ⟨?_, ?_⟩
  · intro h k hk hkind
    exact h k ((hrules k hkind).mpr hk) hkind
  · intro h k hk hkind
    exact h k ((hrules k hkind).mp hk) hkind

/-- One foreign key more. -/
theorem TableDef.foreignKeysHold_and {k : Constraint} (hk : k.isForeignKey = true)
    (hrules : ∀ k', k'.isForeignKey = true →
      (k' ∈ t.constraints ↔ k' ∈ t'.constraints ∨ k' = k)) :
    t.ForeignKeysHold data ↔ t'.ForeignKeysHold data ∧ k.Holds data t'.name := by
  rw [TableDef.ForeignKeysHold, hname]
  refine ⟨?_, ?_⟩
  · intro h
    refine ⟨?_, h k ((hrules k hk).mpr (.inr rfl)) hk⟩
    intro k' hk' hkind
    exact h k' ((hrules k' hkind).mpr (.inl hk')) hkind
  · rintro ⟨h, hextra⟩ k' hk' hkind
    rcases (hrules k' hkind).mp hk' with hold | rfl
    · exact h k' hold hkind
    · exact hextra

end SameRules

-- ============================================================================
-- Chains of foreign keys
-- ============================================================================

/-- Values that match as keys are one value. -/
theorem Value.eq_of_sameKey {a b : Value} (h : a.sameKey b = true) : a = b := by
  cases a <;> cases b <;> simp_all [Value.sameKey, Value.equal?]

theorem Value.not_null_of_sameKey {a b : Value} (h : a.sameKey b = true) : a.isNull = false := by
  cases a with
  | null => cases h
  | _ => rfl

/-- A pair of columns refers to a pair of `u`, whose second column refers to
    `v`; the first column is never NULL.  Then the second column refers to `v`. -/
theorem Constraint.foreignKey_trans {data : Data} {t u v a b c d e : String}
    {m n o : Option String}
    (hpair : (Constraint.foreignKey [a, b] u [c, d] m).Holds data t)
    (hset : ∀ r ∈ data t, (r.get a).isNull = false)
    (hnext : (Constraint.foreignKey [d] v [e] n).Holds data u) :
    (Constraint.foreignKey [b] v [e] o).Holds data t := by
  intro r hr
  rcases hpair r hr with ⟨x, hx, hnull⟩ | ⟨s, hs, hagree⟩
  · -- MATCH SIMPLE: only the second column can be NULL
    rcases List.mem_pair.mp hx with rfl | rfl
    · rw [hset r hr] at hnull
      cases hnull
    · exact .inl ⟨x, List.mem_singleton_self x, hnull⟩
  · have hsame : (r.get b).sameKey (s.get d) = true := by
      simp only [Row.agree, List.zip_cons_cons, List.zip_nil_right, List.all_cons, List.all_nil,
        Bool.and_true, Bool.and_eq_true] at hagree
      exact hagree.2
    have heq : r.get b = s.get d := Value.eq_of_sameKey hsame
    rcases hnext s hs with ⟨x, hx, hnull⟩ | ⟨w, hw, hagree'⟩
    · rw [List.mem_singleton.mp hx, ← heq, Value.not_null_of_sameKey hsame] at hnull
      cases hnull
    · refine .inr ⟨w, hw, ?_⟩
      simp only [Row.agree, List.zip_cons_cons, List.zip_nil_right, List.all_cons, List.all_nil,
        Bool.and_true] at hagree' ⊢
      rw [heq]
      exact hagree'

end Sql
