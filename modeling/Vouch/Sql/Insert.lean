/-
  Vouch.Sql.Insert

  Which rows a table takes.

  An INSERT leaves the rows that are there as they are, so of a schema that is
  satisfied only the rules about the new row have to be checked:
  `Constraint.AdmitsRow` says what each of them asks of it.  Every other row and
  every other table keeps its rules, foreign keys to the table included, since
  what they refer to is still there (`holds_insert`).
-/

import Vouch.Sql.Dml

namespace Sql

-- ============================================================================
-- Rules about one more row
-- ============================================================================

/-- What the rule, declared on `table`, asks of a row to be inserted. -/
def Constraint.AdmitsRow (data : Data) (table : String) (r : Row) : Constraint → Prop
  | .primaryKey cs =>
      (∀ c ∈ cs, (r.get c).isNull = false) ∧ ∀ s ∈ data table, ¬ s.agree cs r cs
  | .unique cs _ => ∀ s ∈ data table, ¬ s.agree cs r cs
  | .foreignKey cs ref refCs _ =>
      -- the new row may refer to itself
      (∃ c ∈ cs, (r.get c).isNull) ∨ ∃ s ∈ (data.change table (.insert r)) ref, r.agree cs s refCs
  | .check p _ => p.admits r
  | .exclude _ key lo hi p =>
      rangeDefined lo hi p r ∧ ∀ s ∈ data table, ¬ excluded key lo hi p s r

/-- What the table asks of a row to be inserted. -/
structure TableDef.AdmitsRow (types : List EnumType) (data : Data) (t : TableDef) (r : Row) :
    Prop where
  conforms : t.Conforms types r
  constraints : ∀ k ∈ t.constraints, k.AdmitsRow data t.name r

section Rows

variable {data : Data} {table : String} {r : Row}

theorem Data.change_insert_self : (data.change table (.insert r)) table = data table ++ [r] := by
  show (if table = table then data table ++ [r] else data table) = _
  rw [if_pos rfl]

theorem Data.change_of_ne {c : Change} {name : String} (h : name ≠ table) :
    (data.change table c) name = data name := if_neg h

/-- The table holds its rows and the new one, every other table what it held. -/
theorem Data.eq_change_insert {data' : Data} (htable : data' table = data table ++ [r])
    (hother : ∀ name ≠ table, data' name = data name) :
    data' = data.change table (.insert r) := by
  funext name
  by_cases hname : name = table
  · rw [hname, Data.change_insert_self, htable]
  · rw [Data.change_of_ne hname, hother name hname]

/-- A table never loses a row by an INSERT. -/
theorem Data.mem_change_insert {name : String} {s : Row} (h : s ∈ data name) :
    s ∈ (data.change table (.insert r)) name := by
  by_cases hname : name = table
  · rw [hname, Data.change_insert_self]
    exact List.mem_append_left _ (hname ▸ h)
  · rw [Data.change_of_ne hname]
    exact h

theorem forall_mem_insert {P : Row → Prop} :
    (∀ s ∈ (data.change table (.insert r)) table, P s) ↔ (∀ s ∈ data table, P s) ∧ P r := by
  rw [Data.change_insert_self, List.forall_mem_append, List.forall_mem_singleton]

/-- One more row beside rows that are pairwise related. -/
theorem pairwise_insert {R : Row → Row → Prop} :
    ((data.change table (.insert r)) table).Pairwise R ↔
      (data table).Pairwise R ∧ ∀ s ∈ data table, R s r := by
  rw [Data.change_insert_self, List.pairwise_append]
  refine ⟨?_, ?_⟩
  · rintro ⟨hold, -, hnew⟩
    exact ⟨hold, fun s hs => hnew s hs r (List.mem_singleton_self r)⟩
  · rintro ⟨hold, hnew⟩
    refine ⟨hold, List.pairwise_singleton R r, ?_⟩
    intro s hs x hx
    rw [List.mem_singleton.mp hx]
    exact hnew s hs

/-- A rule that holds goes on holding exactly if it admits the row. -/
theorem Constraint.holds_insert_iff {k : Constraint} (h : k.Holds data table) :
    k.Holds (data.change table (.insert r)) table ↔ k.AdmitsRow data table r := by
  cases k with
  | primaryKey cs =>
    show (_ ∧ List.Pairwise _ _) ↔ _
    rw [forall_mem_insert, pairwise_insert]
    exact ⟨fun hall => ⟨hall.1.2, hall.2.2⟩, fun hnew => ⟨⟨h.1, hnew.1⟩, h.2, hnew.2⟩⟩
  | unique cs name =>
    show List.Pairwise _ _ ↔ _
    rw [pairwise_insert]
    exact and_iff_right h
  | foreignKey cs ref refCs name =>
    show (∀ s ∈ _, _) ↔ _
    rw [forall_mem_insert]
    refine and_iff_right ?_
    intro s hs
    rcases h s hs with hnull | ⟨x, hx, hagree⟩
    · exact .inl hnull
    · exact .inr ⟨x, Data.mem_change_insert hx, hagree⟩
  | check p name =>
    show (∀ s ∈ _, _) ↔ _
    rw [forall_mem_insert]
    exact and_iff_right h
  | exclude name key lo hi p =>
    show (_ ∧ List.Pairwise _ _) ↔ _
    rw [forall_mem_insert, pairwise_insert]
    exact ⟨fun hall => ⟨hall.1.2, hall.2.2⟩, fun hnew => ⟨⟨h.1, hnew.1⟩, h.2, hnew.2⟩⟩

/-- A rule of another table goes on holding. -/
theorem Constraint.holds_insert {k : Constraint} {name : String} (hne : name ≠ table)
    (h : k.Holds data name) : k.Holds (data.change table (.insert r)) name := by
  have hrows : (data.change table (.insert r)) name = data name := Data.change_of_ne hne
  cases k with
  | foreignKey cs ref refCs n =>
    intro s hs
    rw [hrows] at hs
    rcases h s hs with hnull | ⟨x, hx, hagree⟩
    · exact .inl hnull
    · exact .inr ⟨x, Data.mem_change_insert hx, hagree⟩
  | _ => simpa only [Constraint.Holds, hrows] using h

end Rows

-- ============================================================================
-- The statement
-- ============================================================================

section Schema

variable {S : Schema} {d : Data} (hd : S.Valid d) {t : TableDef} (ht : t ∈ S.tables)
  (hname : ∀ t' ∈ S.tables, t'.name = t.name → t' = t) {r : Row}

include hd ht hname

/-- A satisfied schema goes on being satisfied exactly if the table admits the row. -/
theorem Schema.valid_insert_iff :
    S.Valid (d.change t.name (.insert r)) ↔ t.AdmitsRow S.types d r := by
  refine ⟨?_, ?_⟩
  · intro h
    obtain ⟨hrows, hrules⟩ := h t ht
    refine ⟨(forall_mem_insert.mp hrows).2, ?_⟩
    intro k hk
    exact (Constraint.holds_insert_iff ((hd t ht).2 k hk)).mp (hrules k hk)
  · intro h t' ht'
    obtain ⟨hrows, hrules⟩ := hd t' ht'
    by_cases hsame : t'.name = t.name
    · obtain rfl := hname t' ht' hsame
      refine ⟨forall_mem_insert.mpr ⟨hrows, h.conforms⟩, ?_⟩
      intro k hk
      exact (Constraint.holds_insert_iff (hrules k hk)).mpr (h.constraints k hk)
    · refine ⟨?_, fun k hk => Constraint.holds_insert hsame (hrules k hk)⟩
      rw [Data.change_of_ne hsame]
      exact hrows

/-- An INSERT of one row is accepted exactly if the table admits the row, and
    then adds it. -/
theorem Dml.exec_insert_iff {d' : Data} :
    Dml.exec S ⟨t.name, [.insert r]⟩ d = some d' ↔
      t.AdmitsRow S.types d r ∧ d.change t.name (.insert r) = d' := by
  rw [← Schema.valid_insert_iff hd ht hname, Schema.valid_iff, Dml.exec]
  simp only [runChanges]
  by_cases himm : S.Immediate (d.change t.name (.insert r))
  · by_cases hfk : S.ForeignKeysHold (d.change t.name (.insert r))
    · simp [himm, hfk]
    · simp [himm, hfk]
  · simp [himm]

end Schema

end Sql
