/-
  Vouch.Sql.SameRules

  Two presentations of one schema.

  Tables with the same name, columns and constraints, listed in any order,
  enforce the same rules, and so do schemas made of such tables
  (`Equivalent.of_sameRules`): no script of statements tells them apart.
-/

import Vouch.Sql.Dml
import Vouch.Sql.Preserve

namespace Sql

/-- The same table, up to the order of its columns and constraints. -/
structure TableDef.SameRules (t t' : TableDef) : Prop where
  name : t.name = t'.name
  columns : t.columns.Perm t'.columns
  constraints : ∀ k, k ∈ t.constraints ↔ k ∈ t'.constraints

namespace TableDef.SameRules

variable {t t' : TableDef} {types types' : List EnumType} {d : Data}

theorem refl (t : TableDef) : t.SameRules t := ⟨rfl, .refl _, fun _ => Iff.rfl⟩

theorem symm (h : t.SameRules t') : t'.SameRules t :=
  ⟨h.name.symm, h.columns.symm, fun k => (h.constraints k).symm⟩

theorem conforms {r : Row} (h : t.SameRules t') (htypes : ∀ e ∈ types, e ∈ types')
    (hr : t.Conforms types r) : t'.Conforms types' r := by
  refine ⟨hr.1.trans (h.columns.map Column.name), ?_⟩
  intro c hc
  have hfits := hr.2 c (h.columns.mem_iff.mpr hc)
  exact Column.fits_of_type (SqlType.fits_mono htypes c.type _) hfits

theorem immediate (h : t.SameRules t') (htypes : ∀ e ∈ types, e ∈ types')
    (ht : t.Immediate types d) : t'.Immediate types' d := by
  refine ⟨?_, ?_⟩
  · rw [← h.name]
    exact fun r hr => h.conforms htypes (ht.1 r hr)
  · intro k hk hkind
    rw [← h.name]
    exact ht.2 k ((h.constraints k).mpr hk) hkind

theorem foreignKeysHold (h : t.SameRules t') (ht : t.ForeignKeysHold d) : t'.ForeignKeysHold d := by
  intro k hk hkind
  rw [← h.name]
  exact ht k ((h.constraints k).mpr hk) hkind

end TableDef.SameRules

namespace Equivalent

variable {S S' S'' : Schema}

theorem trans (h : Equivalent S S') (h' : Equivalent S' S'') : Equivalent S S'' := by
  refine ⟨fun d => (h.immediate d).trans (h'.immediate d), ?_⟩
  intro d hd
  exact (h.foreignKeys d hd).trans (h'.foreignKeys d ((h.immediate d).mp hd))

/-- The order of types, tables, columns and constraints does not matter. -/
theorem of_sameRules (htypes : ∀ e, e ∈ S.types ↔ e ∈ S'.types)
    (hleft : ∀ t ∈ S.tables, ∃ t' ∈ S'.tables, t.SameRules t')
    (hright : ∀ t' ∈ S'.tables, ∃ t ∈ S.tables, t.SameRules t') : Equivalent S S' := by
  refine ⟨?_, ?_⟩
  · intro d
    refine ⟨?_, ?_⟩
    · intro hd t' ht'
      obtain ⟨t, ht, hsame⟩ := hright t' ht'
      exact hsame.immediate (fun e => (htypes e).mp) (hd t ht)
    · intro hd t ht
      obtain ⟨t', ht', hsame⟩ := hleft t ht
      exact hsame.symm.immediate (fun e => (htypes e).mpr) (hd t' ht')
  · intro d _
    refine ⟨?_, ?_⟩
    · intro hd t' ht'
      obtain ⟨t, ht, hsame⟩ := hright t' ht'
      exact hsame.foreignKeysHold (hd t ht)
    · intro hd t ht
      obtain ⟨t', ht', hsame⟩ := hleft t ht
      exact hsame.symm.foreignKeysHold (hd t' ht')

end Equivalent

end Sql
