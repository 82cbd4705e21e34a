/-
  Vouch.Db.Insert

  Inserting a record under the migrated schema.

  The tables are known by their names, so an INSERT is a matter of the rules of
  one table (`exec_insert_iff`).  Of these, the column types hold of every record
  by construction (`Booking.conforms`, `HandoverRecord.conforms`); keys are facts
  about the other records.
-/

import Vouch.Db.Load
import Vouch.Sql.Insert

namespace Vouch

open Py (UUID)
open Sql (Row Value Constraint Data TableDef SqlType Column Dml)

-- ============================================================================
-- The statement
-- ============================================================================

/-- An INSERT of one row succeeds exactly if the rules of its table admit the row. -/
theorem exec_insert_iff {db : Database} (hvalid : db.Valid) {t : TableDef}
    (ht : t ∈ schema0002.tables) {r : Row} {d : Data} :
    Dml.exec schema0002 ⟨t.name, [.insert r]⟩ db.data = some d ↔
      t.AdmitsRow schema0002.types db.data r ∧ db.data.change t.name (.insert r) = d := by
  apply Dml.exec_insert_iff hvalid ht
  intro t' ht' hname
  have hfound := table?_schema0002 t' ht'
  rw [hname, table?_schema0002 t ht] at hfound
  exact (Option.some.inj hfound).symm

-- ============================================================================
-- Column types
-- ============================================================================

/-- A nullable column takes `None`, and whatever its type takes. -/
theorem fits_nullable {α : Type} {f : α → Value} {name : String} {type : SqlType}
    (hf : ∀ a, type.fits schema0002.types (f a)) (hset : ∀ a, (f a).isNull = false) (o : Option α) :
    Column.fits schema0002.types ⟨name, type, true, none⟩ (nullable f o) := by
  cases o with
  | none => rfl
  | some a =>
    show (if (f a).isNull then _ else type.fits _ (f a)) = true
    rw [hset a, if_neg Bool.false_ne_true]
    exact hf a

theorem fits_money {p s : ℕ} (n : Sql.Numeric p s) :
    (SqlType.numeric p s).fits schema0002.types (money n) := decide_eq_true n.in_range

/-- Every value of a booking fits its column. -/
theorem Booking.conforms (b : Booking) :
    Migration0001.bookings.Conforms schema0002.types b.toRow := by
  have hstatus : (SqlType.enum "bookingstatus").fits schema0002.types (.enum b.status.value) := by
    cases b.status <;> decide
  refine ⟨List.Perm.refl _, ?_⟩
  simp only [Migration0001.bookings, List.forall_mem_cons]
  refine ⟨rfl, rfl, rfl, rfl, rfl, rfl, hstatus, fits_money _, fits_money _, ?_, ?_, ?_, rfl, rfl,
    fun _ h => absurd h List.not_mem_nil⟩
  · exact fits_nullable (fun _ => rfl) (fun _ => rfl) b.platformNote
  · exact fits_nullable (fun _ => rfl) (fun _ => rfl) b.cancelledAt
  · exact fits_nullable (fun _ => rfl) (fun _ => rfl) b.cancellationReason

/-- Every value of a handover record fits its column. -/
theorem HandoverRecord.conforms (h : HandoverRecord) :
    Migration0001.handoverRecords.Conforms schema0002.types h.toRow := by
  have hdirection : (SqlType.enum "handoverdirection").fits schema0002.types
      (.enum h.direction.value) := by
    cases h.direction <;> decide
  have hstatus : (SqlType.enum "handoverstatus").fits schema0002.types (.enum h.status.value) := by
    cases h.status <;> decide
  refine ⟨List.Perm.refl _, ?_⟩
  simp only [Migration0001.handoverRecords, List.forall_mem_cons]
  refine ⟨rfl, rfl, hdirection, hstatus, rfl, ?_, ?_, ?_, ?_, ?_, ?_, ?_, ?_, rfl, rfl,
    fun _ h => absurd h List.not_mem_nil⟩
  · exact fits_nullable (fun _ => rfl) (fun _ => rfl) h.vendorSignerId
  · exact fits_nullable (fun _ => rfl) (fun _ => rfl) h.renterSignerId
  · exact fits_nullable (fun _ => rfl) (fun _ => rfl) h.vendorSignedAt
  · exact fits_nullable (fun _ => rfl) (fun _ => rfl) h.renterSignedAt
  · exact fits_nullable (fun _ => rfl) (fun _ => rfl) h.evidenceUrls
  · exact fits_nullable fits_money (fun _ => rfl) h.locationLat
  · exact fits_nullable fits_money (fun _ => rfl) h.locationLng
  · exact fits_nullable (fun _ => rfl) (fun _ => rfl) h.notes

-- ============================================================================
-- Keys
-- ============================================================================

section Keys

variable {α : Type} {data : Data} {table : String} {toRow : α → Row} {id : α → UUID} {rows : List α}
  (hdata : data table = rows.map toRow) (hid : ∀ x, (toRow x).get "id" = .uuid (id x))

include hdata hid

/-- A primary key admits a fresh id. -/
theorem admitsRow_primaryKey_iff (x : α) :
    (Constraint.primaryKey ["id"]).AdmitsRow data table (toRow x) ↔ ∀ y ∈ rows, id y ≠ id x := by
  have hset : ∀ column ∈ ["id"], ((toRow x).get column).isNull = false := by
    intro column hcolumn
    rw [List.mem_singleton.mp hcolumn, hid]
    rfl
  rw [Constraint.AdmitsRow, and_iff_right hset, hdata, List.forall_mem_map]
  refine forall₂_congr fun y _ => not_congr ?_
  rw [agree_singleton, hid, hid, sameKey_uuid]

/-- A unique constraint that contains the id admits it too. -/
theorem admitsRow_unique {x : α} (column : String) (name : Option String)
    (hfresh : ∀ y ∈ rows, id y ≠ id x) :
    (Constraint.unique ["id", column] name).AdmitsRow data table (toRow x) := by
  rw [Constraint.AdmitsRow, hdata, List.forall_mem_map]
  intro y hy hagree
  rw [agree_pair, Bool.and_eq_true, hid, hid] at hagree
  exact hfresh y hy (sameKey_uuid.mp hagree.1)

/-- A foreign key from another table admits a row whose reference resolves. -/
theorem admitsRow_foreignKey_iff {own column : String} (hne : table ≠ own) {r : Row} {u : UUID}
    (hget : r.get column = .uuid u) :
    (Constraint.foreignKey [column] table ["id"] none).AdmitsRow data own r ↔
      ∃ x ∈ rows, id x = u := by
  rw [Constraint.AdmitsRow, Data.change_of_ne hne, hdata]
  refine ⟨?_, ?_⟩
  · rintro (⟨c, hc, hnull⟩ | ⟨s, hs, hagree⟩)
    · rw [List.mem_singleton.mp hc, hget] at hnull
      cases hnull
    · obtain ⟨x, hx, rfl⟩ := List.mem_map.mp hs
      rw [agree_singleton, hget, hid, sameKey_uuid] at hagree
      exact ⟨x, hx, hagree.symm⟩
  · rintro ⟨x, hx, heq⟩
    refine .inr ⟨toRow x, List.mem_map_of_mem hx, ?_⟩
    rw [agree_singleton, hget, hid, sameKey_uuid]
    exact heq.symm

end Keys

end Vouch
