/-
  Vouch.Sql.Deployment

  A deployed database: its recorded revision, its schema and its rows, under
  migrations and transactions in any order.

  An upgrade runs the migration whose down revision is the recorded one, a
  downgrade undoes the migration that is recorded, and each of them, like a
  transaction, takes effect as a whole or not at all.  When every migration
  leads from consistent data to consistent data (`Migration.Sound`), so does
  every run, and no migration ever fails (`sound_stateAt`, `attempt_upgrade`,
  `attempt_downgrade`).
-/

import Vouch.Machine.Run
import Vouch.Sql.Dml
import Vouch.Sql.Script

namespace Sql

-- ============================================================================
-- Operations
-- ============================================================================

/-- A migration script; `downRevision` is the revision it starts from. -/
structure Migration where
  revision : String
  downRevision : Option String
  upgrade : List Ddl
  downgrade : List Ddl

/-- A database; no version is recorded before the first migration. -/
structure Deployment where
  version : Option String
  schema : Schema
  data : Data

/-- The database before the first migration. -/
def Deployment.base : Deployment := ⟨none, ⟨[], [], []⟩, fun _ => []⟩

inductive Operation where
  | upgrade
  | downgrade
  | transaction (script : List Dml)

inductive Failure where
  | migration (e : DdlError)
  | noTable
  | rejected

namespace Deployment

/-- Every statement of the transaction is about a table of the schema. -/
def names (s : Deployment) (script : List Dml) : Bool :=
  script.all fun st => (s.schema.table? st.table).isSome

/-- Run a migration script and record the version it leads to. -/
def migrate (s : Deployment) (script : List Ddl) (version : Option String) :
    Except Failure Deployment :=
  match run script (s.schema, s.data) with
  | .ok db => .ok ⟨version, db.1, db.2⟩
  | .error e => .error (.migration e)

/-- What an operation leads to; without a migration to run nothing happens. -/
def attempt (versions : List Migration) (s : Deployment) : Operation → Except Failure Deployment
  | .upgrade =>
      match versions.find? fun m => m.downRevision == s.version with
      | none => .ok s
      | some m => s.migrate m.upgrade (some m.revision)
  | .downgrade =>
      match versions.find? fun m => some m.revision == s.version with
      | none => .ok s
      | some m => s.migrate m.downgrade m.downRevision
  | .transaction script =>
      if s.names script then
        match Dml.run s.schema script s.data with
        | some d => .ok { s with data := d }
        | none => .error .rejected
      else .error .noTable

/-- One operation; one that fails is rolled back. -/
def step (versions : List Migration) (s : Deployment) (o : Operation) : Deployment :=
  match s.attempt versions o with
  | .ok s' => s'
  | .error _ => s

theorem step_of_ok {versions : List Migration} {s s' : Deployment} {o : Operation}
    (h : s.attempt versions o = .ok s') : s.step versions o = s' := by
  rw [step, h]

theorem step_of_error {versions : List Migration} {s : Deployment} {o : Operation} {e : Failure}
    (h : s.attempt versions o = .error e) : s.step versions o = s := by
  rw [step, h]

end Deployment

-- ============================================================================
-- Consistent data
-- ============================================================================

/-- The rows satisfy the schema, and there are no others. -/
structure Schema.Consistent (S : Schema) (d : Data) : Prop where
  valid : S.Valid d
  within : S.Within d

/-- A transaction touches the tables it names. -/
theorem Dml.exec_of_ne {S : Schema} {st : Dml} {d d' : Data} (h : st.exec S d = some d')
    {name : String} (hne : name ≠ st.table) : d' name = d name := by
  obtain ⟨e, hrun, h⟩ := Option.bind_eq_some_iff.mp h
  have hframe : ∀ {cs : List Change} {d : Data}, runChanges S st.table cs d = some e →
      e name = d name := by
    intro cs
    induction cs with
    | nil =>
      intro d hrun
      rw [Option.some.inj hrun]
    | cons c cs ih =>
      intro d hrun
      rw [runChanges] at hrun
      split_ifs at hrun
      rw [ih hrun, Data.change, if_neg hne]
  split_ifs at h
  rw [← Option.some.inj h, hframe hrun]

theorem Dml.run_consistent {S : Schema} {script : List Dml} {d d' : Data} (hd : S.Consistent d)
    (hnames : ∀ st ∈ script, (S.table? st.table).isSome) (h : Dml.run S script d = some d') :
    S.Consistent d' := by
  induction script generalizing d with
  | nil =>
    obtain rfl := Option.some.inj h
    exact hd
  | cons st script ih =>
    rw [List.forall_mem_cons] at hnames
    obtain ⟨e, hst, hrest⟩ := Option.bind_eq_some_iff.mp h
    refine ih ⟨Dml.exec_valid hd.valid hst, ?_⟩ hnames.2 hrest
    intro name hname
    have hne : name ≠ st.table := by
      rintro rfl
      rw [hname] at hnames
      cases hnames.1
    rw [Dml.exec_of_ne hst hne, hd.within name hname]

-- ============================================================================
-- Runs
-- ============================================================================

/-- The migration leads from consistent data at its down revision to consistent
    data at its revision, and back. -/
structure Migration.Sound (schemaOf : Option String → Schema) (m : Migration) : Prop where
  upgrade : ∀ d, (schemaOf m.downRevision).Consistent d → ∃ d',
    run m.upgrade (schemaOf m.downRevision, d) = .ok (schemaOf (some m.revision), d') ∧
      (schemaOf (some m.revision)).Within d'
  downgrade : ∀ d, (schemaOf (some m.revision)).Consistent d → ∃ d',
    run m.downgrade (schemaOf (some m.revision), d) = .ok (schemaOf m.downRevision, d') ∧
      (schemaOf m.downRevision).Within d'

/-- The schema is that of the recorded revision, and the data is consistent. -/
structure Deployment.Sound (schemaOf : Option String → Schema) (s : Deployment) : Prop where
  schema : s.schema = schemaOf s.version
  consistent : s.schema.Consistent s.data

namespace Deployment

section Sound

variable {versions : List Migration} {schemaOf : Option String → Schema} {s s' : Deployment}

theorem migrate_of_run {script : List Ddl} {S : Schema} {d : Data} (version : Option String)
    (h : run script (s.schema, s.data) = .ok (S, d)) :
    s.migrate script version = .ok ⟨version, S, d⟩ := by
  rw [migrate, h]

/-- A script that leads to consistent data of the next version. -/
theorem sound_of_run {script : List Ddl} {version : Option String} {d : Data}
    (hs : s.Sound schemaOf) (hrun : run script (s.schema, s.data) = .ok (schemaOf version, d))
    (hwithin : (schemaOf version).Within d) :
    ∃ s', s.migrate script version = .ok s' ∧ s'.Sound schemaOf :=
  ⟨_, migrate_of_run version hrun, rfl, run_valid hs.consistent.valid hrun, hwithin⟩

variable (hversions : ∀ m ∈ versions, m.Sound schemaOf)

include hversions

/-- An upgrade succeeds. -/
theorem attempt_upgrade (hs : s.Sound schemaOf) :
    ∃ s', s.attempt versions .upgrade = .ok s' ∧ s'.Sound schemaOf := by
  rw [attempt]
  cases hm : versions.find? fun m => m.downRevision == s.version with
  | none => exact ⟨s, rfl, hs⟩
  | some m =>
    have hfound := List.find?_some hm
    have hschema : s.schema = schemaOf m.downRevision := by rw [hs.schema, beq_iff_eq.mp hfound]
    obtain ⟨d, hrun, hwithin⟩ := (hversions m (List.mem_of_find?_eq_some hm)).upgrade s.data
      (hschema ▸ hs.consistent)
    exact sound_of_run hs (hschema ▸ hrun) hwithin

/-- A downgrade succeeds, whatever the tables hold. -/
theorem attempt_downgrade (hs : s.Sound schemaOf) :
    ∃ s', s.attempt versions .downgrade = .ok s' ∧ s'.Sound schemaOf := by
  rw [attempt]
  cases hm : versions.find? fun m => some m.revision == s.version with
  | none => exact ⟨s, rfl, hs⟩
  | some m =>
    have hfound := List.find?_some hm
    have hschema : s.schema = schemaOf (some m.revision) := by
      rw [hs.schema, beq_iff_eq.mp hfound]
    obtain ⟨d, hrun, hwithin⟩ := (hversions m (List.mem_of_find?_eq_some hm)).downgrade s.data
      (hschema ▸ hs.consistent)
    exact sound_of_run hs (hschema ▸ hrun) hwithin

omit hversions in
/-- A transaction that is accepted leaves consistent data. -/
theorem sound_of_transaction {script : List Dml} (hs : s.Sound schemaOf)
    (h : s.attempt versions (.transaction script) = .ok s') : s'.Sound schemaOf := by
  rw [attempt] at h
  split_ifs at h with hnames
  cases hrun : Dml.run s.schema script s.data with
  | none => simp [hrun] at h
  | some d =>
    simp only [hrun] at h
    obtain rfl := Except.ok.inj h
    exact ⟨hs.schema, Dml.run_consistent hs.consistent (List.all_eq_true.mp hnames) hrun⟩

theorem sound_step (hs : s.Sound schemaOf) (o : Operation) :
    (s.step versions o).Sound schemaOf := by
  cases o with
  | upgrade =>
    obtain ⟨s', hok, hs'⟩ := attempt_upgrade hversions hs
    rwa [step_of_ok hok]
  | downgrade =>
    obtain ⟨s', hok, hs'⟩ := attempt_downgrade hversions hs
    rwa [step_of_ok hok]
  | transaction script =>
    cases hattempt : s.attempt versions (.transaction script) with
    | error e => rwa [step_of_error hattempt]
    | ok s' =>
      rw [step_of_ok hattempt]
      exact sound_of_transaction hs hattempt

/-- Every state of every run is sound. -/
theorem sound_stateAt (hs : s.Sound schemaOf) (ops : List Operation) (n : ℕ) :
    (Machine.stateAt (step versions) s ops n).Sound schemaOf := by
  refine Machine.keeps (Deployment.Sound schemaOf) ?_ (Nat.zero_le n) (by simpa using hs)
  intro s o hs
  exact sound_step hversions hs o

end Sound

end Deployment

end Sql
