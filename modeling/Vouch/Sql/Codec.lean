/-
  Vouch.Sql.Codec

  Attributes stored in columns, and records stored in rows.

  A `Codec` stores the values of a Lean type as non-null values of an SQL type
  and reads whatever that type admits.  A `RowCodec` does the same for a record
  and the columns of its table.  It is put together from codecs of its columns
  (`column`, `nullableColumn`, `pair`, `iso`), so a record gets its laws from
  those of its attributes: every row that conforms is read (`read_of_conforms`),
  and what was stored is what is read (`read_store`).

  The order in which a row lists its columns constrains nothing.
  `Schema.arrange` brings every row to the order of its table, changes no value
  (`get_arrange`) and keeps the schema satisfied (`Schema.Valid.arrange`).
-/

import Vouch.Sql.Numeric
import Vouch.Sql.Preserve

namespace Sql

open Py (UUID Instant Json)

variable {α β : Type} {types : List EnumType}

-- ============================================================================
-- Attributes
-- ============================================================================

/-- How values of `α` stand in columns of a type. -/
structure Codec (types : List EnumType) (α : Type) where
  type : SqlType
  store : α → Value
  read : Value → Option α
  /-- Whatever the type admits is read, and stores as it was. -/
  read_of_fits : ∀ v, type.fits types v → ∃ a, read v = some a ∧ store a = v
  read_store : ∀ a, read (store a) = some a
  store_notNull : ∀ a, (store a).isNull = false

namespace Codec

def uuid : Codec types UUID where
  type := .uuid
  store := .uuid
  read v := match v with | .uuid u => some u | _ => none
  read_of_fits v hv := by cases v <;> simp_all [SqlType.fits]
  read_store _ := rfl
  store_notNull _ := rfl

def text : Codec types String where
  type := .text
  store := .text
  read v := match v with | .text s => some s | _ => none
  read_of_fits v hv := by cases v <;> simp_all [SqlType.fits]
  read_store _ := rfl
  store_notNull _ := rfl

def boolean : Codec types Bool where
  type := .boolean
  store := .bool
  read v := match v with | .bool b => some b | _ => none
  read_of_fits v hv := by cases v <;> simp_all [SqlType.fits]
  read_store _ := rfl
  store_notNull _ := rfl

def integer : Codec types Int where
  type := .integer
  store := .int
  read v := match v with | .int n => some n | _ => none
  read_of_fits v hv := by cases v <;> simp_all [SqlType.fits]
  read_store _ := rfl
  store_notNull _ := rfl

def date : Codec types Int where
  type := .date
  store := .date
  read v := match v with | .date d => some d | _ => none
  read_of_fits v hv := by cases v <;> simp_all [SqlType.fits]
  read_store _ := rfl
  store_notNull _ := rfl

def timestamptz : Codec types Instant where
  type := .timestamptz
  store := .timestamptz
  read v := match v with | .timestamptz t => some t | _ => none
  read_of_fits v hv := by cases v <;> simp_all [SqlType.fits]
  read_store _ := rfl
  store_notNull _ := rfl

def jsonb : Codec types Json where
  type := .jsonb
  store := .jsonb
  read v := match v with | .jsonb j => some j | _ => none
  read_of_fits v hv := by cases v <;> simp_all [SqlType.fits]
  read_store _ := rfl
  store_notNull _ := rfl

def numeric (p s : ℕ) : Codec types (Numeric p s) where
  type := .numeric p s
  store a := .numeric a.unscaled
  read v := match v with
    | .numeric n => if h : n.natAbs < 10 ^ p then some ⟨n, h⟩ else none
    | _ => none
  read_of_fits v hv := by cases v <;> simp_all [SqlType.fits]
  read_store a := dif_pos a.in_range
  store_notNull _ := rfl

/-- A member is found by its label. -/
theorem find?_label {members : List α} {value : α → String} (hmembers : ∀ a, a ∈ members)
    (hvalue : Function.Injective value) (a : α) :
    (members.find? fun b => value b == value a) = some a := by
  obtain ⟨b, hb⟩ : ∃ b, (members.find? fun b => value b == value a) = some b := by
    rw [← Option.isSome_iff_exists, List.find?_isSome]
    exact ⟨a, hmembers a, beq_self_eq_true _⟩
  have hfound := List.find?_some hb
  rw [hb, hvalue (beq_iff_eq.mp hfound)]

/-- An enumeration: its members, stored under their labels. -/
def enum (name : String) (members : List α) (value : α → String)
    (hmembers : ∀ a, a ∈ members) (hvalue : Function.Injective value)
    (hlabels : ∀ e ∈ types, e.name = name → e.labels = members.map value) : Codec types α where
  type := .enum name
  store a := .enum (value a)
  read v := match v with
    | .enum label => members.find? fun a => value a == label
    | _ => none
  read_of_fits v hv := by
    cases v <;> simp only [SqlType.fits, Bool.false_eq_true] at hv
    rename_i label
    obtain ⟨e, he, hlabel⟩ := List.any_eq_true.mp hv
    simp only [Bool.and_eq_true, beq_iff_eq, List.contains_eq_mem, decide_eq_true_eq] at hlabel
    rw [hlabels e he hlabel.1, List.mem_map] at hlabel
    obtain ⟨-, a, -, rfl⟩ := hlabel
    exact ⟨a, find?_label hmembers hvalue a, rfl⟩
  read_store a := find?_label hmembers hvalue a
  store_notNull _ := rfl

end Codec

-- ============================================================================
-- Rows
-- ============================================================================

/-- The named columns of a row, in this order. -/
def Row.project (r : Row) (names : List String) : Row := names.map fun n => (n, r.get n)

theorem Row.get_project (r : Row) (names : List String) (c : String) :
    (r.project names).get c = if c ∈ names then r.get c else .null := by
  induction names with
  | nil => rfl
  | cons n names ih =>
      by_cases hc : c = n
      · subst hc
        simp [Row.get, Row.project]
      · have hne : (c == n) = false := by simpa using hc
        rw [Row.project, List.map_cons, Row.get, List.lookup_cons, hne]
        rw [Row.project, Row.get] at ih
        simp only [List.mem_cons, hc, false_or]
        exact ih

/-- Of a row without duplicate columns each pair is read back. -/
theorem Row.get_of_mem {r : Row} (hnodup : (r.map Prod.fst).Nodup) {p : String × Value}
    (hp : p ∈ r) : r.get p.1 = p.2 := by
  induction r with
  | nil => exact absurd hp List.not_mem_nil
  | cons q r ih =>
      obtain ⟨hq, hnodup⟩ := List.nodup_cons.mp hnodup
      rw [Row.get, List.lookup_cons]
      rcases List.mem_cons.mp hp with rfl | hp
      · simp
      · have hne : (p.1 == q.1) = false := by
          have : p.1 ≠ q.1 := fun h => hq (h ▸ List.mem_map_of_mem hp)
          simpa using this
        rw [hne]
        exact ih hnodup hp

/-- A conforming row holds nothing beside the columns of its table. -/
theorem TableDef.Conforms.get_project {t : TableDef} {r : Row} (h : t.Conforms types r)
    (c : String) : (r.project t.columnNames).get c = r.get c := by
  rw [Row.get_project]
  split_ifs with hc
  · rfl
  · refine (Row.get_of_not_mem fun hmem => hc ?_).symm
    exact h.1.mem_iff.mp hmem

theorem TableDef.Conforms.project {t : TableDef} {r : Row} (h : t.Conforms types r) :
    t.Conforms types (r.project t.columnNames) := by
  refine ⟨?_, fun c hc => ?_⟩
  · rw [Row.project, List.map_map]
    exact List.Perm.of_eq (List.map_id _)
  · rw [h.get_project]
    exact h.2 c hc

-- ============================================================================
-- Records
-- ============================================================================

/-- How records of `α` stand in the columns of a table. -/
structure RowCodec (types : List EnumType) (α : Type) where
  columns : List Column
  store : α → Row
  read : Row → Option α
  names_store : ∀ a, (store a).map Prod.fst = columns.map Column.name
  /-- Whatever the columns admit is read, and stores as it was. -/
  read_of_fits : ∀ r : Row, (∀ c ∈ columns, c.fits types (r.get c.name)) →
    ∃ a, read r = some a ∧ store a = r.project (columns.map Column.name)
  /-- A row that holds what is stored is read as it. -/
  read_of_agree : ∀ (r : Row) (a : α), (∀ p ∈ store a, r.get p.1 = p.2) → read r = some a

namespace RowCodec

/-- A NOT NULL column. -/
def column (name : String) (c : Codec types α) : RowCodec types α where
  columns := [⟨name, c.type, false, none⟩]
  store a := [(name, c.store a)]
  read r := c.read (r.get name)
  names_store _ := rfl
  read_of_fits r h := by
    have hfits := h _ (List.mem_singleton_self _)
    rw [Column.fits] at hfits
    split at hfits
    · cases hfits
    · obtain ⟨a, hread, hstore⟩ := c.read_of_fits _ hfits
      refine ⟨a, hread, ?_⟩
      rw [hstore]
      rfl
  read_of_agree r a h := by
    rw [h _ (List.mem_singleton_self _)]
    exact c.read_store a

/-- A column that may be NULL. -/
def nullableColumn (name : String) (c : Codec types α) : RowCodec types (Option α) where
  columns := [⟨name, c.type, true, none⟩]
  store a := [(name, a.elim .null c.store)]
  read r := if (r.get name).isNull then some none else (c.read (r.get name)).map some
  names_store _ := rfl
  read_of_fits r h := by
    have hfits := h _ (List.mem_singleton_self _)
    rw [Column.fits] at hfits
    split at hfits
    · rename_i hnull
      refine ⟨none, if_pos hnull, ?_⟩
      cases hget : r.get name with
      | null => simp [Row.project, hget]
      | _ => simp [hget, Value.isNull] at hnull
    · rename_i hnull
      obtain ⟨a, hread, hstore⟩ := c.read_of_fits _ hfits
      refine ⟨some a, ?_, ?_⟩
      · rw [if_neg hnull, hread]
        rfl
      · rw [Option.elim_some, hstore]
        rfl
  read_of_agree r a h := by
    have hget := h _ (List.mem_singleton_self _)
    cases a with
    | none => rw [hget]; rfl
    | some a =>
      rw [hget, Option.elim_some, c.store_notNull, c.read_store]
      rfl

/-- The columns of one record beside those of another. -/
def pair (c : RowCodec types α) (d : RowCodec types β) : RowCodec types (α × β) where
  columns := c.columns ++ d.columns
  store a := c.store a.1 ++ d.store a.2
  read r := do return (← c.read r, ← d.read r)
  names_store a := by rw [List.map_append, List.map_append, c.names_store, d.names_store]
  read_of_fits r h := by
    rw [List.forall_mem_append] at h
    obtain ⟨a, hread, hstore⟩ := c.read_of_fits r h.1
    obtain ⟨b, hread', hstore'⟩ := d.read_of_fits r h.2
    refine ⟨(a, b), ?_, ?_⟩
    · rw [hread, hread']
      rfl
    · rw [hstore, hstore', Row.project, Row.project, Row.project, List.map_append, List.map_append]
  read_of_agree r a h := by
    rw [List.forall_mem_append] at h
    rw [c.read_of_agree r a.1 h.1, d.read_of_agree r a.2 h.2]
    rfl

/-- The same columns, for another presentation of the record. -/
def iso (c : RowCodec types α) (pack : α → β) (unpack : β → α) (hpack : ∀ b, pack (unpack b) = b)
    (hunpack : ∀ a, unpack (pack a) = a) : RowCodec types β where
  columns := c.columns
  store b := c.store (unpack b)
  read r := (c.read r).map pack
  names_store b := c.names_store (unpack b)
  read_of_fits r h := by
    obtain ⟨a, hread, hstore⟩ := c.read_of_fits r h
    refine ⟨pack a, ?_, ?_⟩
    · rw [hread]
      rfl
    · rw [hunpack, hstore]
  read_of_agree r b h := by
    rw [c.read_of_agree r (unpack b) h, Option.map_some, hpack]

variable (c : RowCodec types α)

/-- The columns are those of the table: names, types and nullability. -/
def Fits (t : TableDef) : Prop := c.columns = t.columns.map fun d => { d with default := none }

variable {c} {t : TableDef} {r : Row}

theorem Fits.names (h : c.Fits t) : c.columns.map Column.name = t.columnNames := by
  rw [h, List.map_map]
  rfl

/-- Every row that conforms is read, and stores as it was. -/
theorem read_of_conforms (hc : c.Fits t) (h : t.Conforms types r) :
    ∃ a, c.read r = some a ∧ c.store a = r.project t.columnNames := by
  rw [← hc.names]
  apply c.read_of_fits
  intro d hd
  rw [hc] at hd
  obtain ⟨e, he, rfl⟩ := List.mem_map.mp hd
  exact h.2 e he

/-- What was stored is what is read. -/
theorem read_store (hnodup : (c.columns.map Column.name).Nodup) (a : α) :
    c.read (c.store a) = some a :=
  c.read_of_agree _ a fun _ hp => Row.get_of_mem (c.names_store a ▸ hnodup) hp

/-- A row is read alike in whatever order it lists its columns. -/
theorem read_project (hc : c.Fits t) (hnodup : (c.columns.map Column.name).Nodup)
    (h : t.Conforms types r) : c.read (r.project t.columnNames) = c.read r := by
  obtain ⟨a, hread, hstore⟩ := read_of_conforms hc h
  rw [hread, ← hstore, read_store hnodup]

/-- Rows are read one by one. -/
theorem mapM_read_of_conforms (hc : c.Fits t) {rows : List Row}
    (h : ∀ r ∈ rows, t.Conforms types r) :
    ∃ xs, rows.mapM c.read = some xs ∧ xs.map c.store = rows.map (Row.project · t.columnNames) := by
  induction rows with
  | nil => exact ⟨[], rfl, rfl⟩
  | cons r rows ih =>
      rw [List.forall_mem_cons] at h
      obtain ⟨x, hread, hstore⟩ := read_of_conforms hc h.1
      obtain ⟨xs, hreads, hstores⟩ := ih h.2
      refine ⟨x :: xs, ?_, ?_⟩
      · rw [List.mapM_cons, hread, hreads]
        rfl
      · rw [List.map_cons, List.map_cons, hstore, hstores]

theorem mapM_read_store (hnodup : (c.columns.map Column.name).Nodup) (xs : List α) :
    (xs.map c.store).mapM c.read = some xs := by
  induction xs with
  | nil => rfl
  | cons x xs ih =>
      rw [List.map_cons, List.mapM_cons, read_store hnodup, ih]
      rfl

end RowCodec

-- ============================================================================
-- The order of columns
-- ============================================================================

/-- Every row with its columns in the order of its table. -/
def Schema.arrange (S : Schema) (d : Data) : Data :=
  d.mapRows fun name r => (S.table? name).elim r fun t => r.project t.columnNames

section Arrange

variable {S : Schema} {d : Data} {t : TableDef}

theorem Schema.arrange_of_table (h : S.table? t.name = some t) :
    S.arrange d t.name = (d t.name).map (Row.project · t.columnNames) := by
  rw [Schema.arrange, Data.mapRows, h]
  rfl

theorem Schema.arrange_of_none {name : String} (h : S.table? name = none) :
    S.arrange d name = d name := by
  rw [Schema.arrange, Data.mapRows, h]
  exact List.map_id _

/-- No value changes. -/
theorem Schema.Valid.get_arrange (hv : S.Valid d) (name : String) :
    ∀ r ∈ d name, ∀ c,
      Row.get ((S.table? name).elim r fun t => r.project t.columnNames) c = r.get c := by
  intro r hr c
  cases ht : S.table? name with
  | none => rfl
  | some t =>
    obtain ⟨hmem, rfl⟩ := table?_eq_some ht
    exact ((hv t hmem).1 r hr).get_project c

/-- The same rows, column by column. -/
def Data.SameValues (d e : Data) : Prop :=
  ∀ name, List.Forall₂ (fun r s : Row => ∀ c, r.get c = s.get c) (d name) (e name)

theorem Schema.Valid.sameValues (hv : S.Valid d) : d.SameValues (S.arrange d) := by
  intro name
  rw [Schema.arrange, Data.mapRows, List.forall₂_map_right_iff, List.forall₂_same]
  exact fun r hr c => (hv.get_arrange name r hr c).symm

/-- The order of columns does not matter. -/
theorem Schema.Valid.arrange (hv : S.Valid d) (hnames : ∀ t ∈ S.tables, S.table? t.name = some t) :
    S.Valid (S.arrange d) := by
  intro t ht
  refine ⟨?_, ?_⟩
  · rw [Schema.arrange_of_table (hnames t ht), List.forall_mem_map]
    exact fun r hr => ((hv t ht).1 r hr).project
  · intro k hk
    refine (Constraint.holds_mapRows ?_ ?_).mpr ((hv t ht).2 k hk)
    · exact fun c _ r hr => hv.get_arrange t.name r hr c
    · exact fun p _ r hr => hv.get_arrange p.1 r hr p.2

end Arrange

end Sql
