/-
  Vouch.Sql.Ddl

  Schema changes on a populated database.

  A statement first changes the schema (`alter`, which fails on a missing or
  duplicate object or on a dependency), then the stored rows (`rewrite`), and
  is rolled back when a declared constraint does not hold afterwards (`exec`).
  So a script that succeeds always ends in a valid database (`run_valid`).

  `Sql.Preserve` shows for each kind of statement when it does succeed: adding
  a column with a fitting default, dropping one, adding a CHECK the rows pass,
  and changes that touch no row.
-/

import Vouch.Sql.Schema

namespace Sql

-- ============================================================================
-- Statements
-- ============================================================================

inductive DdlError where
  | typeExists
  | typeMissing
  | typeInUse
  | tableExists
  | tableMissing
  | tableInUse
  | columnExists
  | columnMissing
  | columnInUse
  | indexExists
  | indexMissing
  | constraintExists
  | constraintMissing
  | noUniqueKey
  | badDefault
  | violation
  | eval (e : EvalError)
deriving DecidableEq, Repr

/-- A schema statement, as a migration script issues it. -/
inductive Ddl where
  | createType (t : EnumType) (checkfirst : Bool)
  | dropType (name : String) (checkfirst : Bool)
  | createTable (t : TableDef)
  | dropTable (table : String)
  | addColumn (table : String) (c : Column) (references : Option (String × String))
  | dropColumn (table column : String)
  | createIndex (i : Index)
  | dropIndex (name table : String)
  | createCheck (name table : String) (p : Cond)
  | dropConstraint (name table : String)
  | update (table column literal : String) (p : Cond)

-- ============================================================================
-- The schema
-- ============================================================================

def Schema.table? (S : Schema) (name : String) : Option TableDef :=
  S.tables.find? fun t => t.name == name

def Schema.setTable (S : Schema) (t : TableDef) : Schema :=
  { S with tables := S.tables.map fun u => if u.name == t.name then t else u }

def TableDef.columnNames (t : TableDef) : List String := t.columns.map Column.name

/-- The constraint's own columns. -/
def Constraint.columns : Constraint → List String
  | .primaryKey cs => cs
  | .unique cs _ => cs
  | .foreignKey cs _ _ _ => cs
  | .check p _ => p.columns
  | .exclude _ key lo hi p => [key, lo, hi] ++ p.columns

/-- The columns a foreign key refers to, with their table. -/
def Constraint.refColumns : Constraint → List (String × String)
  | .foreignKey _ ref refCs _ => refCs.map fun c => (ref, c)
  | _ => []

def Constraint.name? : Constraint → Option String
  | .primaryKey _ => none
  | .unique _ n => n
  | .foreignKey _ _ _ n => n
  | .check _ n => some n
  | .exclude n _ _ _ _ => some n

/-- The key columns of a PRIMARY KEY or UNIQUE constraint. -/
def Constraint.key? : Constraint → Option (List String)
  | .primaryKey cs => some cs
  | .unique cs _ => some cs
  | _ => none

def Index.mentions (i : Index) (column : String) : Bool :=
  i.columns.contains column || (i.condition.map Cond.columns).elim Bool.false (·.contains column)

/-- The constraint may be declared on a table with these columns: they cover
    it, and a foreign key refers to a key. -/
def Schema.checkConstraint (S : Schema) (columns : List String) (k : Constraint) :
    Except DdlError Unit :=
  if !k.columns.all columns.contains then .error .columnMissing
  else match k with
    | .foreignKey _ ref refCs _ =>
        match S.table? ref with
        | none => .error .tableMissing
        | some t =>
            if (t.constraints.filterMap Constraint.key?).contains refCs then .ok ()
            else .error .noUniqueKey
    | _ => .ok ()

def Schema.checkColumn (S : Schema) (c : Column) : Except DdlError Unit :=
  match c.type with
  | .enum n => if S.types.any (fun e => e.name == n) then .ok () else .error .typeMissing
  | _ => .ok ()

/-- The table with a column added, and the foreign key declared with it. -/
def TableDef.addColumn (t : TableDef) (c : Column) (references : Option (String × String)) :
    TableDef :=
  { t with
    columns := t.columns ++ [c]
    constraints := t.constraints ++
      (references.map fun p => Constraint.foreignKey [c.name] p.1 [p.2] none).toList }

/-- The table without a column and without the constraints that involve it. -/
def TableDef.dropColumn (t : TableDef) (column : String) : TableDef :=
  { t with
    columns := t.columns.filter fun c => c.name != column
    constraints := t.constraints.filter fun k =>
      !k.columns.contains column && !k.refColumns.contains (t.name, column) }

/-- Fail with `e` unless the check passes. -/
def require (b : Bool) (e : DdlError) : Except DdlError Unit := if b then .ok () else .error e

/-- The effect of a statement on the schema. -/
def Ddl.alter (S : Schema) : Ddl → Except DdlError Schema
  | .createType t checkfirst =>
      if S.types.any (fun e => e.name == t.name) then
        if checkfirst then .ok S else .error .typeExists
      else .ok { S with types := S.types ++ [t] }
  | .dropType name checkfirst =>
      if !S.types.any (fun e => e.name == name) then
        if checkfirst then .ok S else .error .typeMissing
      else if S.tables.any (fun t => t.columns.any fun c => c.type == .enum name) then
        .error .typeInUse
      else .ok { S with types := S.types.filter fun e => e.name != name }
  | .createTable t => do
      require (!S.tables.any (fun u => u.name == t.name)) .tableExists
      t.columns.forM S.checkColumn
      t.constraints.forM (S.checkConstraint t.columnNames)
      .ok { S with tables := S.tables ++ [t] }
  | .dropTable table =>
      if !S.tables.any (fun u => u.name == table) then .error .tableMissing
      else if S.tables.any (fun u => u.name != table &&
          u.constraints.any fun k => k.refColumns.any fun p => p.1 == table) then
        .error .tableInUse
      else .ok { S with
        tables := S.tables.filter fun u => u.name != table
        indexes := S.indexes.filter fun i => i.table != table }
  | .addColumn table c references =>
      match S.table? table with
      | none => .error .tableMissing
      | some t => do
          require (!t.columnNames.contains c.name) .columnExists
          S.checkColumn c
          let t' := t.addColumn c references
          t'.constraints.forM (S.checkConstraint t'.columnNames)
          .ok (S.setTable t')
  | .dropColumn table column =>
      match S.table? table with
      | none => .error .tableMissing
      | some t => do
          require (t.columnNames.contains column) .columnMissing
          require (!S.tables.any fun u => u.name != table &&
            u.constraints.any fun k => k.refColumns.contains (table, column)) .columnInUse
          .ok { S.setTable (t.dropColumn column) with
            indexes := S.indexes.filter fun i => i.table != table || !i.mentions column }
  | .createIndex i =>
      match S.table? i.table with
      | none => .error .tableMissing
      | some t =>
          if S.indexes.any (fun j => j.name == i.name) then .error .indexExists
          else if !(i.columns ++ (i.condition.map Cond.columns).getD []).all
              t.columnNames.contains then .error .columnMissing
          else .ok { S with indexes := S.indexes ++ [i] }
  | .dropIndex name table =>
      if S.indexes.any (fun i => i.name == name && i.table == table) then
        .ok { S with indexes := S.indexes.filter fun i => i.name != name }
      else .error .indexMissing
  | .createCheck name table p =>
      match S.table? table with
      | none => .error .tableMissing
      | some t =>
          if t.constraints.any (fun k => k.name? == some name) then .error .constraintExists
          else if !p.columns.all t.columnNames.contains then .error .columnMissing
          else .ok (S.setTable { t with constraints := t.constraints ++ [.check p name] })
  | .dropConstraint name table =>
      match S.table? table with
      | none => .error .tableMissing
      | some t =>
          if t.constraints.any (fun k => k.name? == some name) then
            .ok (S.setTable
              { t with constraints := t.constraints.filter fun k => k.name? != some name })
          else .error .constraintMissing
  | .update table column _ p =>
      match S.table? table with
      | none => .error .tableMissing
      | some t =>
          if (column :: p.columns).all t.columnNames.contains then .ok S
          else .error .columnMissing

-- ============================================================================
-- The stored rows
-- ============================================================================

/-- Change every row of one table. -/
def Data.mapTable (d : Data) (table : String) (f : Row → Row) : Data :=
  fun t => if t = table then (d t).map f else d t

/-- A decimal natural number. -/
def readNat (s : String) : Option Nat :=
  if s.toList.all Char.isDigit && !s.toList.isEmpty then
    some (s.toList.foldl (fun n c => 10 * n + (c.toNat - 48)) 0)
  else none

/-- An untyped SQL literal, read at a type. -/
def coerceLiteral (types : List EnumType) : SqlType → String → Option Value
  | .text, s => some (.text s)
  | .boolean, s => if s = "true" then some (.bool Bool.true)
      else if s = "false" then some (.bool Bool.false) else none
  | .integer, s => (readNat s).map fun n => .int n
  | .enum n, s =>
      if (SqlType.enum n).fits types (.enum s) then some (.enum s) else none
  | _, _ => none

/-- What existing rows receive in a new column.  Function defaults are not
    evaluated here. -/
def Column.backfill (types : List EnumType) (c : Column) : Except DdlError Value :=
  match c.default with
  | none => .ok .null
  | some (.literal s) => match coerceLiteral types c.type s with
      | some v => .ok v
      | none => .error .badDefault
  | some (.call _) => .error .badDefault

/-- Replace the value of a column. -/
def Row.set (r : Row) (column : String) (v : Value) : Row :=
  r.map fun p => if p.1 = column then (p.1, v) else p

/-- The row without a column. -/
def Row.drop (r : Row) (column : String) : Row := r.filter fun p => p.1 != column

/-- One row under `UPDATE … SET column = v WHERE p`. -/
def Row.updateWhere (column : String) (v : Value) (p : Cond) (r : Row) : Row :=
  if p.selects r then r.set column v else r

/-- Evaluate a condition on every row; the first failing evaluation fails. -/
def Cond.evalAll (p : Cond) : List Row → Except DdlError Unit
  | [] => .ok ()
  | r :: rows => match p.eval r with
    | .ok _ => p.evalAll rows
    | .error e => .error (.eval e)

/-- The effect of a statement on the stored rows, given the schema before it. -/
def Ddl.rewrite (S : Schema) (d : Data) : Ddl → Except DdlError Data
  | .createTable t => .ok fun u => if u = t.name then [] else d u
  | .dropTable table => .ok fun u => if u = table then [] else d u
  | .addColumn table c _ => do
      let v ← c.backfill S.types
      .ok (d.mapTable table (· ++ [(c.name, v)]))
  | .dropColumn table column => .ok (d.mapTable table (·.drop column))
  | .update table column literal p => do
      let ty := (S.table? table).bind fun t =>
        (t.columns.find? fun c => c.name == column).map Column.type
      match ty.bind (coerceLiteral S.types · literal) with
      | none => .error .badDefault
      | some v =>
          p.evalAll (d table)
          .ok (d.mapTable table (Row.updateWhere column v p))
  | _ => .ok d

/-- Execute one statement. -/
def Ddl.exec (st : Ddl) (db : Schema × Data) : Except DdlError (Schema × Data) := do
  let S ← st.alter db.1
  let d ← st.rewrite db.1 db.2
  if S.Valid d then .ok (S, d) else .error .violation

/-- Execute a script; the first failing statement fails it. -/
def run : List Ddl → Schema × Data → Except DdlError (Schema × Data)
  | [], db => .ok db
  | st :: script, db => do run script (← st.exec db)

/-- The schema effect of a script. -/
def alterAll : List Ddl → Schema → Except DdlError Schema
  | [], S => .ok S
  | st :: script, S => do alterAll script (← st.alter S)

end Sql
