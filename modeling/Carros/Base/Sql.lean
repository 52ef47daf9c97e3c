import Mathlib.Data.List.Sort
import Carros.Base.Dyn

/-!
# Tables with an integer primary key

A small part of SQLite: tables with a column `id INTEGER PRIMARY KEY` and text columns, and the
statements a data access object sends to them.  `INSERT OR REPLACE` refuses a map that has a key
which is no column or a value which cannot be stored, gives a fresh id to a row without one and
replaces the row that has the id already.

The fresh id is left to a `RowIds`, which carries the proof that what it gives is fresh;
`RowIds.largest` is the generator SQLite documents, one more than the largest id in use.
-/

namespace Sql

open Dart

/-- The text cells of a row, by column name. -/
abbrev Row := String → Option String

/-- A generator of row ids: given the ids in use, a fresh one. -/
structure RowIds where
  next : List Int → Int
  next_notMem : ∀ ids, next ids ∉ ids

/-- One more than the largest id in use, and `1` for a table without rows. -/
def RowIds.largest : RowIds where
  next ids := ids.max?.elim 1 fun m => m + 1
  next_notMem := by
    intro ids hmem
    cases hmax : ids.max? with
    | none =>
      obtain rfl := List.max?_eq_none_iff.mp hmax
      exact absurd hmem List.not_mem_nil
    | some m =>
      rw [hmax] at hmem
      have hle : m + 1 ≤ m := (List.max?_eq_some_iff.mp hmax).2 _ hmem
      omega

/-- A value that can be stored in a text column. -/
def storable : Dyn → Bool
  | .null => true
  | .str _ => true
  | .int _ => true
  | _ => false

/-- The text a value is stored as. -/
def cell : Dyn → Option String
  | .str s => some s
  | .int n => some n.repr
  | _ => none

/-- A nullable string can be stored. -/
@[simp] lemma storable_ofString (s : Option String) : storable (.ofString s) = true := by
  cases s <;> rfl

/-- A nullable string is stored as itself. -/
@[simp] lemma cell_ofString (s : Option String) : cell (.ofString s) = s := by
  cases s <;> rfl

/-- A table: the names of its text columns, and its rows by id. -/
structure Table where
  columns : List String
  rows : AList fun _ : Int => Row

/-- The row of a result, as a map from column names to values. -/
def rowMap (columns : List String) (id : Int) (row : Row) : DynMap :=
  ("id", .int id) :: columns.map fun c => (c, .ofString (row c))

namespace Table

/-- The rows in the order of their ids. -/
def scan (t : Table) : List (Σ _ : Int, Row) := t.rows.entries.insertionSort fun a b => a.1 ≤ b.1

/-- The map of a row of the table. -/
def toMap (t : Table) (e : Σ _ : Int, Row) : DynMap := rowMap t.columns e.1 e.2

/-- The map can be inserted: its keys are columns and its values can be stored. -/
def accepts (t : Table) (m : DynMap) : Bool :=
  m.all (fun p => p.1 = "id" ∨ p.1 ∈ t.columns) && t.columns.all fun c => storable (m.get c)

/-- The table with a row put under an id. -/
def put (t : Table) (id : Int) (m : DynMap) : Table :=
  { t with rows := t.rows.insert id fun c => cell (m.get c) }

/-- `INSERT OR REPLACE`: the id of the row, and the table. -/
def insertOrReplace (gen : RowIds) (t : Table) (m : DynMap) : Except DartError (Int × Table) :=
  if t.accepts m then
    match m.get "id" with
    | .null => .ok (gen.next t.rows.keys, t.put (gen.next t.rows.keys) m)
    | .int id => .ok (id, t.put id m)
    | _ => .error .database
  else .error .database

/-- `SELECT * … WHERE id = ?`. -/
def selectId (t : Table) (id : Option Int) : List DynMap :=
  match id with
  | none => []
  | some i => ((t.rows.lookup i).map fun row => rowMap t.columns i row).toList

/-- The rows whose cell in a column equals a value: nothing equals `null`. -/
def matching (t : Table) (column : String) (value : Option String) : List (Σ _ : Int, Row) :=
  t.scan.filter fun e => value.isSome ∧ e.2 column = value

/-- `SELECT * … WHERE column = ?`. -/
def selectColumn (t : Table) (column : String) (value : Option String) : List DynMap :=
  (t.matching column value).map t.toMap

/-- `SELECT * FROM l, r WHERE l.id = r.id`: the rows of `l` in order, each with the rows of `r` that
have its id.  In the map of a row of the result the columns of `r` follow those of `l`, so `r` has
the last word on a column they share. -/
def joinIds (l r : Table) : List DynMap :=
  l.scan.flatMap fun e =>
    (r.scan.filter fun e' => e'.1 = e.1).map fun e' => l.toMap e ++ r.toMap e'

/-- `DELETE … WHERE id = ?`: how many rows were deleted, and the table. -/
def deleteId (t : Table) (id : Option Int) : Int × Table :=
  match id with
  | none => (0, t)
  | some i => if i ∈ t.rows then (1, { t with rows := t.rows.erase i }) else (0, t)

/-- `DELETE` without a condition. -/
def deleteAll (t : Table) : Int × Table := (t.rows.keys.length, { t with rows := ∅ })

/-- The rows in order are the rows. -/
lemma scan_perm (t : Table) : t.scan.Perm t.rows.entries := List.perm_insertionSort _ _

/-- The ids of the rows in order are distinct. -/
lemma nodup_scan_ids (t : Table) : (t.scan.map Sigma.fst).Nodup :=
  (t.scan_perm.map Sigma.fst).nodup_iff.mpr t.rows.keys_nodup

/-- A row occurs in order exactly if it is the row of its id. -/
lemma mem_scan {t : Table} {i : Int} {row : Row} :
    (⟨i, row⟩ : Σ _ : Int, Row) ∈ t.scan ↔ t.rows.lookup i = some row :=
  t.scan_perm.mem_iff.trans AList.mem_lookup_iff.symm

/-- The matching rows are among the rows, and have the cell asked for. -/
lemma mem_matching {t : Table} {column value : String} {e : Σ _ : Int, Row} :
    e ∈ t.matching column (some value) ↔ e ∈ t.scan ∧ e.2 column = some value := by
  simp [matching]

/-- The rows that have an id are the row under it, if there is one. -/
lemma filter_scan_id (t : Table) (i : Int) :
    (t.scan.filter fun e => e.1 = i) =
      ((t.rows.lookup i).map fun row => (⟨i, row⟩ : Σ _ : Int, Row)).toList := by
  cases hlookup : t.rows.lookup i with
  | none =>
    refine List.filter_eq_nil_iff.mpr fun e he hid => ?_
    obtain ⟨j, row⟩ := e
    obtain rfl : j = i := of_decide_eq_true hid
    rw [mem_scan.mp he] at hlookup
    cases hlookup
  | some row =>
    have hnodup : (t.scan.filter fun e => e.1 = i).Nodup :=
      (List.Nodup.of_map Sigma.fst t.nodup_scan_ids).sublist List.filter_sublist
    refine List.perm_singleton.mp ((List.perm_ext_iff_of_nodup hnodup (by simp)).mpr ?_)
    rintro ⟨j, row'⟩
    rw [List.mem_filter, List.mem_singleton, mem_scan]
    constructor
    · rintro ⟨hrow', hid⟩
      obtain rfl : j = i := of_decide_eq_true hid
      rw [hlookup] at hrow'
      rw [Option.some.inj hrow']
    · intro h
      obtain ⟨rfl, hrow⟩ := Sigma.mk.inj h
      obtain rfl := eq_of_heq hrow
      exact ⟨hlookup, decide_eq_true rfl⟩

end Table

/-- A database: its tables by name. -/
abbrev Database := AList fun _ : String => Table

/-- A query. -/
inductive Query where
  | all (table : String)
  | whereId (table : String) (id : Option Int)
  | whereColumn (table column : String) (value : Option String)
  | count (table : String)
  deriving DecidableEq, Repr

namespace Database

/-- A table of a database; a statement about a table that does not exist fails. -/
def table (db : Database) (name : String) : Except DartError Table :=
  match db.lookup name with
  | none => .error .database
  | some t => .ok t

/-- `rawQuery`. -/
def rawQuery (db : Database) : Query → Except DartError (List DynMap)
  | .all name => do return (← db.table name).scan.map (← db.table name).toMap
  | .whereId name id => do return (← db.table name).selectId id
  | .whereColumn name column value => do return (← db.table name).selectColumn column value
  | .count name => do return [[("count(*)", .int (← db.table name).rows.keys.length)]]

/-- `rawQuery` of the rows of two tables with equal ids. -/
def joinIds (db : Database) (left right : String) : Except DartError (List DynMap) := do
  return (← db.table left).joinIds (← db.table right)

/-- `insert` with the conflict algorithm `replace`. -/
def insertOrReplace (gen : RowIds) (db : Database) (name : String) (m : DynMap) :
    Except DartError (Int × Database) := do
  let (id, t) ← (← db.table name).insertOrReplace gen m
  return (id, db.insert name t)

/-- `rawDelete` of the row with an id. -/
def deleteId (db : Database) (name : String) (id : Option Int) :
    Except DartError (Int × Database) := do
  let (n, t) := (← db.table name).deleteId id
  return (n, db.insert name t)

/-- `rawDelete` of all rows. -/
def deleteAll (db : Database) (name : String) : Except DartError (Int × Database) := do
  let (n, t) := (← db.table name).deleteAll
  return (n, db.insert name t)

/-- A table that exists is found. -/
lemma table_eq_ok {db : Database} {name : String} {t : Table} (h : db.lookup name = some t) :
    db.table name = .ok t := by
  rw [table, h]

end Database

/-- `Sqflite.firstIntValue`: the first value of the first row. -/
def firstIntValue : List DynMap → Option Int
  | ((_, .int n) :: _) :: _ => some n
  | _ => none

end Sql
