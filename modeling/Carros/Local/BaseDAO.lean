import Carros.Base.Sql

/-!
# The generic data access object

`BaseDAO` of `utils/sql/base_dao.dart`: three operations that write a table and seven that read
it, over any class of entities.

The class `Entity` of the source asks for an encoder `toMap` only, the object for a table name and
a decoder `fromMap`.  That the two fit a table with given columns is `BaseDAO.Fits`; over such a
table the object is a finite map from ids to entities.  `Fits.Holds` says that the table holds a
map, `Fits.save_eq`, `Fits.delete_eq` and `Fits.deleteAll_eq` say what a write does to it, and
`Fits.Holds.reads` that every reader agrees with it.
-/

namespace Carros

open Dart Sql

/-- `Entity`. -/
class Entity (T : Type) where
  toMap : T → DynMap

/-- `BaseDAO`: what a subclass provides. -/
structure BaseDAO (T : Type) where
  tableName : String
  fromMap : DynMap → Except DartError T

namespace BaseDAO

variable {T : Type} [Entity T] (dao : BaseDAO T) (db : Database)

/-- `save`: the id of the row, and the database. -/
def save (gen : RowIds) (entity : T) : Except DartError (Int × Database) :=
  db.insertOrReplace gen dao.tableName (Entity.toMap entity)

/-- `query`. -/
def query (sql : Query) : Except DartError (List T) := do
  let list ← db.rawQuery sql
  list.mapM dao.fromMap

/-- `findAll`. -/
def findAll : Except DartError (List T) := do
  let list ← db.rawQuery (.all dao.tableName)
  list.mapM dao.fromMap

/-- `findAll2`. -/
def findAll2 : Except DartError (List T) := dao.query db (.all dao.tableName)

/-- `findById`: it decodes the first row only. -/
def findById (id : Option Int) : Except DartError (Option T) := do
  let list ← db.rawQuery (.whereId dao.tableName id)
  match list with
  | [] => return none
  | row :: _ => return some (← dao.fromMap row)

/-- `findById2`: it decodes every row and returns the first. -/
def findById2 (id : Option Int) : Except DartError (Option T) := do
  let list ← dao.query db (.whereId dao.tableName id)
  return list.head?

/-- `exists`. -/
def existsId (id : Option Int) : Except DartError Bool := do
  let c ← dao.findById db id
  return c.isSome

/-- `count`. -/
def count : Except DartError (Option Int) := do
  let list ← db.rawQuery (.count dao.tableName)
  return firstIntValue list

/-- `delete`: how many rows were deleted, and the database. -/
def delete (id : Option Int) : Except DartError (Int × Database) :=
  db.deleteId dao.tableName id

/-- `deleteAll`. -/
def deleteAll : Except DartError (Int × Database) := db.deleteAll dao.tableName

/-- Encoder and decoder fit a table with the given text columns: every map can be inserted, and the
row it leaves under an id is read back as the entity with that id. -/
structure Fits (columns : List String) where
  idOf : T → Option Int
  withId : Int → T → T
  idOf_withId : ∀ i e, idOf (withId i e) = some i
  mem_columns : ∀ e : T, ∀ p ∈ Entity.toMap e, p.1 = "id" ∨ p.1 ∈ columns
  storable_get : ∀ e : T, ∀ c ∈ columns, storable ((Entity.toMap e).get c) = true
  get_id : ∀ e : T, (Entity.toMap e).get "id" = .ofInt (idOf e)
  fromMap_rowMap : ∀ i (e : T),
    dao.fromMap (rowMap columns i fun c => cell ((Entity.toMap e).get c)) = .ok (withId i e)

/-- The readers of an object agree with a finite map. -/
structure Reads (m : Int → Option T) : Prop where
  findById : ∀ id : Option Int, dao.findById db id = .ok (id.bind m)
  findById2 : ∀ id : Option Int, dao.findById2 db id = .ok (id.bind m)
  existsId : ∀ id : Option Int, dao.existsId db id = .ok (id.bind m).isSome
  findAll : ∃ es, dao.findAll db = .ok es ∧ dao.findAll2 db = .ok es ∧
    dao.count db = .ok (some es.length) ∧ es.Nodup ∧ ∀ e, e ∈ es ↔ ∃ i, m i = some e

variable {dao db} {m : Int → Option T}

omit [Entity T] in
/-- An entity is found under an id exactly if the map has it there. -/
lemma Reads.findById_iff (h : dao.Reads db m) {i : Int} {e : T} :
    dao.findById db (some i) = .ok (some e) ↔ m i = some e := by
  rw [h.findById, Option.bind_some, Except.ok.injEq]

omit [Entity T] in
/-- Something exists under an id if the map has it there. -/
lemma Reads.existsId_some (h : dao.Reads db m) (i : Int) :
    dao.existsId db (some i) = .ok (m i).isSome := by
  rw [h.existsId, Option.bind_some]

end BaseDAO

/-- The writers of an object respect a finite map: a save is accepted and returns the id it stores
the entity under, a fresh one for an entity without an id; a delete says whether there was such an
entity and changes no other one; nobody writes another table. -/
structure BaseDAO.Fits.Writes {T : Type} [Entity T] {dao : BaseDAO T} {columns : List String}
    (fits : dao.Fits columns) (db : Database) (m : Int → Option T) : Prop where
  save : ∀ gen e, ∃ i db', dao.save db gen e = .ok (i, db') ∧
    (∀ j, fits.idOf e = some j → i = j) ∧ (fits.idOf e = none → m i = none) ∧
    ∀ name, name ≠ dao.tableName → db'.lookup name = db.lookup name
  delete : ∀ id, ∃ db', dao.delete db id = .ok (if (id.bind m).isSome then 1 else 0, db') ∧
    (∀ i, some i ≠ id → dao.findById db' (some i) = dao.findById db (some i)) ∧
    ∀ name, name ≠ dao.tableName → db'.lookup name = db.lookup name
  deleteAll : ∃ n db', dao.deleteAll db = .ok (n, db') ∧
    ∀ name, name ≠ dao.tableName → db'.lookup name = db.lookup name

namespace BaseDAO.Fits

variable {T : Type} [Entity T] {dao : BaseDAO T} {columns : List String} (fits : dao.Fits columns)

/-- The row stands for the entity: it is decoded to it, and the entity has the id of the row. -/
def Stands (i : Int) (row : Row) (e : T) : Prop :=
  dao.fromMap (rowMap columns i row) = .ok e ∧ fits.idOf e = some i

/-- The table of the object holds exactly the entities of `m`. -/
def Holds (db : Database) (m : Int → Option T) : Prop :=
  ∃ t, db.lookup dao.tableName = some t ∧ t.columns = columns ∧
    ∀ i, Option.Rel (fits.Stands i) (t.rows.lookup i) (m i)

variable {fits} {db : Database} {m : Int → Option T}

/-! ## Writing -/

/-- A map that is `some` exactly at the ids of a table. -/
lemma mem_rows_iff {t : Table} (hrow : ∀ i, Option.Rel (fits.Stands i) (t.rows.lookup i) (m i))
    (i : Int) : i ∈ t.rows ↔ (m i).isSome := by
  rw [← AList.lookup_isSome]
  have hi := hrow i
  generalize t.rows.lookup i = row at hi
  generalize m i = e at hi
  cases hi with
  | none => simp
  | some h => simp

/-- Putting the row of an entity under an id is what the updated map says, whatever the id. -/
lemma holds_put {t : Table} (hcols : t.columns = columns)
    (hrow : ∀ i, Option.Rel (fits.Stands i) (t.rows.lookup i) (m i)) (db : Database) (i : Int)
    (e : T) : fits.Holds (db.insert dao.tableName (t.put i (Entity.toMap e)))
      (Function.update m i (some (fits.withId i e))) := by
  refine ⟨_, AList.lookup_insert _, hcols, fun j => ?_⟩
  by_cases hj : j = i
  · subst hj
    simp only [Table.put, AList.lookup_insert, Function.update_self]
    exact .some ⟨fits.fromMap_rowMap j e, fits.idOf_withId j e⟩
  · simpa only [Table.put, AList.lookup_insert_ne hj, Function.update_of_ne hj] using hrow j

/-- A table with the columns of the object accepts every entity. -/
lemma accepts_toMap (fits : dao.Fits columns) {t : Table} (hcols : t.columns = columns) (e : T) :
    t.accepts (Entity.toMap e) = true := by
  rw [Table.accepts, hcols, Bool.and_eq_true, List.all_eq_true, List.all_eq_true]
  exact ⟨fun p hp => decide_eq_true (fits.mem_columns e p hp), fits.storable_get e⟩

/-- `save` accepts every entity, returns the id it stores it under, and changes nothing else. -/
theorem save_eq (h : fits.Holds db m) (gen : RowIds) (e : T) :
    ∃ i db', dao.save db gen e = .ok (i, db') ∧
      (∀ j, fits.idOf e = some j → i = j) ∧ (fits.idOf e = none → m i = none) ∧
      fits.Holds db' (Function.update m i (some (fits.withId i e))) ∧
      ∀ name, name ≠ dao.tableName → db'.lookup name = db.lookup name := by
  obtain ⟨t, ht, hcols, hrow⟩ := h
  have hput := holds_put hcols hrow db
  have haccepts := accepts_toMap fits hcols e
  have hframe : ∀ t' name, name ≠ dao.tableName →
      (db.insert dao.tableName t').lookup name = db.lookup name :=
    fun t' name hname => AList.lookup_insert_ne hname
  cases hid : fits.idOf e with
  | none =>
    have hnew : gen.next t.rows.keys ∉ t.rows := fun hmem =>
      gen.next_notMem _ (AList.mem_keys.mp hmem)
    refine ⟨gen.next t.rows.keys, _, ?_, by simp, fun _ => ?_, hput _ e, hframe _⟩
    · simp [save, Database.insertOrReplace, Database.table_eq_ok ht, Table.insertOrReplace,
        haccepts, fits.get_id, hid, Dyn.ofInt, pure, Except.pure]
    · simpa [mem_rows_iff hrow] using hnew
  | some j =>
    refine ⟨j, _, ?_, by simp, by simp, hput j e, hframe _⟩
    simp [save, Database.insertOrReplace, Database.table_eq_ok ht, Table.insertOrReplace,
      haccepts, fits.get_id, hid, Dyn.ofInt, pure, Except.pure]

/-- Deleting an id counts the entity there was under it. -/
lemma deleteId_fst {t : Table} (hrow : ∀ i, Option.Rel (fits.Stands i) (t.rows.lookup i) (m i))
    (id : Option Int) : (t.deleteId id).1 = if (id.bind m).isSome then 1 else 0 := by
  cases id with
  | none => rfl
  | some i =>
    by_cases hi : i ∈ t.rows
    · simp [Table.deleteId, hi, (mem_rows_iff hrow i).mp hi]
    · have hnone : m i = none := by simpa [mem_rows_iff hrow] using hi
      simp [Table.deleteId, hi, hnone]

/-- Deleting an id takes its row, if there is one. -/
lemma lookup_deleteId (t : Table) (id : Option Int) (j : Int) :
    (t.deleteId id).2.rows.lookup j = if some j = id then none else t.rows.lookup j := by
  cases id with
  | none => rfl
  | some i =>
    by_cases hi : i ∈ t.rows
    · by_cases hj : j = i
      · subst hj
        simp [Table.deleteId, hi]
      · simp [Table.deleteId, hi, hj, AList.lookup_erase_ne hj]
    · have hnone : t.rows.lookup i = none := AList.lookup_eq_none.mpr hi
      by_cases hj : j = i
      · subst hj
        simpa [Table.deleteId, hi] using hnone
      · simp [Table.deleteId, hi, hj]

/-- Deleting an id keeps the columns. -/
lemma columns_deleteId (t : Table) (id : Option Int) : (t.deleteId id).2.columns = t.columns := by
  cases id with
  | none => rfl
  | some i => by_cases hi : i ∈ t.rows <;> simp [Table.deleteId, hi]

/-- `delete` removes the entity with the id, if there is one, and changes nothing else. -/
theorem delete_eq (h : fits.Holds db m) (id : Option Int) :
    ∃ db', dao.delete db id = .ok (if (id.bind m).isSome then 1 else 0, db') ∧
      fits.Holds db' (fun i => if some i = id then none else m i) ∧
      ∀ name, name ≠ dao.tableName → db'.lookup name = db.lookup name := by
  obtain ⟨t, ht, hcols, hrow⟩ := h
  refine ⟨db.insert dao.tableName (t.deleteId id).2, ?_, ?_, fun name hname =>
    AList.lookup_insert_ne hname⟩
  · simp [delete, Database.deleteId, Database.table_eq_ok ht, deleteId_fst hrow id, pure,
      Except.pure]
  · refine ⟨_, AList.lookup_insert _, (columns_deleteId t id).trans hcols, fun j => ?_⟩
    change Option.Rel (fits.Stands j) _ (if some j = id then none else m j)
    rw [lookup_deleteId]
    split_ifs with hj
    · exact .none
    · exact hrow j

/-- `deleteAll` empties the table and changes nothing else. -/
theorem deleteAll_eq (h : fits.Holds db m) :
    ∃ n db', dao.deleteAll db = .ok (n, db') ∧ fits.Holds db' (fun _ => none) ∧
      ∀ name, name ≠ dao.tableName → db'.lookup name = db.lookup name := by
  obtain ⟨t, ht, hcols, hrow⟩ := h
  refine ⟨t.deleteAll.1, db.insert dao.tableName t.deleteAll.2, ?_, ?_, fun name hname =>
    AList.lookup_insert_ne hname⟩
  · simp [deleteAll, Database.deleteAll, Database.table_eq_ok ht, pure, Except.pure]
  · refine ⟨_, AList.lookup_insert _, hcols, fun i => ?_⟩
    simp only [Table.deleteAll, AList.lookup_empty]
    exact .none

/-- Writing another table does not change what this one holds. -/
lemma Holds.of_lookup_eq (h : fits.Holds db m) {db' : Database}
    (heq : db'.lookup dao.tableName = db.lookup dao.tableName) : fits.Holds db' m := by
  obtain ⟨t, ht, hcols, hrow⟩ := h
  exact ⟨t, heq.trans ht, hcols, hrow⟩

/-! ## Reading -/

/-- Decoding some rows of the table gives the entities under their ids. -/
lemma mapM_fromMap {t : Table} (hcols : t.columns = columns)
    (hrow : ∀ i, Option.Rel (fits.Stands i) (t.rows.lookup i) (m i))
    {l : List (Σ _ : Int, Row)} (hl : ∀ p ∈ l, t.rows.lookup p.1 = some p.2) :
    (l.map t.toMap).mapM dao.fromMap = .ok ((l.map Sigma.fst).filterMap m) := by
  induction l with
  | nil => rfl
  | cons p l ih =>
    obtain ⟨hp, hl⟩ := List.forall_mem_cons.mp hl
    have hrel := hrow p.1
    rw [hp] at hrel
    obtain ⟨e, he, hdec⟩ : ∃ e, m p.1 = some e ∧ dao.fromMap (t.toMap p) = .ok e := by
      generalize hm : m p.1 = o at hrel
      cases hrel with
      | some hs => exact ⟨_, rfl, by rw [Table.toMap, hcols]; exact hs.1⟩
    rw [List.map_cons, List.mapM_cons, hdec, ih hl, List.map_cons, List.filterMap_cons_some he]
    rfl

/-- The entities under distinct ids are distinct. -/
lemma nodup_filterMap {t : Table}
    (hrow : ∀ i, Option.Rel (fits.Stands i) (t.rows.lookup i) (m i)) {ids : List Int}
    (hids : ids.Nodup) : (ids.filterMap m).Nodup := by
  have hidOf : ∀ i e, m i = some e → fits.idOf e = some i := by
    intro i e he
    have hrel := hrow i
    rw [he] at hrel
    generalize t.rows.lookup i = row at hrel
    cases hrel with
    | some hs => exact hs.2
  refine hids.filterMap fun i j e hi hj => ?_
  have hij : some i = some j := (hidOf i e hi).symm.trans (hidOf j e hj)
  exact Option.some.inj hij

/-- The rows selected by an id are decoded to the entity under it. -/
lemma mapM_selectId {t : Table} (hcols : t.columns = columns)
    (hrow : ∀ i, Option.Rel (fits.Stands i) (t.rows.lookup i) (m i)) (id : Option Int) :
    (t.selectId id).mapM dao.fromMap = .ok (id.bind m).toList := by
  cases id with
  | none => rfl
  | some i =>
    have hrel := hrow i
    simp only [Table.selectId, hcols, Option.bind_some]
    generalize t.rows.lookup i = row at hrel
    generalize m i = e at hrel
    cases hrel with
    | none => rfl
    | some hs =>
      simp only [Option.map_some, Option.toList_some, List.mapM_cons, List.mapM_nil, hs.1]
      rfl

/-- `findById` decodes the first of the selected rows. -/
lemma Holds.findById_eq (h : fits.Holds db m) (id : Option Int) :
    dao.findById db id = .ok (id.bind m) := by
  obtain ⟨t, ht, hcols, hrow⟩ := h
  have hid := mapM_selectId hcols hrow id
  simp only [findById, Database.rawQuery, Database.table_eq_ok ht, ok_bind, pure, Except.pure]
  cases hrows : t.selectId id with
  | nil =>
    rw [hrows] at hid
    have hnil := Except.ok.inj hid
    rw [Option.toList_eq_nil_iff.mp hnil.symm]
  | cons row rows =>
    rw [hrows, List.mapM_cons] at hid
    obtain ⟨e, he, hid⟩ := bind_eq_ok.mp hid
    obtain ⟨es, -, hid⟩ := bind_eq_ok.mp hid
    have hcons : e :: es = (id.bind m).toList := Except.ok.inj hid
    have hsome : id.bind m = some e := by
      cases hb : id.bind m with
      | none => simp [hb] at hcons
      | some e' => simp [hb] at hcons; rw [hcons.1]
    simp [he, hsome]

/-- **Every reader agrees with the map the table holds.** -/
theorem Holds.reads (h : fits.Holds db m) : dao.Reads db m := by
  have hfindById := h.findById_eq
  obtain ⟨t, ht, hcols, hrow⟩ := h
  refine ⟨hfindById, fun id => ?_, fun id => ?_, ?_⟩
  · simp only [findById2, query, Database.rawQuery, Database.table_eq_ok ht, ok_bind, pure,
      Except.pure, mapM_selectId hcols hrow id]
    cases id.bind m <;> rfl
  · simp [existsId, hfindById id, pure, Except.pure]
  · have hscan : ∀ p ∈ t.scan, t.rows.lookup p.1 = some p.2 := fun p hp => Table.mem_scan.mp hp
    have hall : (t.scan.map t.toMap).mapM dao.fromMap =
        .ok ((t.scan.map Sigma.fst).filterMap m) := mapM_fromMap hcols hrow hscan
    have hfind : dao.findAll db = .ok ((t.scan.map Sigma.fst).filterMap m) := by
      simpa [findAll, Database.rawQuery, Database.table_eq_ok ht, pure, Except.pure] using hall
    have hkeys : (t.scan.map Sigma.fst).Perm t.rows.keys := t.scan_perm.map Sigma.fst
    refine ⟨_, hfind, hfind, ?_, nodup_filterMap hrow t.nodup_scan_ids, fun e => ?_⟩
    · have hlength : ((t.scan.map Sigma.fst).filterMap m).length = t.rows.keys.length := by
        rw [List.filterMap_length_eq_length.mpr, hkeys.length_eq]
        intro i hi
        exact (mem_rows_iff hrow i).mp (AList.mem_keys.mpr (hkeys.mem_iff.mp hi))
      rw [hlength]
      simp [count, Database.rawQuery, Database.table_eq_ok ht, firstIntValue, pure, Except.pure]
    · rw [List.mem_filterMap]
      constructor
      · rintro ⟨i, -, hi⟩
        exact ⟨i, hi⟩
      · rintro ⟨i, hi⟩
        refine ⟨i, ?_, hi⟩
        refine hkeys.mem_iff.mpr (AList.mem_keys.mp ((mem_rows_iff hrow i).mpr ?_))
        simp [hi]

/-- **Every writer respects the map the table holds.** -/
theorem Holds.writes (h : fits.Holds db m) : fits.Writes db m := by
  refine ⟨fun gen e => ?_, fun id => ?_, ?_⟩
  · obtain ⟨i, db', hsave, hgiven, hfresh, -, hframe⟩ := save_eq h gen e
    exact ⟨i, db', hsave, hgiven, hfresh, hframe⟩
  · obtain ⟨db', hdelete, hholds, hframe⟩ := delete_eq h id
    refine ⟨db', hdelete, fun i hi => ?_, hframe⟩
    rw [hholds.reads.findById, h.reads.findById]
    simp [hi]
  · obtain ⟨n, db', hdelete, -, hframe⟩ := deleteAll_eq h
    exact ⟨n, db', hdelete, hframe⟩

end BaseDAO.Fits

end Carros
