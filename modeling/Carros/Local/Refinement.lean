import Carros.Base.StepRun
import Carros.Local.CarroDAO

/-!
# The local database against finite maps

Runs of completed writes through `CarroDAO` and `FavoritoDAO`, from the database `create.sql`
leaves behind.  The history of a run is the list of its writes with what each of them returned;
`Memoria.de` reads it as two finite maps, in which an id has the entity last saved under it and
not deleted since.

`dao_refines_maps` proves that every run of writes goes through, and that in the state it reaches
all readers agree with the maps of its history and the next write respects them.
-/

namespace Carros

open Dart Sql

/-! ## Histories -/

/-- A write to a table. -/
inductive DaoOp (T : Type) where
  | save (entity : T)
  | delete (id : Option Int)
  | deleteAll

/-- The write, through an object: what it returns, and the database. -/
def DaoOp.exec {T : Type} [Entity T] (dao : BaseDAO T) (gen : RowIds) (db : Database) :
    DaoOp T → Except DartError (Int × Database)
  | .save entity => dao.save db gen entity
  | .delete id => dao.delete db id
  | .deleteAll => dao.deleteAll db

/-- What a write that returned `result` does to a finite map. -/
def DaoOp.apply {T : Type} (withId : Int → T → T) (m : Int → Option T) (result : Int) :
    DaoOp T → Int → Option T
  | .save entity => Function.update m result (some (withId result entity))
  | .delete id => fun i => if some i = id then none else m i
  | .deleteAll => fun _ => none

/-- A write through one of the two objects. -/
inductive Escrita where
  | carro (op : DaoOp Carro)
  | favorito (op : DaoOp Favorito)

/-- The write: what it returns, and the database. -/
def Escrita.exec (gen : RowIds) (db : Database) : Escrita → Except DartError (Int × Database)
  | .carro op => op.exec CarroDAO gen db
  | .favorito op => op.exec FavoritoDAO gen db

/-- The cars and the favourites by id. -/
structure Memoria where
  carros : Int → Option Carro
  favoritos : Int → Option Favorito

namespace Memoria

/-- Nothing stored. -/
def vazia : Memoria := ⟨fun _ => none, fun _ => none⟩

/-- What a write with its result does to the maps. -/
def apply (m : Memoria) : Escrita × Int → Memoria
  | (.carro op, result) => { m with carros := op.apply CarroDAO.fits.withId m.carros result }
  | (.favorito op, result) =>
    { m with favoritos := op.apply FavoritoDAO.fits.withId m.favoritos result }

/-- The maps of a history. -/
def de (historia : List (Escrita × Int)) : Memoria := historia.foldl apply vazia

/-- One more write. -/
lemma de_append_singleton (historia : List (Escrita × Int)) (e : Escrita × Int) :
    de (historia ++ [e]) = (de historia).apply e := by
  rw [de, List.foldl_append]
  rfl

end Memoria

/-! ## Runs of writes -/

/-- The database together with the history of the writes so far. -/
structure Armazem where
  banco : Database
  historia : List (Escrita × Int)

namespace Armazem

/-- One more write; `none` if the database refuses it. -/
def step (gen : RowIds) (s : Armazem) (e : Escrita) : Option Armazem :=
  match e.exec gen s.banco with
  | .ok (result, banco) => some ⟨banco, s.historia ++ [(e, result)]⟩
  | .error _ => none

/-- The start: the tables of `create.sql` and no history. -/
def inicio : Armazem := ⟨bancoCriado, []⟩

/-- The two tables hold the maps of the history. -/
structure Fiel (s : Armazem) : Prop where
  carros : CarroDAO.fits.Holds s.banco (Memoria.de s.historia).carros
  favoritos : FavoritoDAO.fits.Holds s.banco (Memoria.de s.historia).favoritos

/-- Readers and writers of both objects agree with the maps of the history. -/
structure Refina (s : Armazem) : Prop where
  leCarros : CarroDAO.Reads s.banco (Memoria.de s.historia).carros
  leTipos : CarroDAO.ReadsTipo s.banco (Memoria.de s.historia).carros
  leFavoritos : FavoritoDAO.Reads s.banco (Memoria.de s.historia).favoritos
  escreveCarros : CarroDAO.fits.Writes s.banco (Memoria.de s.historia).carros
  escreveFavoritos : FavoritoDAO.fits.Writes s.banco (Memoria.de s.historia).favoritos

/-- Tables that hold the maps are read and written accordingly. -/
lemma Fiel.refina {s : Armazem} (h : s.Fiel) : s.Refina where
  leCarros := h.carros.reads
  leTipos := CarroDAO.readsTipo h.carros
  leFavoritos := h.favoritos.reads
  escreveCarros := h.carros.writes
  escreveFavoritos := h.favoritos.writes

/-- The tables of `create.sql` hold nothing. -/
lemma fiel_inicio : inicio.Fiel := by
  refine ⟨⟨⟨colunasCarro, ∅⟩, rfl, rfl, fun i => ?_⟩,
    ⟨⟨colunasNome, ∅⟩, rfl, rfl, fun i => ?_⟩⟩
  · exact .none
  · exact .none

end Armazem

/-- A write through an object goes through and does to the table what it does to the map. -/
lemma DaoOp.exec_eq {T : Type} [Entity T] {dao : BaseDAO T} {columns : List String}
    {fits : dao.Fits columns} {db : Database} {m : Int → Option T} (h : fits.Holds db m)
    (gen : RowIds) (op : DaoOp T) :
    ∃ result db', op.exec dao gen db = .ok (result, db') ∧
      fits.Holds db' (op.apply fits.withId m result) ∧
      ∀ name, name ≠ dao.tableName → db'.lookup name = db.lookup name := by
  cases op with
  | save e =>
    obtain ⟨i, db', hsave, -, -, hholds, hframe⟩ := BaseDAO.Fits.save_eq h gen e
    exact ⟨i, db', hsave, hholds, hframe⟩
  | delete id =>
    obtain ⟨db', hdelete, hholds, hframe⟩ := BaseDAO.Fits.delete_eq h id
    exact ⟨_, db', hdelete, hholds, hframe⟩
  | deleteAll =>
    obtain ⟨n, db', hdelete, hholds, hframe⟩ := BaseDAO.Fits.deleteAll_eq h
    exact ⟨n, db', hdelete, hholds, hframe⟩

namespace Armazem

/-- Every write goes through and keeps the tables faithful to the history. -/
lemma Fiel.step {s : Armazem} (h : s.Fiel) (gen : RowIds) (e : Escrita) :
    ∃ s', Armazem.step gen s e = some s' ∧ s'.Fiel ∧
      s'.historia.map Prod.fst = s.historia.map Prod.fst ++ [e] := by
  cases e with
  | carro op =>
    obtain ⟨result, db, hexec, hholds, hframe⟩ := DaoOp.exec_eq h.carros gen op
    refine ⟨⟨db, s.historia ++ [(.carro op, result)]⟩, ?_, ?_, by simp⟩
    · simp [Armazem.step, Escrita.exec, hexec]
    · constructor
      · rw [Memoria.de_append_singleton]
        exact hholds
      · rw [Memoria.de_append_singleton]
        exact h.favoritos.of_lookup_eq (hframe _ (by decide))
  | favorito op =>
    obtain ⟨result, db, hexec, hholds, hframe⟩ := DaoOp.exec_eq h.favoritos gen op
    refine ⟨⟨db, s.historia ++ [(.favorito op, result)]⟩, ?_, ?_, by simp⟩
    · simp [Armazem.step, Escrita.exec, hexec]
    · constructor
      · rw [Memoria.de_append_singleton]
        exact h.carros.of_lookup_eq (hframe _ (by decide))
      · rw [Memoria.de_append_singleton]
        exact hholds

/-- Every run of writes goes through and keeps the tables faithful to the history. -/
lemma Fiel.run {s : Armazem} (h : s.Fiel) (gen : RowIds) (ops : List Escrita) :
    ∃ s', StepRun.run (Armazem.step gen) s ops = some s' ∧ s'.Fiel ∧
      s'.historia.map Prod.fst = s.historia.map Prod.fst ++ ops := by
  induction ops generalizing s with
  | nil => exact ⟨s, rfl, h, by simp⟩
  | cons e ops ih =>
    obtain ⟨s₁, hs₁, hfiel, hhist⟩ := h.step gen e
    obtain ⟨s', hs', hfiel', hhist'⟩ := ih hfiel
    refine ⟨s', StepRun.run_cons_eq_some.mpr ⟨s₁, hs₁, hs'⟩, hfiel', ?_⟩
    rw [hhist', hhist, List.append_assoc, List.singleton_append]

end Armazem

/-- **The generic data access object refines a finite map.**  Every run of writes on cars and
favourites goes through, its history lists these writes with what they returned, and in the state
it reaches all readers agree with the maps of the history and the next write respects them. -/
theorem dao_refines_maps (gen : RowIds) (ops : List Escrita) :
    ∃ s, StepRun.run (Armazem.step gen) Armazem.inicio ops = some s ∧
      s.historia.map Prod.fst = ops ∧ s.Refina := by
  obtain ⟨s, hrun, hfiel, hhist⟩ := Armazem.fiel_inicio.run gen ops
  exact ⟨s, hrun, hhist, hfiel.refina⟩

end Carros
