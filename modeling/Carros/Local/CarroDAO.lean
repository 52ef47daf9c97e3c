import Carros.Entity.Carro
import Carros.Local.BaseDAO

/-!
# The two data access objects

`CarroDAO` and `FavoritoDAO` over the tables of `assets/sql/create.sql`, and the class `Favorito`
of `pages/favoritos/favorito.dart`.  Their encoders and decoders fit the columns of their tables:
`CarroDAO.fits` and `FavoritoDAO.fits`.
-/

namespace Carros

open Dart Sql

/-! ## The tables -/

/-- The text columns of the table `carro`. -/
def colunasCarro : List String :=
  ["tipo", "nome", "descricao", "urlFoto", "urlVideo", "latitude", "longitude"]

/-- The text columns of the tables `favorito` and `usuario`. -/
def colunasNome : List String := ["nome"]

/-- The database `create.sql` leaves behind: three empty tables. -/
def bancoCriado : Database :=
  ((∅ : Database).insert "carro" ⟨colunasCarro, ∅⟩).insert "favorito" ⟨colunasNome, ∅⟩
    |>.insert "usuario" ⟨colunasNome, ∅⟩

/-! ## Cars -/

instance : Entity Carro := ⟨Carro.toMap⟩

/-- The car of a row of the table `carro`. -/
def Carro.daLinha (i : Int) (row : Row) : Carro :=
  { id := some i, nome := row "nome", tipo := row "tipo", descricao := row "descricao",
    urlFoto := row "urlFoto", urlVideo := row "urlVideo", latitude := row "latitude",
    longitude := row "longitude" }

/-- `fromMap` decodes every row of the table `carro`. -/
lemma Carro.fromMap_rowMap (i : Int) (row : Row) :
    Carro.fromMap (rowMap colunasCarro i row) = .ok (Carro.daLinha i row) := by
  have hid : (rowMap colunasCarro i row).get "id" = .ofInt (some i) := rfl
  have hcell : ∀ c ∈ colunasCarro, (rowMap colunasCarro i row).get c = .ofString (row c) := by
    simp only [colunasCarro, List.forall_mem_cons]
    exact ⟨rfl, rfl, rfl, rfl, rfl, rfl, rfl, by simp⟩
  simp only [Carro.fromMap, hid, hcell "nome" (by decide), hcell "tipo" (by decide),
    hcell "descricao" (by decide), hcell "urlFoto" (by decide), hcell "urlVideo" (by decide),
    hcell "latitude" (by decide), hcell "longitude" (by decide), Dyn.asInt_ofInt,
    Dyn.asString_ofString, ok_bind]
  rfl

/-- `CarroDAO`. -/
def CarroDAO : BaseDAO Carro := ⟨"carro", Carro.fromMap⟩

namespace CarroDAO

/-- `findAllByTipo`. -/
def findAllByTipo (db : Database) (tipo : Option String) : Except DartError (List Carro) := do
  let list ← db.rawQuery (.whereColumn "carro" "tipo" tipo)
  list.mapM Carro.fromMap

/-- `findAllByTipo2`. -/
def findAllByTipo2 (db : Database) (tipo : Option String) : Except DartError (List Carro) :=
  CarroDAO.query db (.whereColumn "carro" "tipo" tipo)

/-- The keys of the map of a car are columns of its table. -/
lemma mem_colunasCarro (c : Carro) :
    ∀ p ∈ Entity.toMap c, p.1 = "id" ∨ p.1 ∈ colunasCarro := by
  intro p hp
  cases hid : c.id <;> simp [Entity.toMap, Carro.toMap, hid, colunasCarro] at hp ⊢ <;> grind

/-- The map of a car has values for the table only. -/
lemma storable_toMap (c : Carro) :
    ∀ k ∈ colunasCarro, storable ((Entity.toMap c).get k) = true := by
  obtain ⟨⟨-, hnome⟩, ⟨htipo, hdescricao⟩, ⟨hfoto, hvideo⟩, hlat, hlng⟩ := c.get_toMap
  simp [colunasCarro, Entity.toMap, hnome, htipo, hdescricao, hfoto, hvideo, hlat, hlng]

/-- The row a car leaves under an id is read back as the car with that id. -/
lemma fromMap_linha (i : Int) (c : Carro) :
    CarroDAO.fromMap (rowMap colunasCarro i fun k => cell ((Entity.toMap c).get k)) =
      .ok { c with id := some i } := by
  obtain ⟨⟨-, hnome⟩, ⟨htipo, hdescricao⟩, ⟨hfoto, hvideo⟩, hlat, hlng⟩ := c.get_toMap
  refine (Carro.fromMap_rowMap i _).trans ?_
  simp [Carro.daLinha, Entity.toMap, hnome, htipo, hdescricao, hfoto, hvideo, hlat, hlng]

/-- The codec of a car fits the table `carro`. -/
def fits : CarroDAO.Fits colunasCarro where
  idOf := Carro.id
  withId i c := { c with id := some i }
  idOf_withId _ _ := rfl
  mem_columns := mem_colunasCarro
  storable_get := storable_toMap
  get_id c := c.get_toMap.1.1
  fromMap_rowMap := fromMap_linha

/-- The stored cars of a tipo. -/
structure ReadsTipo (db : Database) (m : Int → Option Carro) : Prop where
  findAllByTipo : ∀ tipo : String, ∃ cs, CarroDAO.findAllByTipo db (some tipo) = .ok cs ∧
    CarroDAO.findAllByTipo2 db (some tipo) = .ok cs ∧ cs.Nodup ∧
    ∀ c, c ∈ cs ↔ (∃ i, m i = some c) ∧ c.tipo = some tipo

/-- **The readers by tipo agree with the map the table holds.** -/
theorem readsTipo {db : Database} {m : Int → Option Carro} (h : fits.Holds db m) :
    ReadsTipo db m := by
  obtain ⟨t, ht, hcols, hrow⟩ := h
  refine ⟨fun tipo => ?_⟩
  have hlookup : ∀ p ∈ t.matching "tipo" (some tipo), t.rows.lookup p.1 = some p.2 :=
    fun p hp => Table.mem_scan.mp (Table.mem_matching.mp hp).1
  have hfind : findAllByTipo db (some tipo) =
      .ok (((t.matching "tipo" (some tipo)).map Sigma.fst).filterMap m) := by
    have hcarro : db.lookup "carro" = some t := ht
    rw [findAllByTipo, Database.rawQuery, Database.table_eq_ok hcarro]
    exact BaseDAO.Fits.mapM_fromMap hcols hrow hlookup
  refine ⟨_, hfind, hfind, BaseDAO.Fits.nodup_filterMap hrow ?_, fun c => ?_⟩
  · exact t.nodup_scan_ids.sublist (List.filter_sublist.map Sigma.fst)
  · -- A row is selected by the tipo of the car it stands for.
    have hstands : ∀ p ∈ t.scan, m p.1 = some c → p.2 "tipo" = c.tipo := by
      intro p hp hc
      have hrel := hrow p.1
      rw [Table.mem_scan.mp hp, hc] at hrel
      cases hrel with
      | some hs =>
        have hdec : Carro.fromMap (rowMap colunasCarro p.1 p.2) = .ok c := hs.1
        rw [Carro.fromMap_rowMap] at hdec
        rw [← Except.ok.inj hdec]
        rfl
    simp only [List.mem_filterMap, List.mem_map, Table.mem_matching]
    constructor
    · rintro ⟨i, ⟨p, ⟨hp, htipo⟩, rfl⟩, hc⟩
      exact ⟨⟨p.1, hc⟩, (hstands p hp hc).symm.trans htipo⟩
    · rintro ⟨⟨i, hc⟩, htipo⟩
      have hmem : i ∈ t.rows := (BaseDAO.Fits.mem_rows_iff hrow i).mpr (by simp [hc])
      obtain ⟨row, hlook⟩ := Option.isSome_iff_exists.mp (AList.lookup_isSome.mpr hmem)
      have hscan : (⟨i, row⟩ : Σ _ : Int, Row) ∈ t.scan := Table.mem_scan.mpr hlook
      have hrowtipo : row "tipo" = c.tipo := hstands _ hscan hc
      exact ⟨i, ⟨⟨i, row⟩, ⟨hscan, hrowtipo.trans htipo⟩, rfl⟩, hc⟩

end CarroDAO

/-! ## Favourites -/

/-- The class `Favorito`. -/
structure Favorito where
  id : Option Int := none
  nome : Option String := none
  deriving DecidableEq, Repr

namespace Favorito

/-- `Favorito.fromCarro`. -/
def fromCarro (c : Carro) : Favorito := ⟨c.id, c.nome⟩

/-- `Favorito.fromMap`. -/
def fromMap (map : DynMap) : Except DartError Favorito := do
  let id ← (map.get "id").asInt
  let nome ← (map.get "nome").asString
  return { id, nome }

/-- `Favorito.toMap`: the key `id` is always there. -/
def toMap (f : Favorito) : DynMap := [("id", .ofInt f.id), ("nome", .ofString f.nome)]

end Favorito

instance : Entity Favorito := ⟨Favorito.toMap⟩

/-- `FavoritoDAO`. -/
def FavoritoDAO : BaseDAO Favorito := ⟨"favorito", Favorito.fromMap⟩

namespace FavoritoDAO

/-- The keys of the map of a favourite are columns of its table. -/
lemma mem_colunasNome (f : Favorito) :
    ∀ p ∈ Entity.toMap f, p.1 = "id" ∨ p.1 ∈ colunasNome := by
  intro p hp
  simp only [Entity.toMap, Favorito.toMap, List.mem_cons, List.not_mem_nil, or_false] at hp
  rcases hp with rfl | rfl
  · exact Or.inl rfl
  · exact Or.inr List.mem_cons_self

/-- The map of a favourite has values for the table only. -/
lemma storable_toMap (f : Favorito) :
    ∀ k ∈ colunasNome, storable ((Entity.toMap f).get k) = true := by
  intro k hk
  obtain rfl : k = "nome" := List.mem_singleton.mp hk
  exact storable_ofString f.nome

/-- The row a favourite leaves under an id is read back as the favourite with that id. -/
lemma fromMap_linha (i : Int) (f : Favorito) :
    FavoritoDAO.fromMap (rowMap colunasNome i fun k => cell ((Entity.toMap f).get k)) =
      .ok { f with id := some i } := by
  have hcell : cell ((Entity.toMap f).get "nome") = f.nome := cell_ofString f.nome
  have hnome : (rowMap colunasNome i fun k => cell ((Entity.toMap f).get k)).get "nome" =
      .ofString f.nome := congrArg Dyn.ofString hcell
  have hid : (rowMap colunasNome i fun k => cell ((Entity.toMap f).get k)).get "id" =
      .ofInt (some i) := rfl
  simp only [FavoritoDAO, Favorito.fromMap, hid, hnome, Dyn.asInt_ofInt, Dyn.asString_ofString,
    ok_bind]
  rfl

/-- The codec of a favourite fits the table `favorito`. -/
def fits : FavoritoDAO.Fits colunasNome where
  idOf := Favorito.id
  withId i f := { f with id := some i }
  idOf_withId _ _ := rfl
  mem_columns := mem_colunasNome
  storable_get := storable_toMap
  get_id _ := rfl
  fromMap_rowMap := fromMap_linha

end FavoritoDAO

end Carros
