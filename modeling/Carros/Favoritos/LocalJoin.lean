import Carros.Base.StepRun
import Carros.Local.CarroDAO

/-!
# The favourites in the local database

`Favoritar` and `getCarros` of `pages/favoritos/favorito_service.dart` over the tables `carro` and
`favorito`.

`getCarros` selects all columns of both tables.  They share the columns `id` and `nome`, and the row
of a result has one value under a name: the ids are equal, but the nome is that of the row of
`favorito`, which was copied from the car when it became a favourite.

`juncao` is the join in terms of the maps the two tables hold.  `getCarros_concorda` proves that the
cars in both tables are returned, each once, after every run of saves, deletes and calls of
`Favoritar`, and that they are the stored cars as long as no step gives a car another nome than its
row in `favorito` has.
-/

namespace Carros

open Dart Sql

namespace FavoritoService

/-- `getCarros`: `query` of `CarroDAO` with the join. -/
def getCarros (db : Database) : Except DartError (List Carro) := do
  let list ← db.joinIds "carro" "favorito"
  list.mapM CarroDAO.fromMap

/-- `Favoritar`, with the write it starts executed: what it returns, and the database. -/
def favoritar (gen : RowIds) (db : Database) (c : Carro) : Except DartError (Bool × Database) := do
  let f := Favorito.fromCarro c
  let existe ← FavoritoDAO.existsId db c.id
  if existe then
    let (_, db') ← FavoritoDAO.delete db c.id
    return (false, db')
  else
    let (_, db') ← FavoritoDAO.save db gen f
    return (true, db')

/-- The two tables hold these cars and favourites. -/
structure Guarda (db : Database) (carros : Int → Option Carro) (favoritos : Int → Option Favorito) :
    Prop where
  carros : CarroDAO.fits.Holds db carros
  favoritos : FavoritoDAO.fits.Holds db favoritos

/-- The car of the join under an id: the stored car, with the nome of the favourite. -/
def juncao (carros : Int → Option Carro) (favoritos : Int → Option Favorito) (i : Int) :
    Option Carro :=
  match carros i, favoritos i with
  | some c, some f => some { c with nome := f.nome }
  | _, _ => none

/-! ## What the join returns -/

/-- A row of the join is decoded to the car with the nome of the favourite. -/
lemma fromMap_juncao (i : Int) (linha linhaFav : Row) :
    Carro.fromMap (rowMap colunasCarro i linha ++ rowMap colunasNome i linhaFav) =
      .ok { Carro.daLinha i linha with nome := linhaFav "nome" } := by
  have hid : DynMap.get (rowMap colunasCarro i linha ++ rowMap colunasNome i linhaFav) "id" =
      .ofInt (some i) := rfl
  have hnome : DynMap.get (rowMap colunasCarro i linha ++ rowMap colunasNome i linhaFav) "nome" =
      .ofString (linhaFav "nome") := rfl
  have hcell : ∀ c ∈ colunasCarro, c ≠ "nome" →
      DynMap.get (rowMap colunasCarro i linha ++ rowMap colunasNome i linhaFav) c =
        .ofString (linha c) := by
    simp only [colunasCarro, List.forall_mem_cons]
    exact ⟨fun _ => rfl, fun h => absurd rfl h, fun _ => rfl, fun _ => rfl, fun _ => rfl,
      fun _ => rfl, fun _ => rfl, by simp⟩
  simp only [Carro.fromMap, hid, hnome, hcell "tipo" (by decide) (by decide),
    hcell "descricao" (by decide) (by decide), hcell "urlFoto" (by decide) (by decide),
    hcell "urlVideo" (by decide) (by decide), hcell "latitude" (by decide) (by decide),
    hcell "longitude" (by decide) (by decide), Dyn.asInt_ofInt, Dyn.asString_ofString, ok_bind]
  rfl

/-- The car a row of the table `carro` stands for. -/
lemma eq_daLinha {i : Int} {linha : Row} {c : Carro} (h : CarroDAO.fits.Stands i linha c) :
    c = Carro.daLinha i linha := by
  have hdec : Carro.fromMap (rowMap colunasCarro i linha) = .ok c := h.1
  rw [Carro.fromMap_rowMap] at hdec
  exact (Except.ok.inj hdec).symm

/-- The nome of the favourite a row of the table `favorito` stands for. -/
lemma nome_of_stands {i : Int} {linha : Row} {f : Favorito}
    (h : FavoritoDAO.fits.Stands i linha f) : f.nome = linha "nome" := by
  have hdec : Favorito.fromMap (rowMap colunasNome i linha) = .ok f := h.1
  have hid : DynMap.get (rowMap colunasNome i linha) "id" = .ofInt (some i) := rfl
  have hnome : DynMap.get (rowMap colunasNome i linha) "nome" = .ofString (linha "nome") := rfl
  simp only [Favorito.fromMap, hid, hnome, Dyn.asInt_ofInt, Dyn.asString_ofString, ok_bind] at hdec
  rw [← Except.ok.inj hdec]

variable {db : Database} {carros : Int → Option Carro} {favoritos : Int → Option Favorito}

/-- The rows that the join makes of one row of `carro`. -/
lemma mapM_linha {t t' : Table} (hcols : t.columns = colunasCarro)
    (hcols' : t'.columns = colunasNome) {e : Σ _ : Int, Row}
    (hrow : Option.Rel (CarroDAO.fits.Stands e.1) (some e.2) (carros e.1))
    (hrow' : Option.Rel (FavoritoDAO.fits.Stands e.1) (t'.rows.lookup e.1) (favoritos e.1)) :
    ((t'.scan.filter fun e' => e'.1 = e.1).map fun e' => t.toMap e ++ t'.toMap e').mapM
        CarroDAO.fromMap =
      .ok (juncao carros favoritos e.1).toList := by
  obtain ⟨i, linha⟩ := e
  simp only at hrow hrow' ⊢
  rw [Table.filter_scan_id, juncao]
  generalize t'.rows.lookup i = o at hrow'
  generalize favoritos i = f at hrow'
  generalize carros i = c at hrow
  cases hrow with
  | some hstands =>
    cases hrow' with
    | none => rfl
    | some hstands' =>
      rename_i c linha' f
      have hdec := fromMap_juncao i linha linha'
      rw [← eq_daLinha hstands, ← nome_of_stands hstands'] at hdec
      simp only [Option.map_some, Option.toList_some, List.map_cons, List.map_nil,
        List.mapM_cons, List.mapM_nil, Table.toMap, hcols, hcols', CarroDAO, hdec]
      rfl

/-- The join returns the cars of the map `juncao`, in the order of the stored cars. -/
lemma Guarda.getCarros_eq (h : Guarda db carros favoritos) :
    ∃ ids : List Int, ids.Nodup ∧ (∀ i, i ∈ ids ↔ (carros i).isSome) ∧
      getCarros db = .ok (ids.filterMap (juncao carros favoritos)) := by
  obtain ⟨⟨t, ht, hcols, hrow⟩, ⟨t', ht', hcols', hrow'⟩⟩ := h
  have hkeys : (t.scan.map Sigma.fst).Perm t.rows.keys := t.scan_perm.map Sigma.fst
  refine ⟨t.scan.map Sigma.fst, t.nodup_scan_ids, fun i => ?_, ?_⟩
  · rw [hkeys.mem_iff, ← AList.mem_keys]
    exact BaseDAO.Fits.mem_rows_iff hrow i
  · have hscan : ∀ e ∈ t.scan, t.rows.lookup e.1 = some e.2 := fun e he => Table.mem_scan.mp he
    have hjoin : getCarros db = (t.joinIds t').mapM CarroDAO.fromMap := by
      have htable : db.table "carro" = .ok t := Database.table_eq_ok ht
      have htable' : db.table "favorito" = .ok t' := Database.table_eq_ok ht'
      simp only [getCarros, Database.joinIds, htable, htable', ok_bind]
      rfl
    rw [hjoin, Table.joinIds]
    -- Row by row: any part of the rows of `carro` gives the cars of its ids.
    generalize t.scan = linhas at hscan
    induction linhas with
    | nil => rfl
    | cons e linhas ih =>
      obtain ⟨he, hscan⟩ := List.forall_mem_cons.mp hscan
      have hcarro := hrow e.1
      rw [he] at hcarro
      rw [List.flatMap_cons, List.mapM_append, mapM_linha hcols hcols' hcarro (hrow' e.1),
        ih hscan, List.map_cons, List.filterMap_cons]
      cases juncao carros favoritos e.1 <;> rfl

/-- The id of a stored car is the id it is stored under. -/
lemma Guarda.id_eq (h : Guarda db carros favoritos) {i : Int} {c : Carro}
    (hc : carros i = some c) : c.id = some i := by
  obtain ⟨⟨t, -, -, hrow⟩, -⟩ := h
  have hrel := hrow i
  rw [hc] at hrel
  generalize t.rows.lookup i = linha at hrel
  cases hrel with
  | some hstands => exact hstands.2

/-- What is in the join: a stored car that is a favourite, with the nome of the favourite. -/
lemma juncao_eq_some {i : Int} {c : Carro} :
    juncao carros favoritos i = some c ↔
      ∃ d f, carros i = some d ∧ favoritos i = some f ∧ c = { d with nome := f.nome } := by
  rw [juncao]
  cases carros i with
  | none => simp
  | some d =>
    cases favoritos i with
    | none => simp
    | some f =>
      constructor
      · intro hc
        exact ⟨d, f, rfl, rfl, (Option.some.inj hc).symm⟩
      · rintro ⟨d', f', hd, hf, rfl⟩
        rw [Option.some.inj hd, Option.some.inj hf]

/-- `getCarros` returns the cars that are in both tables, each once. -/
def JuncaoExata (db : Database) : Prop :=
  ∃ cs, getCarros db = .ok cs ∧ (cs.map Carro.id).Nodup ∧
    ∀ id : Option Int, id ∈ cs.map Carro.id ↔
      CarroDAO.existsId db id = .ok true ∧ FavoritoDAO.existsId db id = .ok true

/-- Every car `getCarros` returns is the car stored under its id, in all fields. -/
def Concorda (db : Database) : Prop :=
  ∀ cs, getCarros db = .ok cs → ∀ c ∈ cs, CarroDAO.findById db c.id = .ok (some c)

/-- Every stored car that is a favourite has the nome its favourite has. -/
def NomesIguais (db : Database) : Prop :=
  ∀ id c f, CarroDAO.findById db id = .ok (some c) → FavoritoDAO.findById db id = .ok (some f) →
    f.nome = c.nome

/-- The ids of the join. -/
lemma Guarda.map_id_filterMap (h : Guarda db carros favoritos) (ids : List Int) :
    (ids.filterMap (juncao carros favoritos)).map Carro.id =
      (ids.filter fun i => (carros i).isSome && (favoritos i).isSome).map some := by
  induction ids with
  | nil => rfl
  | cons i ids ih =>
    rw [List.filterMap_cons, List.filter_cons, juncao]
    cases hc : carros i with
    | none => simpa using ih
    | some c =>
      cases hf : favoritos i with
      | none => simpa [hc] using ih
      | some f => simpa [hc, hf] using ⟨h.id_eq hc, ih⟩

/-- Nothing is lost and nothing comes twice, whatever the names. -/
lemma Guarda.juncaoExata (h : Guarda db carros favoritos) : JuncaoExata db := by
  obtain ⟨ids, hnodup, hids, hget⟩ := h.getCarros_eq
  refine ⟨_, hget, ?_, fun id => ?_⟩
  · rw [h.map_id_filterMap]
    exact (hnodup.sublist List.filter_sublist).map (Option.some_injective Int)
  · rw [h.map_id_filterMap, h.carros.reads.existsId, h.favoritos.reads.existsId]
    cases id with
    | none => simp
    | some i =>
      have hmem : i ∈ ids ∧ ((carros i).isSome ∧ (favoritos i).isSome) ↔
          (carros i).isSome ∧ (favoritos i).isSome := by
        rw [hids]
        exact and_iff_right_of_imp And.left
      simpa using hmem

/-- The join agrees with the stored cars exactly if the names do. -/
lemma Guarda.concorda_iff (h : Guarda db carros favoritos) : Concorda db ↔ NomesIguais db := by
  obtain ⟨ids, -, hids, hget⟩ := h.getCarros_eq
  constructor
  · intro hconcorda id c f hc hf
    rw [h.carros.reads.findById] at hc
    rw [h.favoritos.reads.findById] at hf
    cases id with
    | none => cases Except.ok.inj hc
    | some i =>
      have hc' : carros i = some c := Except.ok.inj hc
      have hf' : favoritos i = some f := Except.ok.inj hf
      have hjuncao := juncao_eq_some.mpr ⟨c, f, hc', hf', rfl⟩
      have hmem := List.mem_filterMap.mpr ⟨i, (hids i).mpr (by simp [hc']), hjuncao⟩
      have hfind := hconcorda _ hget _ hmem
      have hid : c.id = some i := h.id_eq hc'
      rw [show ({ c with nome := f.nome } : Carro).id = some i from hid] at hfind
      have heq := Option.some.inj (hc'.symm.trans (h.carros.reads.findById_iff.mp hfind))
      exact (congrArg Carro.nome heq).symm
  · intro hnomes cs hcs c hc
    obtain rfl := Except.ok.inj (hget.symm.trans hcs)
    obtain ⟨i, -, hjuncao⟩ := List.mem_filterMap.mp hc
    obtain ⟨d, f, hd, hf, rfl⟩ := juncao_eq_some.mp hjuncao
    have hnome : f.nome = d.nome :=
      hnomes (some i) d f (h.carros.reads.findById_iff.mpr hd)
        (h.favoritos.reads.findById_iff.mpr hf)
    have heq : ({ d with nome := f.nome } : Carro) = d := by rw [hnome]
    rw [heq, h.id_eq hd]
    exact h.carros.reads.findById_iff.mpr hd

/-! ## Runs -/

/-- A write: a car is saved, a car is deleted, or `Favoritar` is called. -/
inductive LocalPasso where
  | salvar (c : Carro)
  | deletar (id : Option Int)
  | favoritar (c : Carro)

/-- One write; cars are saved and deleted under ids, and `Favoritar` is called on a car whose id is
stored. -/
def step (gen : RowIds) (db : Database) : LocalPasso → Option Database
  | .salvar c =>
    if c.id = none then none else (CarroDAO.save db gen c).toOption.map Prod.snd
  | .deletar id => if id = none then none else (CarroDAO.delete db id).toOption.map Prod.snd
  | .favoritar c =>
    match CarroDAO.existsId db c.id with
    | .ok true => (favoritar gen db c).toOption.map Prod.snd
    | _ => none

/-- The write leaves no stored car with another nome than its favourite: a saved car has the nome of
the favourite under its id, and a car that becomes a favourite has the nome it is stored with. -/
def MantemNome (db : Database) : LocalPasso → Prop
  | .salvar c => ∀ f, FavoritoDAO.findById db c.id = .ok (some f) → f.nome = c.nome
  | .deletar _ => True
  | .favoritar c => FavoritoDAO.existsId db c.id = .ok false →
      ∀ d, CarroDAO.findById db c.id = .ok (some d) → c.nome = d.nome

/-- Leaving out one id is updating there. -/
lemma ite_none_eq_update {T : Type} (m : Int → Option T) (i : Int) :
    (fun j => if some j = some i then none else m j) = Function.update m i none := by
  funext j
  by_cases hj : j = i <;> simp [hj]

/-- `delete` of a favourite. -/
lemma Guarda.delete_favorito (h : Guarda db carros favoritos) (i : Int) :
    ∃ n db', FavoritoDAO.delete db (some i) = .ok (n, db') ∧
      Guarda db' carros (Function.update favoritos i none) := by
  obtain ⟨db', hdelete, hholds, hframe⟩ := BaseDAO.Fits.delete_eq h.favoritos (some i)
  rw [ite_none_eq_update] at hholds
  exact ⟨_, db', hdelete, h.carros.of_lookup_eq (hframe _ (by decide)), hholds⟩

/-- `save` of the favourite of a car. -/
lemma Guarda.save_favorito (h : Guarda db carros favoritos) (gen : RowIds) {c : Carro} {i : Int}
    (hid : c.id = some i) :
    ∃ n db', FavoritoDAO.save db gen (Favorito.fromCarro c) = .ok (n, db') ∧
      Guarda db' carros (Function.update favoritos i (some (Favorito.fromCarro c))) := by
  obtain ⟨j, db', hsave, hj, -, hholds, hframe⟩ :=
    BaseDAO.Fits.save_eq h.favoritos gen (Favorito.fromCarro c)
  obtain rfl : j = i := hj i hid
  have hfavorito : FavoritoDAO.fits.withId j (Favorito.fromCarro c) = Favorito.fromCarro c := by
    change (⟨some j, c.nome⟩ : Favorito) = ⟨c.id, c.nome⟩
    rw [hid]
  rw [hfavorito] at hholds
  exact ⟨j, db', hsave, h.carros.of_lookup_eq (hframe _ (by decide)), hholds⟩

/-- What `Favoritar` does: the car is taken out of the favourites if it is there, and put there
otherwise. -/
lemma Guarda.favoritar_eq (h : Guarda db carros favoritos) (gen : RowIds) {c : Carro} {i : Int}
    (hid : c.id = some i) :
    ∃ db', favoritar gen db c = .ok ((favoritos i).isNone, db') ∧
      Guarda db' carros (Function.update favoritos i
        (if (favoritos i).isSome then none else some (Favorito.fromCarro c))) := by
  have hexiste : FavoritoDAO.existsId db c.id = .ok (favoritos i).isSome := by
    rw [hid, h.favoritos.reads.existsId_some]
  cases hf : favoritos i with
  | none =>
    obtain ⟨n, db', hsave, hguarda⟩ := h.save_favorito gen hid
    refine ⟨db', ?_, by simpa using hguarda⟩
    simp only [favoritar, hexiste, hf, ok_bind, hsave]
    rfl
  | some f =>
    obtain ⟨n, db', hdelete, hguarda⟩ := h.delete_favorito i
    refine ⟨db', ?_, by simpa using hguarda⟩
    rw [← hid] at hdelete
    simp only [favoritar, hexiste, hf, ok_bind, hdelete]
    rfl

/-- What a write does to the cars and the favourites. -/
lemma Guarda.step (h : Guarda db carros favoritos) {gen : RowIds} {p : LocalPasso}
    {db' : Database} (hstep : FavoritoService.step gen db p = some db') :
    match p with
    | .salvar c => ∃ i, c.id = some i ∧ Guarda db' (Function.update carros i (some c)) favoritos
    | .deletar id => ∃ i, id = some i ∧ Guarda db' (Function.update carros i none) favoritos
    | .favoritar c => ∃ i d, c.id = some i ∧ carros i = some d ∧
        Guarda db' carros (Function.update favoritos i
          (if (favoritos i).isSome then none else some (Favorito.fromCarro c))) := by
  cases p with
  | salvar c =>
    simp only [FavoritoService.step] at hstep
    split at hstep
    · cases hstep
    rename_i hid
    obtain ⟨i, hi⟩ := Option.ne_none_iff_exists'.mp hid
    obtain ⟨j, db₁, hsave, hj, -, hholds, hframe⟩ := BaseDAO.Fits.save_eq h.carros gen c
    obtain rfl : j = i := hj i hi
    rw [hsave] at hstep
    obtain rfl : db₁ = db' := Option.some.inj hstep
    have hcarro : CarroDAO.fits.withId j c = c := by
      change ({ c with id := some j } : Carro) = c
      rw [← hi]
    rw [hcarro] at hholds
    exact ⟨j, hi, hholds, h.favoritos.of_lookup_eq (hframe _ (by decide))⟩
  | deletar id =>
    simp only [FavoritoService.step] at hstep
    split at hstep
    · cases hstep
    rename_i hid
    obtain ⟨i, rfl⟩ := Option.ne_none_iff_exists'.mp hid
    obtain ⟨db₁, hdelete, hholds, hframe⟩ := BaseDAO.Fits.delete_eq h.carros (some i)
    rw [hdelete] at hstep
    obtain rfl : db₁ = db' := Option.some.inj hstep
    rw [ite_none_eq_update] at hholds
    exact ⟨i, rfl, hholds, h.favoritos.of_lookup_eq (hframe _ (by decide))⟩
  | favoritar c =>
    simp only [FavoritoService.step] at hstep
    split at hstep
    swap
    · cases hstep
    rename_i hexiste
    rw [h.carros.reads.existsId] at hexiste
    cases hid : c.id with
    | none =>
      rw [hid] at hexiste
      cases Except.ok.inj hexiste
    | some i =>
      rw [hid] at hexiste
      obtain ⟨d, hd⟩ := Option.isSome_iff_exists.mp (Except.ok.inj hexiste)
      obtain ⟨db₁, hfavoritar, hguarda⟩ := h.favoritar_eq gen hid
      rw [hfavoritar] at hstep
      obtain rfl : db₁ = db' := Option.some.inj hstep
      exact ⟨i, d, hid, hd, hguarda⟩

/-- The names that have to be equal, in the maps of the tables. -/
lemma Guarda.nomesIguais_iff (h : Guarda db carros favoritos) :
    NomesIguais db ↔
      ∀ i c f, carros i = some c → favoritos i = some f → f.nome = c.nome := by
  constructor
  · intro hnomes i c f hc hf
    exact hnomes (some i) c f (h.carros.reads.findById_iff.mpr hc)
      (h.favoritos.reads.findById_iff.mpr hf)
  · intro hnomes id c f hc hf
    rw [h.carros.reads.findById] at hc
    rw [h.favoritos.reads.findById] at hf
    cases id with
    | none => cases Except.ok.inj hc
    | some i => exact hnomes i c f (Except.ok.inj hc) (Except.ok.inj hf)

/-- From a state with equal names, a write leads to one exactly if it keeps the names. -/
lemma Guarda.nomesIguais_step (h : Guarda db carros favoritos) (hnomes : NomesIguais db)
    {gen : RowIds} {p : LocalPasso} {db' : Database}
    (hstep : FavoritoService.step gen db p = some db') : NomesIguais db' ↔ MantemNome db p := by
  have hmaps := h.nomesIguais_iff.mp hnomes
  have hguarda := h.step hstep
  cases p with
  | salvar c =>
    obtain ⟨i, hi, hguarda⟩ := hguarda
    rw [hguarda.nomesIguais_iff]
    constructor
    · intro hnomes' f hf
      rw [hi] at hf
      exact hnomes' i c f (Function.update_self i (some c) carros)
        (h.favoritos.reads.findById_iff.mp hf)
    · intro hmantem j d f hd hf
      by_cases hji : j = i
      · subst hji
        rw [Function.update_self] at hd
        obtain rfl := Option.some.inj hd
        refine hmantem f ?_
        rw [hi]
        exact h.favoritos.reads.findById_iff.mpr hf
      · rw [Function.update_of_ne hji] at hd
        exact hmaps j d f hd hf
  | deletar id =>
    obtain ⟨i, -, hguarda⟩ := hguarda
    rw [hguarda.nomesIguais_iff]
    refine ⟨fun _ => trivial, fun _ j d f hd hf => ?_⟩
    by_cases hji : j = i
    · subst hji
      rw [Function.update_self] at hd
      cases hd
    · rw [Function.update_of_ne hji] at hd
      exact hmaps j d f hd hf
  | favoritar c =>
    obtain ⟨i, d, hi, hd, hguarda⟩ := hguarda
    rw [hguarda.nomesIguais_iff]
    constructor
    · intro hnomes' hnovo d' hd'
      rw [hi] at hd'
      obtain rfl := Option.some.inj (hd.symm.trans (h.carros.reads.findById_iff.mp hd'))
      rw [hi, h.favoritos.reads.existsId_some] at hnovo
      have hnone : (favoritos i).isSome = false := Except.ok.inj hnovo
      refine hnomes' i d (Favorito.fromCarro c) hd ?_
      rw [Function.update_self, hnone]
      rfl
    · intro hmantem j e f he hf
      by_cases hji : j = i
      · subst hji
        obtain rfl := Option.some.inj (hd.symm.trans he)
        rw [Function.update_self] at hf
        cases hfav : favoritos j with
        | some g =>
          rw [hfav] at hf
          cases hf
        | none =>
          rw [hfav] at hf
          obtain rfl : Favorito.fromCarro c = f := Option.some.inj hf
          refine hmantem ?_ d ?_
          · rw [hi, h.favoritos.reads.existsId_some, hfav]
            rfl
          · rw [hi]
            exact h.carros.reads.findById_iff.mpr hd
      · rw [Function.update_of_ne hji] at hf
        exact hmaps j e f he hf

/-- The tables hold some cars and favourites. -/
def Guardado (db : Database) : Prop := ∃ carros favoritos, Guarda db carros favoritos

/-- A write leaves tables that hold cars and favourites. -/
lemma Guardado.step (h : Guardado db) {gen : RowIds} {p : LocalPasso} {db' : Database}
    (hstep : FavoritoService.step gen db p = some db') : Guardado db' := by
  obtain ⟨carros, favoritos, h⟩ := h
  have hguarda := h.step hstep
  cases p with
  | salvar c =>
    obtain ⟨i, -, hguarda⟩ := hguarda
    exact ⟨_, _, hguarda⟩
  | deletar id =>
    obtain ⟨i, -, hguarda⟩ := hguarda
    exact ⟨_, _, hguarda⟩
  | favoritar c =>
    obtain ⟨i, d, -, -, hguarda⟩ := hguarda
    exact ⟨_, _, hguarda⟩

/-- The tables of `create.sql` hold nothing. -/
lemma guarda_bancoCriado : Guarda bancoCriado (fun _ => none) fun _ => none := by
  refine ⟨⟨⟨colunasCarro, ∅⟩, rfl, rfl, fun i => ?_⟩, ⟨⟨colunasNome, ∅⟩, rfl, rfl, fun i => ?_⟩⟩
  · exact .none
  · exact .none

end FavoritoService

open FavoritoService

/-- **The joined query.**  In every state of every run of saves, deletes and calls of `Favoritar`,
`getCarros` returns the cars in both tables, each once; and the cars it returns are the stored cars
in every state of the run if and only if every step of the run keeps the names. -/
theorem getCarros_concorda (gen : RowIds) (passos : List LocalPasso) (db : Database)
    (hrun : StepRun.run (step gen) bancoCriado passos = some db) :
    JuncaoExata db ∧
      ((∀ antes depois db₁, passos = antes ++ depois →
          StepRun.run (step gen) bancoCriado antes = some db₁ → Concorda db₁) ↔
        StepRun.RunMeets (step gen) MantemNome bancoCriado passos) := by
  have hinicio : Guardado bancoCriado := ⟨_, _, guarda_bancoCriado⟩
  have hguardado : ∀ {passos db₁}, StepRun.run (step gen) bancoCriado passos = some db₁ →
      Guardado db₁ := by
    intro passos db₁ h
    exact StepRun.run_invariant_of_step (fun _ _ _ hI hstep => Guardado.step hI hstep) hinicio h
  have hnomes : NomesIguais bancoCriado :=
    guarda_bancoCriado.nomesIguais_iff.mpr fun i c f hc _ => by cases hc
  refine ⟨?_, ?_⟩
  · obtain ⟨carros, favoritos, hguarda⟩ := hguardado hrun
    exact hguarda.juncaoExata
  · have hpasso : ∀ db₁ p db₂, Guardado db₁ → NomesIguais db₁ → step gen db₁ p = some db₂ →
        (NomesIguais db₂ ↔ MantemNome db₁ p) := by
      rintro db₁ p db₂ ⟨carros, favoritos, hguarda⟩ higuais hstep
      exact hguarda.nomesIguais_step higuais hstep
    rw [← StepRun.forall_prefix_iff (fun _ _ _ hJ hstep => Guardado.step hJ hstep) hpasso hinicio
      hnomes hrun]
    have hiff : ∀ antes db₁, StepRun.run (step gen) bancoCriado antes = some db₁ →
        (Concorda db₁ ↔ NomesIguais db₁) := by
      intro antes db₁ h
      obtain ⟨carros, favoritos, hguarda⟩ := hguardado h
      exact hguarda.concorda_iff
    constructor
    · intro h antes depois db₁ happend hantes
      exact (hiff antes db₁ hantes).mp (h antes depois db₁ happend hantes)
    · intro h antes depois db₁ happend hantes
      exact (hiff antes db₁ hantes).mpr (h antes depois db₁ happend hantes)

/-- A car becomes a favourite and is saved again with another description. -/
theorem getCarros_concorda_descricao :
    let fusca : Carro := { id := some 1, nome := some "Fusca" }
    let passos : List LocalPasso :=
      [.salvar fusca, .favoritar fusca, .salvar { fusca with descricao := some "1968" }]
    ∃ db, StepRun.run (step .largest) bancoCriado passos = some db ∧ JuncaoExata db ∧
      ((∀ antes depois db₁, passos = antes ++ depois →
          StepRun.run (step .largest) bancoCriado antes = some db₁ → Concorda db₁) ↔
        StepRun.RunMeets (step .largest) MantemNome bancoCriado passos) := by
  intro fusca passos
  have hsome : (StepRun.run (step .largest) bancoCriado passos).isSome = true := by
    decide +kernel
  obtain ⟨db, hrun⟩ := Option.isSome_iff_exists.mp hsome
  exact ⟨db, hrun, getCarros_concorda .largest passos db hrun⟩

/-- A car becomes a favourite and is saved again with another nome: the join returns it with the old
one. -/
theorem getCarros_concorda_fails :
    let fusca : Carro := { id := some 1, nome := some "Fusca" }
    let passos : List LocalPasso :=
      [.salvar fusca, .favoritar fusca, .salvar { fusca with nome := some "Fusca 1968" }]
    ∃ db, StepRun.run (step .largest) bancoCriado passos = some db ∧
      getCarros db = .ok [fusca] ∧
      CarroDAO.findById db (some 1) = .ok (some { fusca with nome := some "Fusca 1968" }) ∧
      ¬ Concorda db := by
  intro fusca passos
  have hsome : (StepRun.run (step .largest) bancoCriado passos).isSome = true := by
    decide +kernel
  obtain ⟨db, hrun⟩ := Option.isSome_iff_exists.mp hsome
  have hget : getCarros db = .ok [fusca] := by
    obtain rfl := Option.some.inj hrun
    rfl
  have hfind : CarroDAO.findById db (some 1) =
      .ok (some { fusca with nome := some "Fusca 1968" }) := by
    obtain rfl := Option.some.inj hrun
    rfl
  refine ⟨db, hrun, hget, hfind, fun hconcorda => ?_⟩
  have hcar := hconcorda [fusca] hget fusca List.mem_cons_self
  rw [show fusca.id = some 1 from rfl, hfind] at hcar
  have hnome : some "Fusca 1968" = some "Fusca" :=
    congrArg Carro.nome (Option.some.inj (Except.ok.inj hcar))
  exact absurd hnome (by decide)

end Carros
