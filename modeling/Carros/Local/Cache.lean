import Carros.Local.CarrosBloc

/-!
# The local table as a cache

What the online branch of `CarrosBloc.fetch` leaves in the table `carro`.  The cars it saves have
been through `Carro.fromJson`, so they have neither an id nor a tipo: each of them becomes a new
row, and no query by tipo finds it.  `findAllByTipo_after_fetch_iff` concludes that the table
answers for a tipo with the list of the server exactly if it did so before.
-/

namespace Carros

open Dart Sql

variable {σ : Type}

/-- The request for a tipo is answered with the list `L`: JSON objects of the cars `L`, at least
one, with ids that are distinct and not null, all of the tipo asked for. -/
structure RespondeLista (transport : Transport σ) (stored : Option String) (tipo : String) (w : σ)
    (L : List Carro) : Prop where
  nonempty : L ≠ []
  ids : ∀ c ∈ L, c.id ≠ none
  nodup : (L.map Carro.id).Nodup
  tipos : ∀ c ∈ L, c.tipo = some tipo
  answer : ∃ status body, ∃ maps : List DynMap,
    (request transport stored .get (urlTipo tipo) none w).1 =
      .ok ⟨status, body⟩ ∧ jsonDecode body = some (.list (maps.map .map)) ∧
      maps.mapM Carro.fromMap = .ok L

/-- The table answers for a tipo with the cars `L`, each of them once. -/
def AnswersTipo (db : Database) (tipo : String) (L : List Carro) : Prop :=
  ∃ cs, CarroDAO.findAllByTipo db (some tipo) = .ok cs ∧ cs.Perm L

/-- A server that answers every request with the JSON objects of `L`. -/
def enviarLista (L : List Carro) : Transport σ := fun _ w =>
  (.ok ⟨200, jsonEncode (.list (L.map fun c => .map c.toMap))⟩, w)

/-- What such a server answers a request for a tipo with, if the ids fit into an `int`. -/
lemma answer_enviarLista {stored : Option String} {hs : List (String × String)}
    (hh : headers stored = .ok hs) {tipo : String} {L : List Carro}
    (hint : ∀ c ∈ L, c.IdInt64) (w : σ) :
    (request (enviarLista L) stored .get (urlTipo tipo) none w).1 =
        .ok ⟨200, jsonEncode (.list (L.map fun c => .map c.toMap))⟩ ∧
      jsonDecode (jsonEncode (.list (L.map fun c => .map c.toMap))) =
        some (.list ((L.map Carro.toMap).map .map)) ∧
      (L.map Carro.toMap).mapM Carro.fromMap = .ok L := by
  refine ⟨by simp only [request, hh, enviarLista], Carro.jsonDecode_list_toMap hint, ?_⟩
  clear hint
  induction L with
  | nil => rfl
  | cons c L ih =>
    rw [List.map_cons, List.mapM_cons, Carro.fromMap_toMap, ih]
    rfl

/-- A server that sends the JSON objects of such a list answers with the list. -/
lemma respondeLista_enviarLista {stored : Option String} {hs : List (String × String)}
    (hh : headers stored = .ok hs) {tipo : String} {L : List Carro} (hne : L ≠ [])
    (hint : ∀ c ∈ L, c.IdInt64) (hids : ∀ c ∈ L, c.id ≠ none) (hnodup : (L.map Carro.id).Nodup)
    (htipos : ∀ c ∈ L, c.tipo = some tipo) (w : σ) :
    RespondeLista (enviarLista L) stored tipo w L :=
  ⟨hne, hids, hnodup, htipos, 200, jsonEncode (.list (L.map fun c => .map c.toMap)),
    L.map Carro.toMap, answer_enviarLista hh hint w⟩

/-! ## What is saved -/

/-- A `fetch` that receives a list adds it to the stream and saves it. -/
lemma CarrosBloc.fetch_wifi_of_getCarros {transport : Transport σ} {stored : Option String}
    {tipo : String} {w : σ} {carros : List Carro}
    (h : (CarrosApi.getCarros transport stored tipo w).1 = .ok carros) (db : Database) :
    (CarrosBloc.fetch transport stored .wifi db tipo w).1 = ⟨.ok carros, carros⟩ := by
  simp [CarrosBloc.fetch, isNetworkOn, h]

/-- The list `fetch` emits after the answer `L`, with three fields of each car. -/
lemma RespondeLista.fetch_event {transport : Transport σ} {stored : Option String} {tipo : String}
    {w : σ} {L : List Carro} (h : RespondeLista transport stored tipo w L) (db : Database) :
    (CarrosBloc.fetch transport stored .wifi db tipo w).1.event = .ok (L.map Carro.semId) := by
  obtain ⟨status, body, maps, hanswer, hbody, hmaps⟩ := h.answer
  rw [CarrosBloc.fetch_wifi_of_getCarros (CarrosApi.getCarros_of_answer hanswer hbody hmaps)]

/-- The cars `fetch` saves after the answer `L`: all of them, with three fields each. -/
lemma RespondeLista.fetch_saves {transport : Transport σ} {stored : Option String} {tipo : String}
    {w : σ} {L : List Carro} (h : RespondeLista transport stored tipo w L) (db : Database) :
    (CarrosBloc.fetch transport stored .wifi db tipo w).1.saves = L.map Carro.semId := by
  obtain ⟨status, body, maps, hanswer, hbody, hmaps⟩ := h.answer
  rw [CarrosBloc.fetch_wifi_of_getCarros (CarrosApi.getCarros_of_answer hanswer hbody hmaps)]

/-! ## What the saves leave -/

/-- Whatever the rows of the table, they stand for cars. -/
lemma CarroDAO.exists_holds {db : Database} {t : Table} (ht : db.lookup "carro" = some t)
    (hcols : t.columns = colunasCarro) : ∃ m, CarroDAO.fits.Holds db m := by
  refine ⟨fun i => (t.rows.lookup i).map (Carro.daLinha i), t, ht, hcols, fun i => ?_⟩
  change Option.Rel _ (t.rows.lookup i) ((t.rows.lookup i).map (Carro.daLinha i))
  cases t.rows.lookup i with
  | none => exact .none
  | some row => exact .some ⟨Carro.fromMap_rowMap i row, rfl⟩

/-- Saving cars without id and tipo goes through and changes no car that has a tipo. -/
lemma CarrosBloc.completar_eq (gen : RowIds) {db : Database} {m : Int → Option Carro}
    (h : CarroDAO.fits.Holds db m) {saves : List Carro}
    (hsaves : ∀ c ∈ saves, c.id = none ∧ c.tipo = none) :
    ∃ db' m', completar gen db saves = .ok db' ∧ CarroDAO.fits.Holds db' m' ∧
      ∀ d : Carro, d.tipo ≠ none → ((∃ i, m' i = some d) ↔ ∃ i, m i = some d) := by
  induction saves generalizing db m with
  | nil => exact ⟨db, m, rfl, h, fun d _ => Iff.rfl⟩
  | cons c saves ih =>
    obtain ⟨⟨hid, htipo⟩, hsaves⟩ := List.forall_mem_cons.mp hsaves
    obtain ⟨i, db₁, hsave, -, hfresh, hholds, -⟩ := BaseDAO.Fits.save_eq h gen c
    have hnone : m i = none := hfresh hid
    obtain ⟨db', m', hrest, hholds', hsame⟩ := ih hholds hsaves
    refine ⟨db', m', ?_, hholds', fun d hd => (hsame d hd).trans ?_⟩
    · rw [completar, List.foldlM_cons, hsave]
      exact hrest
    · constructor
      · rintro ⟨j, hj⟩
        by_cases hji : j = i
        · subst hji
          rw [Function.update_self] at hj
          obtain rfl := Option.some.inj hj
          exact absurd htipo hd
        · exact ⟨j, by rwa [Function.update_of_ne hji] at hj⟩
      · rintro ⟨j, hj⟩
        have hji : j ≠ i := by
          rintro rfl
          simp [hnone] at hj
        exact ⟨j, by rwa [Function.update_of_ne hji]⟩

/-- **The offline cache.**  After an online `fetch` of a tipo and all the saves it started, in any
order, the local table answers for that tipo with the list of the server if and only if it did so
before. -/
theorem findAllByTipo_after_fetch_iff (gen : RowIds) {db : Database} {t : Table}
    (ht : db.lookup "carro" = some t) (hcols : t.columns = colunasCarro)
    {transport : Transport σ} {stored : Option String} {tipo : String} {w : σ} {L : List Carro}
    (hL : RespondeLista transport stored tipo w L) {ordem : List Carro}
    (hordem : ordem.Perm (CarrosBloc.fetch transport stored .wifi db tipo w).1.saves) :
    ∃ db', CarrosBloc.completar gen db ordem = .ok db' ∧
      (AnswersTipo db' tipo L ↔ AnswersTipo db tipo L) := by
  obtain ⟨m, hholds⟩ := CarroDAO.exists_holds ht hcols
  have hsaves : ∀ c ∈ ordem, c.id = none ∧ c.tipo = none := by
    intro c hc
    rw [hL.fetch_saves db] at hordem
    obtain ⟨d, -, rfl⟩ := List.mem_map.mp (hordem.subset hc)
    exact ⟨rfl, rfl⟩
  obtain ⟨db', m', hcompletar, hholds', hsame⟩ := CarrosBloc.completar_eq gen hholds hsaves
  refine ⟨db', hcompletar, ?_⟩
  obtain ⟨cs, hcs, -, hnodup, hmem⟩ := (CarroDAO.readsTipo hholds).findAllByTipo tipo
  obtain ⟨cs', hcs', -, hnodup', hmem'⟩ := (CarroDAO.readsTipo hholds').findAllByTipo tipo
  have hperm : cs'.Perm cs := by
    refine (List.perm_ext_iff_of_nodup hnodup' hnodup).mpr fun c => ?_
    rw [hmem, hmem']
    refine and_congr_left fun htipo => hsame c ?_
    simp [htipo]
  constructor
  · rintro ⟨ds, hds, hL'⟩
    obtain rfl := Except.ok.inj (hds.symm.trans hcs')
    exact ⟨cs, hcs, hperm.symm.trans hL'⟩
  · rintro ⟨ds, hds, hL'⟩
    obtain rfl := Except.ok.inj (hds.symm.trans hcs)
    exact ⟨cs', hcs', hperm.trans hL'⟩

/-- Two cars of a tipo, fetched in any order of the saves into a table that has their rows, and one
of another tipo: it goes on answering with the two. -/
theorem findAllByTipo_after_fetch_two :
    let fusca : Carro := { id := some 1, nome := some "Fusca", tipo := some "classicos" }
    let opala : Carro := { id := some 2, nome := some "Opala", tipo := some "classicos" }
    let linha : Option String → Option String → Row := fun nome tipo coluna =>
      if coluna = "nome" then nome else if coluna = "tipo" then tipo else none
    let rows : AList fun _ : Int => Row :=
      ((∅ : AList fun _ : Int => Row).insert 1 (linha fusca.nome fusca.tipo)).insert 2
        (linha opala.nome opala.tipo) |>.insert 3 (linha (some "Ferrari") (some "luxo"))
    let db := bancoCriado.insert "carro" ⟨colunasCarro, rows⟩
    let saves := (CarrosBloc.fetch (enviarLista [fusca, opala]) (some "\x7b\"roles\":[]\x7d") .wifi
      db "classicos" ()).1.saves
    ∃ db', CarrosBloc.completar .largest db saves.reverse = .ok db' ∧
      AnswersTipo db' "classicos" [fusca, opala] := by
  intro fusca opala linha rows db saves
  obtain ⟨hs, hh⟩ := exists_headers_semRoles
  have hL : RespondeLista (enviarLista [fusca, opala]) (some "\x7b\"roles\":[]\x7d") "classicos" ()
      [fusca, opala] :=
    respondeLista_enviarLista hh (by simp) (by decide) (by decide) (by decide) (by decide) ()
  have ht : db.lookup "carro" = some ⟨colunasCarro, rows⟩ := AList.lookup_insert bancoCriado
  obtain ⟨db', hcompletar, hiff⟩ := findAllByTipo_after_fetch_iff .largest ht rfl hL
    (List.reverse_perm saves)
  have hfind : CarroDAO.findAllByTipo db (some "classicos") = .ok [fusca, opala] := by
    decide +kernel
  exact ⟨db', hcompletar, hiff.mpr ⟨_, hfind, .refl _⟩⟩

/-- After the list has been fetched and saved, the table does not answer with it. -/
theorem findAllByTipo_after_fetch_fails :
    let fusca : Carro := { id := some 1, nome := some "Fusca", tipo := some "classicos" }
    let server : Transport Unit := enviarLista [fusca]
    let saves := (CarrosBloc.fetch server (some "\x7b\"roles\":[]\x7d") .wifi bancoCriado
      "classicos" ()).1.saves
    RespondeLista server (some "\x7b\"roles\":[]\x7d") "classicos" () [fusca] ∧
      ∃ db', CarrosBloc.completar .largest bancoCriado saves = .ok db' ∧
        ¬ AnswersTipo db' "classicos" [fusca] := by
  intro fusca server saves
  obtain ⟨hs, hh⟩ := exists_headers_semRoles
  refine ⟨respondeLista_enviarLista hh (by simp) (by decide) (by simp [fusca]) (by simp)
    (by simp [fusca]) (), ?_⟩
  have hfind : (CarrosBloc.completar .largest bancoCriado saves >>= fun db' =>
      CarroDAO.findAllByTipo db' (some "classicos")) = .ok [] := by decide +kernel
  obtain ⟨db', hcompletar, hempty⟩ := bind_eq_ok.mp hfind
  refine ⟨db', hcompletar, fun ⟨cs, hcs, hperm⟩ => ?_⟩
  obtain rfl := Except.ok.inj (hcs.symm.trans hempty)
  exact absurd hperm.length_eq (by simp)

end Carros
