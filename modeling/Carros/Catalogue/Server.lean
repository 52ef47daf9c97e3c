import Carros.Base.Keyed
import Carros.Http.CarrosApi

/-!
# The server catalogue

The server as the app relies on it: a finite map from ids to car records with the usual four
operations.  `GET tipo/t` answers with the JSON objects of the records of tipo `t`, `POST /carros`
adds one record under a fresh id, `PUT /carros/i` replaces record `i` by the body and
`DELETE /carros/i` removes it.  A request that names no record is answered with `absent`, whatever
that is, and changes nothing.

The last section gives the three functions of `CarrosApi` over this server by what they do:
`getCarros_answer`, `save_answer_novo`, `save_answer_existente`, `delete_answer_existente` and
`delete_answer_null`.
-/

namespace Carros

open Dart

/-- A car record: the eight fields of a car but its id, which is the key of the record. -/
structure Registro where
  nome : Option String
  tipo : Option String
  descricao : Option String
  urlFoto : Option String
  urlVideo : Option String
  latitude : Option String
  longitude : Option String
  deriving DecidableEq, Repr

/-- The record a car describes. -/
def Carro.registro (c : Carro) : Registro :=
  { nome := c.nome, tipo := c.tipo, descricao := c.descricao, urlFoto := c.urlFoto,
    urlVideo := c.urlVideo, latitude := c.latitude, longitude := c.longitude }

namespace Registro

/-- The car with all eight fields of a record. -/
def carro (i : Int) (r : Registro) : Carro :=
  { id := some i, nome := r.nome, tipo := r.tipo, descricao := r.descricao, urlFoto := r.urlFoto,
    urlVideo := r.urlVideo, latitude := r.latitude, longitude := r.longitude }

/-- The JSON object of a record. -/
def json (i : Int) (r : Registro) : DynMap := (r.carro i).toMap

/-- The record in the body of a request.  The id there is not read: a record has the one it is
stored under. -/
def ofBody (body : String) : Option Registro := do
  let d ← jsonDecode body
  let map ← d.asMap.toOption
  let nome ← (map.get "nome").asString.toOption
  let tipo ← (map.get "tipo").asString.toOption
  let descricao ← (map.get "descricao").asString.toOption
  let urlFoto ← (map.get "urlFoto").asString.toOption
  let urlVideo ← (map.get "urlVideo").asString.toOption
  let latitude ← (map.get "latitude").asString.toOption
  let longitude ← (map.get "longitude").asString.toOption
  return { nome, tipo, descricao, urlFoto, urlVideo, latitude, longitude }

/-- The body of a car is read as its record. -/
@[simp] lemma ofBody_toJson (c : Carro) : ofBody c.toJson = some c.registro := by
  obtain ⟨⟨-, hnome⟩, ⟨htipo, hdescricao⟩, ⟨hfoto, hvideo⟩, hlat, hlng⟩ := c.get_toMap
  simp [ofBody, Carro.toJson, jsonDecode_jsonEncode, get_rereadEntries, hnome, htipo, hdescricao,
    hfoto, hvideo, hlat, hlng, Except.toOption, Carro.registro]

/-- The JSON object of a record is decoded by `fromMap` with all its fields. -/
lemma fromMap_json (i : Int) (r : Registro) : Carro.fromMap (r.json i) = .ok (r.carro i) :=
  Carro.fromMap_toMap _

/-- Decoding the JSON objects of records one after the other. -/
lemma mapM_fromMap_json (es : List (Σ _ : Int, Registro)) :
    (es.map fun e => e.2.json e.1).mapM Carro.fromMap =
      (.ok (es.map fun e => e.2.carro e.1) : Except DartError (List Carro)) := by
  induction es with
  | nil => rfl
  | cons e es ih =>
    rw [List.map_cons, List.mapM_cons, fromMap_json, ih]
    rfl

end Registro

/-- The server state: a finite map from ids to records. -/
abbrev Catalogo := AList fun _ : Int => Registro

namespace Catalogo

/-- The records of a tipo, with their ids. -/
def listar (cat : Catalogo) (tipo : String) : List (Σ _ : Int, Registro) :=
  cat.entries.filter fun e => e.2.tipo = some tipo

/-- The records whose tipo has the given URL. -/
def listarUrl (cat : Catalogo) (url : String) : List (Σ _ : Int, Registro) :=
  cat.entries.filter fun e => e.2.tipo.map urlTipo = some url

/-- The id of the record whose URL is the given one. -/
def recurso (cat : Catalogo) (url : String) : Option Int :=
  cat.keys.find? fun i => urlCarro (some i) = url

/-- The body of a list. -/
def bodyLista (es : List (Σ _ : Int, Registro)) : String :=
  jsonEncode (.list (es.map fun e => .map (e.2.json e.1)))

/-- The body of a record. -/
def bodyRegistro (i : Int) (r : Registro) : String := jsonEncode (.map (r.json i))

/-- The server: `novo` is the id it gives to a record that is posted now, `absent` its answer to a
request that names no record. -/
def answer (absent : Response) (novo : Int) : Transport Catalogo := fun req cat =>
  match req.method with
  | .get => (.ok ⟨200, bodyLista (cat.listarUrl req.url)⟩, cat)
  | .post =>
    match req.body.bind Registro.ofBody with
    | none => (.ok absent, cat)
    | some r =>
      if req.url = urlCarros then (.ok ⟨201, bodyRegistro novo r⟩, cat.insert novo r)
      else (.ok absent, cat)
  | .put =>
    match cat.recurso req.url, req.body.bind Registro.ofBody with
    | some i, some r => (.ok ⟨200, bodyRegistro i r⟩, cat.insert i r)
    | _, _ => (.ok absent, cat)
  | .delete =>
    match cat.recurso req.url with
    | some i => (.ok ⟨200, ""⟩, cat.erase i)
    | none => (.ok absent, cat)

/-- The list behind the URL of a tipo is the list of the tipo. -/
lemma listarUrl_urlTipo (cat : Catalogo) (tipo : String) :
    cat.listarUrl (urlTipo tipo) = cat.listar tipo := by
  unfold listarUrl listar
  congr 1
  funext e
  cases e.2.tipo with
  | none => simp
  | some t => simp [urlTipo_injective.eq_iff]

/-- The URL of a record that exists names it. -/
lemma recurso_urlCarro {cat : Catalogo} {i : Int} (h : i ∈ cat) :
    cat.recurso (urlCarro (some i)) = some i := by
  unfold recurso
  cases hfind : cat.keys.find? fun j => urlCarro (some j) = urlCarro (some i) with
  | none =>
    have hnone := List.find?_eq_none.mp hfind i (AList.mem_keys.mp h)
    simp at hnone
  | some j =>
    have hj := List.find?_some hfind
    have hij : some j = some i := urlCarro_injective (by simpa using hj)
    rw [Option.some.inj hij]

/-- The URL `/carros/null` names nothing. -/
lemma recurso_urlCarro_none (cat : Catalogo) : cat.recurso (urlCarro none) = none := by
  refine List.find?_eq_none.mpr fun j hj hurl => ?_
  have hij : some j = none := urlCarro_injective (by simpa using hurl)
  exact absurd hij (by simp)

/-- The list of a tipo does not change when a record of another tipo is removed. -/
lemma listar_erase_of_ne {cat : Catalogo} {i : Int} {tipo : String}
    (hold : ∀ r, cat.lookup i = some r → r.tipo ≠ some tipo) :
    Catalogo.listar (cat.erase i) tipo = cat.listar tipo :=
  AList.filter_entries_erase fun r hr => by simp [hold r hr]

/-- The list of a tipo does not change when a record is put in that is of another tipo, over one
of another tipo. -/
lemma listar_insert_of_ne {cat : Catalogo} {i : Int} {r : Registro} {tipo : String}
    (hnew : r.tipo ≠ some tipo) (hold : ∀ r, cat.lookup i = some r → r.tipo ≠ some tipo) :
    Catalogo.listar (cat.insert i r) tipo = cat.listar tipo :=
  AList.filter_entries_insert (by simp [hnew]) fun r hr => by simp [hold r hr]

/-- A record is listed under its tipo, and only there. -/
lemma mem_listar {cat : Catalogo} {i : Int} {r : Registro} {tipo : String} :
    (⟨i, r⟩ : Σ _ : Int, Registro) ∈ cat.listar tipo ↔
      cat.lookup i = some r ∧ r.tipo = some tipo := by
  rw [listar, List.mem_filter, decide_eq_true_iff]
  exact and_congr_left fun _ => AList.mem_lookup_iff.symm

end Catalogo

/-! ## The car service over the server -/

namespace CarrosApi

variable {stored : Option String} {hs : List (String × String)}

/-- The body of a list is decoded to its cars, each without the fields `fromJson` drops. -/
lemma decodeCarros_bodyLista (es : List (Σ _ : Int, Registro)) :
    decodeCarros (Catalogo.bodyLista es) = .ok (es.map fun e => (e.2.carro e.1).semId) := by
  have h := mapM_fromJson_of_fromMap (Registro.mapM_fromMap_json es)
  rw [List.map_map, List.map_map] at h
  rw [decodeCarros, Catalogo.bodyLista, jsonDecode_jsonEncode]
  exact (mapM_fromJson_rereadList _).trans h

/-- Loading a tab: the records of the tipo, each without the fields `fromJson` drops. -/
lemma getCarros_answer (hh : headers stored = .ok hs) (absent : Response) (novo : Int)
    (tipo : String) (cat : Catalogo) :
    getCarros (Catalogo.answer absent novo) stored tipo cat =
      (.ok ((cat.listar tipo).map fun e => (e.2.carro e.1).semId), cat) := by
  simp [getCarros, request, hh, Catalogo.answer, Catalogo.listarUrl_urlTipo, Except.bind,
    decodeCarros_bodyLista]

/-- Nothing is loaded without a session. -/
lemma getCarros_of_headers_error {e : DartError} (hh : headers stored = .error e) {σ : Type}
    (transport : Transport σ) (tipo : String) (w : σ) :
    getCarros transport stored tipo w = (.error e, w) := by
  simp [getCarros, request, hh, Except.bind]

/-- The upload of a photo does not change the id of the car. -/
@[simp] lemma id_enviarFoto (stored : Option String) (c : Carro) (file : Option Foto) :
    (enviarFoto stored c file).id = c.id := by
  cases file with
  | none => rfl
  | some foto =>
    simp only [enviarFoto]
    split_ifs <;> rfl

/-- The upload of a photo does not change the tipo of the car. -/
@[simp] lemma tipo_enviarFoto (stored : Option String) (c : Carro) (file : Option Foto) :
    (enviarFoto stored c file).tipo = c.tipo := by
  cases file with
  | none => rfl
  | some foto =>
    simp only [enviarFoto]
    split_ifs <;> rfl

/-- The answer to a save that carries the record is a success if its id is an `int`; any other id is
read as a double, and the decoder throws. -/
lemma saveAnswer_bodyRegistro {status : ℕ} (hstatus : status = 200 ∨ status = 201) (i : Int)
    (r : Registro) :
    saveAnswer ⟨status, Catalogo.bodyRegistro i r⟩ =
      if IsInt64 i then .ok (.success (some true)) else .error .typeError := by
  simp only [saveAnswer, hstatus, if_true, Catalogo.bodyRegistro, jsonDecode_jsonEncode,
    Dyn.reread_map, Dyn.asMap_map, ok_bind]
  split_ifs with hi
  · have hid : (r.carro i).IdInt64 := fun j hj => Option.some.inj hj ▸ hi
    rw [Registro.json, Carro.rereadEntries_toMap hid, Carro.fromMap_toMap]
    rfl
  · rw [Registro.json, Carro.fromMap_rereadEntries_of_not_idInt64 fun hid => hi (hid i rfl)]
    rfl

/-- What a save reports whose answer carries the record. -/
def salvo (i : Int) : ApiResponse Bool :=
  if IsInt64 i then .success (some true) else .failure (some msgSalvar)

/-- Such a save is ok exactly if the id is an `int`. -/
@[simp] lemma ok_salvo (i : Int) : (salvo i).ok = decide (IsInt64 i) := by
  unfold salvo
  split_ifs with h <;> simp [h, ApiResponse.success, ApiResponse.failure]

/-- Saving a car without an id adds a record. -/
lemma save_answer_novo (hh : headers stored = .ok hs) (absent : Response) (novo : Int) {c : Carro}
    (hc : c.id = none) (file : Option Foto) (cat : Catalogo) :
    save (Catalogo.answer absent novo) stored c file cat =
      (salvo novo, enviarFoto stored c file,
        cat.insert novo (enviarFoto stored c file).registro) := by
  by_cases hi : IsInt64 novo <;>
    simp [save, hh, request, saveMethod, saveUrl, hc, Catalogo.answer, Except.bind,
      saveAnswer_bodyRegistro, orFailure, salvo, hi]

/-- Saving a car with the id of a record replaces the record. -/
lemma save_answer_existente (hh : headers stored = .ok hs) (absent : Response) (novo : Int)
    {c : Carro} {i : Int} (hc : c.id = some i) (file : Option Foto) {cat : Catalogo}
    (hi : i ∈ cat) :
    save (Catalogo.answer absent novo) stored c file cat =
      (salvo i, enviarFoto stored c file,
        cat.insert i (enviarFoto stored c file).registro) := by
  by_cases hint : IsInt64 i <;>
    simp [save, hh, request, saveMethod, saveUrl, hc, Catalogo.answer,
      Catalogo.recurso_urlCarro hi, Except.bind, saveAnswer_bodyRegistro, orFailure, salvo, hint]

/-- Nothing is saved without a session. -/
lemma save_of_headers_error {e : DartError} (hh : headers stored = .error e) {σ : Type}
    (transport : Transport σ) (c : Carro) (file : Option Foto) (w : σ) :
    (save transport stored c file w).1.ok = false := by
  simp [save, hh, ApiResponse.failure]

/-- Deleting a car with the id of a record removes the record. -/
lemma delete_answer_existente (hh : headers stored = .ok hs) (absent : Response) (novo : Int)
    {c : Carro} {i : Int} (hc : c.id = some i) {cat : Catalogo} (hi : i ∈ cat) :
    delete (Catalogo.answer absent novo) stored c cat = (.success (some true), cat.erase i) := by
  simp [delete, hh, request, hc, Catalogo.answer, Catalogo.recurso_urlCarro hi, Except.bind,
    deleteAnswer, orFailure]

/-- Deleting a car without an id removes nothing. -/
lemma delete_answer_null (absent : Response) (novo : Int) {c : Carro} (hc : c.id = none)
    (cat : Catalogo) : (delete (Catalogo.answer absent novo) stored c cat).2 = cat := by
  unfold delete
  cases hh : headers stored with
  | error e => rfl
  | ok hs => simp [request, hh, hc, Catalogo.answer, Catalogo.recurso_urlCarro_none]

end CarrosApi

end Carros
