import Carros.Entity.Carro
import Carros.Http.Helper

/-!
# The car service

`CarrosApi.getCarros`, `CarrosApi.save` and `CarrosApi.delete` of `pages/carros/carros_api.dart`
and `UploadApi.upload` of `pages/carros/upload_api.dart`, over any `Transport`.

A chosen photo is represented by what the request that uploads it comes back with.
-/

namespace Carros

open Dart

variable {σ : Type}

/-- The URL of the list of a tipo. -/
def urlTipo (tipo : String) : String :=
  "http://carros-springboot.herokuapp.com/api/v2/carros/tipo/" ++ tipo

/-- The URL of the car collection. -/
def urlCarros : String := "https://carros-springboot.herokuapp.com/api/v2/carros"

/-- The URL of the car with an id, with the id interpolated. -/
def urlCarro (id : Option Int) : String := urlCarros ++ "/" ++ interpolate id

/-- URLs of different ids are different, `null` included. -/
lemma urlCarro_injective : Function.Injective urlCarro := by
  intro i j h
  exact interpolate_injective ((String.append_right_inj _).mp h)

/-- URLs of different tipos are different. -/
lemma urlTipo_injective : Function.Injective urlTipo := by
  intro t t' h
  exact (String.append_right_inj _).mp h

/-- What the upload of a chosen photo comes back with. -/
abbrev Foto := Except DartError Response

/-- `UploadApi.upload`. -/
def UploadApi.upload (stored : Option String) (foto : Foto) : ApiResponse String :=
  let tried : Except DartError (Option String) := do
    let _ ← headers stored
    let response ← foto
    match jsonDecode response.body with
    | none => .error .formatException
    | some d => do
      let map ← d.asMap
      (map.get "url").asString
  match tried with
  | .ok urlFoto => .success urlFoto
  | .error _ => .failure (some "Não foi possível fazer o upload")

namespace CarrosApi

/-- The list of cars in the body of a response. -/
def decodeCarros (body : String) : Except DartError (List Carro) :=
  match jsonDecode body with
  | none => .error .formatException
  | some d => do
    let list ← d.asList
    list.mapM fun map => do Carro.fromJson (← map.asMap)

/-- `CarrosApi.getCarros`. -/
def getCarros (transport : Transport σ) (stored : Option String) (tipo : String) (w : σ) :
    Except DartError (List Carro) × σ :=
  let (answer, w') := request transport stored .get (urlTipo tipo) none w
  (answer.bind fun response => decodeCarros response.body, w')

/-- A list of JSON objects is decoded object by object. -/
lemma mapM_fromJson_of_fromMap {maps : List DynMap} {L : List Carro}
    (h : maps.mapM Carro.fromMap = .ok L) :
    (maps.map Dyn.map).mapM (fun map => do Carro.fromJson (← map.asMap)) =
      (.ok (L.map Carro.semId) : Except DartError (List Carro)) := by
  induction maps generalizing L with
  | nil =>
    obtain rfl := Except.ok.inj h
    rfl
  | cons map maps ih =>
    rw [List.mapM_cons] at h
    obtain ⟨c, hc, h⟩ := bind_eq_ok.mp h
    obtain ⟨cs, hcs, h⟩ := bind_eq_ok.mp h
    obtain rfl := Except.ok.inj h
    rw [List.map_cons, List.mapM_cons, Dyn.asMap_map, ok_bind, Carro.fromJson_of_fromMap hc,
      ih hcs]
    rfl

/-- A list that was read back is decoded as it was: `fromJson` reads strings only. -/
lemma mapM_fromJson_rereadList (xs : List Dyn) :
    ((rereadList xs).mapM fun map => do Carro.fromJson (← map.asMap)) =
      (xs.mapM fun map => do Carro.fromJson (← map.asMap) : Except DartError (List Carro)) := by
  rw [rereadList_eq_map, List.mapM_map]
  congr 1
  funext d
  rw [Function.comp_apply, Dyn.asMap_reread]
  cases d.asMap with
  | error e => rfl
  | ok m => exact Carro.fromJson_rereadEntries m

/-- The JSON objects of `L` reach the caller of `getCarros` as cars with three fields each. -/
lemma getCarros_of_answer {transport : Transport σ} {stored : Option String}
    {tipo : String} {w : σ} {L : List Carro} {status : ℕ} {body : String} {maps : List DynMap}
    (hanswer : (request transport stored .get (urlTipo tipo) none w).1 = .ok ⟨status, body⟩)
    (hbody : jsonDecode body = some (.list (maps.map .map)))
    (hmaps : maps.mapM Carro.fromMap = .ok L) :
    (getCarros transport stored tipo w).1 = .ok (L.map Carro.semId) := by
  have hdecode : decodeCarros body = .ok (L.map Carro.semId) := by
    rw [decodeCarros, hbody]
    exact mapM_fromJson_of_fromMap hmaps
  simp only [getCarros, hanswer]
  exact hdecode

/-- The message of a save that failed. -/
def msgSalvar : String := "Nao foi possivel salvar o carro"

/-- The message of a delete that failed. -/
def msgDeletar : String := "Nao foi possivel deletar o carro"

/-- The error response of a request the server refused: its `error` key, or `msg` if the body is
empty. -/
def refused (msg : String) (response : Response) : Except DartError (ApiResponse Bool) :=
  if response.body.isEmpty then .ok (.failure (some msg))
  else
    match jsonDecode response.body with
    | none => .error .formatException
    | some d => do
      let map ← d.asMap
      return .failure (← (map.get "error").asString)

/-- The end of `save`, from the response on. -/
def saveAnswer (response : Response) : Except DartError (ApiResponse Bool) :=
  if response.statusCode = 200 ∨ response.statusCode = 201 then
    match jsonDecode response.body with
    | none => .error .formatException
    | some d => do
      let map ← d.asMap
      let _ ← Carro.fromMap map
      return .success (some true)
  else refused msgSalvar response

/-- The end of `delete`, from the response on. -/
def deleteAnswer (response : Response) : Except DartError (ApiResponse Bool) :=
  if response.statusCode = 200 then .ok (.success (some true))
  else refused msgDeletar response

/-- The `catch` of `save` and `delete`. -/
def orFailure (msg : String) : Except DartError (ApiResponse Bool) → ApiResponse Bool
  | .ok response => response
  | .error _ => .failure (some msg)

/-- The first part of `save`: an upload that is reported as ok sets `urlFoto`. -/
def enviarFoto (stored : Option String) (c : Carro) : Option Foto → Carro
  | none => c
  | some foto =>
    let response := UploadApi.upload stored foto
    if response.ok then { c with urlFoto := response.result } else c

/-- The upload of a photo writes `urlFoto` only. -/
lemma exists_enviarFoto (stored : Option String) (c : Carro) (file : Option Foto) :
    ∃ urlFoto, enviarFoto stored c file = { c with urlFoto } := by
  cases file with
  | none => exact ⟨c.urlFoto, rfl⟩
  | some foto =>
    simp only [enviarFoto]
    split
    · exact ⟨_, rfl⟩
    · exact ⟨c.urlFoto, rfl⟩

/-- The method of a save: a car without an id is posted. -/
def saveMethod (c : Carro) : Method := if c.id = none then .post else .put

/-- The URL of a save: a car with an id has its own. -/
def saveUrl (c : Carro) : String := if c.id = none then urlCarros else urlCarro c.id

/-- `CarrosApi.save`: the response, the car as it is left, and the world. -/
def save (transport : Transport σ) (stored : Option String) (c : Carro) (file : Option Foto)
    (w : σ) : ApiResponse Bool × Carro × σ :=
  let c := enviarFoto stored c file
  match headers stored with
  | .error _ => (.failure (some msgSalvar), c, w)
  | .ok _ =>
    let (answer, w') := request transport stored (saveMethod c) (saveUrl c) (some c.toJson) w
    (orFailure msgSalvar (answer.bind saveAnswer), c, w')

/-- `CarrosApi.delete`. -/
def delete (transport : Transport σ) (stored : Option String) (c : Carro) (w : σ) :
    ApiResponse Bool × σ :=
  match headers stored with
  | .error _ => (.failure (some msgDeletar), w)
  | .ok _ =>
    let (answer, w') := request transport stored .delete (urlCarro c.id) none w
    (orFailure msgDeletar (answer.bind deleteAnswer), w')

end CarrosApi

end Carros
